import ApiBindings.Proofs.Naming.Word
import ApiBindings.Proofs.Unit.Mention
import ApiBindings.Rendering.Basic
set_option autoImplicit false

namespace ApiBindings

structure TypeName (name : String) : Prop where
  nonempty : name ≠ ""
  chars : ∀ c ∈ name.toList, (Naming.isWordChar c || c = '.') = true

instance (name : String) : Decidable (TypeName name) :=
  decidable_of_iff (name ≠ "" ∧ name.toList.all (fun c => Naming.isWordChar c || c = '.') = true)
    ⟨fun named => ⟨named.1, List.all_eq_true.mp named.2⟩, fun named => ⟨named.nonempty, List.all_eq_true.mpr named.chars⟩⟩

theorem word_type_name (name : String) (word : Naming.Word name) : TypeName name :=
  ⟨word.nonempty, fun c member => by rw [word.chars c member, Bool.true_or]⟩

def TagSafe (text : String) : Prop := ∀ c ∈ text.toList, isTagSafe c = true

instance (text : String) : Decidable (TagSafe text) :=
  decidable_of_iff (text.toList.all isTagSafe = true) List.all_eq_true

def Indent (text : String) : Prop := ∀ c ∈ text.toList, c = '\t'

instance (text : String) : Decidable (Indent text) :=
  decidable_of_iff (text.toList.all (· = '\t') = true) (by simp [Indent])

structure FieldTag.Spelled (tag : FieldTag) : Prop where
  wire : TagSafe tag.wire
  rules : ∀ rules ∈ tag.rules, TagSafe rules

structure Field.Spelled (field : Field) : Prop where
  name : Naming.Word field.name
  tag : ∀ tag ∈ field.tag, tag.Spelled

def DeclarationShape.Spelled : DeclarationShape → Prop
  | .enumeration _ constants => ∀ constant ∈ constants, Naming.Word constant.name
  | .record fields => ∀ field ∈ fields, field.Spelled
  | _ => True

structure Declaration.Spelled (d : Declaration) : Prop where
  name : Naming.Word d.name
  shape : d.shape.Spelled

structure ClientCall.Spelled (call : ClientCall) : Prop where
  arguments : ∀ argument ∈ call.path.arguments, Naming.Word argument
  body : ∀ body ∈ call.body, Naming.Word body
  options : ∀ options ∈ call.options, Naming.Word options

structure Finder.Spelled (finder : Finder) : Prop where
  list : Naming.Word finder.list
  byName : Naming.Word finder.byName.name
  byId : Naming.Word finder.byId.name

def FunctionBody.Spelled : FunctionBody → Prop
  | .call request => request.Spelled
  | .finder search => search.Spelled
  | .queryOption .. | .notFoundMessage => True

structure Function.Spelled (f : Function) : Prop where
  name : Naming.Word f.name
  receiver : ∀ slot ∈ f.receiver, Naming.Word slot.name
  parameters : ∀ slot ∈ f.parameters, Naming.Word slot.name
  body : f.body.Spelled

structure SourceUnit.Spelled (unit : SourceUnit) : Prop where
  package : Naming.Word unit.package
  declarations : ∀ d ∈ unit.declarations, d.Spelled
  functions : ∀ f ∈ unit.functions, f.Spelled
  types : unit.Within TypeName

def Literal.bare : Literal → Literal
  | .text _ => .text ""
  | literal => literal

def Field.bare (field : Field) : Field :=
  { field with doc := none, tag := field.tag.map fun _ => { wire := "" } }

def DeclarationShape.bare : DeclarationShape → DeclarationShape
  | .enumeration underlying constants =>
    .enumeration underlying (constants.map fun constant => { constant with value := constant.value.bare })
  | .record fields => .record (fields.map Field.bare)
  | shape => shape

def Declaration.bare (d : Declaration) : Declaration := { name := d.name, shape := d.shape.bare }

def FunctionBody.bare : FunctionBody → FunctionBody
  | .call request => .call { request with path := { request.path with format := "" } }
  | .queryOption _ repeated => .queryOption "" repeated
  | .finder search => .finder { search with kind := "" }
  | .notFoundMessage => .notFoundMessage

def Function.bare (f : Function) : Function := { f with doc := none, body := f.body.bare }

def SourceUnit.bare (unit : SourceUnit) : SourceUnit :=
  { unit with
    declarations := unit.declarations.map Declaration.bare
    functions := unit.functions.map Function.bare }

theorem shape_bare_types (shape : DeclarationShape) : shape.bare.types = shape.types := by
  cases shape
  case record fields => exact List.map_map
  all_goals rfl

theorem body_bare_packages (body : FunctionBody) : body.bare.packages = body.packages := by cases body <;> rfl

theorem bare_types (unit : SourceUnit) : unit.bare.types = unit.types := by
  have declared : unit.bare.declarations.flatMap (·.shape.types) = unit.declarations.flatMap (·.shape.types) := by
    rw [SourceUnit.bare, List.flatMap_map]
    exact congrArg (unit.declarations.flatMap ·) (funext fun d => shape_bare_types d.shape)
  have called : unit.bare.functions.flatMap Function.types = unit.functions.flatMap Function.types := by
    rw [SourceUnit.bare, List.flatMap_map]
    rfl
  rw [SourceUnit.types, SourceUnit.types, declared, called]

theorem bare_imports (unit : SourceUnit) : unit.bare.imports = unit.imports := by
  have packages (package : Package) : unit.bare.functions.any (·.body.packages.contains package) =
      unit.functions.any (·.body.packages.contains package) := by
    rw [SourceUnit.bare, List.any_map]
    exact congrArg (unit.functions.any ·) (funext fun f => congrArg (·.contains package) (body_bare_packages f.body))
  unfold SourceUnit.imports
  congr 1
  funext package
  rw [SourceUnit.uses, SourceUnit.uses, bare_types, packages]

end ApiBindings
