import ApiBindings.Rendering.Cycle
import ApiBindings.Rendering.Enumeration
import ApiBindings.Rendering.Rules
import ApiBindings.Unit.Basic
set_option autoImplicit false

namespace ApiBindings

abbrev Build (α : Type) := ExceptT Failure (StateM SourceUnit) α

namespace Build

variable {α : Type}

def result (build : Build α) (unit : SourceUnit) : Except Failure α × SourceUnit :=
  StateT.run (ExceptT.run build) unit

def check (name : String) (checked : Except Defect α) : Build α :=
  match checked with
  | .ok a => pure a
  | .error defect => throw (defect.at name)

def claim (base : String) : Build String := do
  let (name, unit) := (← get).claim base
  set unit
  pure name

def declare (declaration : Declaration) : Build Unit := do
  match (← get).declare declaration with
  | .ok unit => set unit
  | .error failure => throw failure

def push (function : Function) : Build Unit := modify (·.push function)

end Build

def firstDoc (texts : List (Option String)) : Option String :=
  texts.findSome? fun text =>
    match text.map fun text => Text.docLines text.toList with
    | some (line :: rest) => some ("\n".intercalate ((line :: rest).map String.ofList))
    | _ => none

def Schema.doc (s : Schema) : Option String := firstDoc [s.description, s.title]

def isTagSafe (c : Char) : Bool := !(c = '\x60' || c = '"' || c = '\\' || Text.isControl c)

-- The type of a field: optional values that have no empty value of their own
-- become pointers, and so do required ones that lead back to what is being
-- declared.
def fieldType (type : TypeExpr) (collection required : Bool) (closesCycle : Unit → Bool) : TypeExpr :=
  if collection || type.isNilable then type
  else if !required || closesCycle () then type.toPointer
  else type

section

variable (components : Components)

section

-- What stands for an object that is being expanded already, given the name that it is expanded under.
variable (collide : String → Build TypeExpr)

mutual

def declareSchemaOr (guard : Guard Schema) (name : String) (s : Schema) : Build Unit := do
  match _stripped : s.effective with
  | .error defect => throw (defect.at name)
  | .ok target =>
    -- What is nested is declared while the shape is made, before the name itself.
    let shape ← match target.ref with
      | some path => DeclarationShape.alias <$> (.named <$> Build.check name (components.typeName path))
      | none =>
        match _shaped : target.classify with
        | .error defect => throw (defect.at name)
        | .ok (.scalar type) => pure (.alias (.ofScalar type))
        | .ok (.enumeration type values) =>
          match enumShape name type values with
          | .ok shape => pure shape
          | .error cause => throw (.malformed name cause)
        | .ok (.array items) => .slice <$> elementTypeOr guard (name ++ "Item") items
        | .ok (.object properties) => .record <$> declareFieldsOr guard name target {} properties
        | .ok (.map none) => pure (.map .any)
        | .ok (.map (some value)) => .map <$> elementTypeOr guard (name ++ "Value") value
    Build.declare { name, doc := s.doc.or target.doc, shape }
termination_by 2 * sizeOf s
decreasing_by
  all_goals
    have := Schema.effective_size_le _stripped
    have := Schema.holds_classify _shaped
    simp only [Schema.Holds] at this
    omega

def elementTypeOr (guard : Guard Schema) (hint : String) (s : Schema) : Build TypeExpr := do
  match _stripped : s.effective with
  | .error defect => throw (defect.at hint)
  | .ok target =>
    match target.ref with
    | some path => .named <$> Build.check hint (components.typeName path)
    | none =>
      match _shaped : target.classify with
      | .error defect => throw (defect.at hint)
      | .ok (.scalar type) => pure (.ofScalar type)
      | .ok (.enumeration _ _) =>
        let name ← Build.claim hint
        declareSchemaOr guard name target
        pure (.named name)
      | .ok (.array items) => .slice <$> elementTypeOr guard (hint ++ "Item") items
      | .ok (.map none) => pure (.map .any)
      | .ok (.map (some value)) => .map <$> elementTypeOr guard (hint ++ "Value") value
      | .ok (.object _) =>
        match guard.inProgress target with
        | some active => collide active
        | none =>
          let name ← Build.claim hint
          declareSchemaOr (guard.enter target name) name target
          pure (.named name)
termination_by 2 * sizeOf s + 1
decreasing_by
  all_goals
    have := Schema.effective_size_le _stripped
    first
    | omega
    | have := Schema.holds_classify _shaped
      simp only [Schema.Holds] at this
      omega

def declareFieldsOr (guard : Guard Schema) (parent : String) (object : Schema) (names : Names) :
    List (String × Schema) → Build (List Field)
  | [] => pure []
  | (wire, property) :: rest => do
    if let some bad := wire.toList.find? (!isTagSafe ·) then
      throw (.malformed parent (.unsafePropertyName wire bad))
    let (name, names) := names.claim (Naming.exported wire)
    let required := object.requires wire
    let hint := parent ++ name
    match _stripped : property.effective with
    | .error defect => throw (defect.at hint)
    | .ok target =>
      let collection ← match target.ref with
        | some _ => Build.check hint (components.isCollectionRef target)
        | none => pure false
      let type ← elementTypeOr guard hint target
      let constraints := property.nullablePartner.getD property
      let field : Field := {
        name
        doc := property.doc.or constraints.doc
        type := fieldType type collection required fun _ => components.closesCycle guard property
        required
        tag := some { wire, omitEmpty := !required, rules := constraints.validationRules required } }
      let others ← declareFieldsOr guard parent object names rest
      pure (field :: others)
termination_by properties => 2 * sizeOf properties
decreasing_by
  · have := Schema.effective_size_le _stripped
    simp only [List.cons.sizeOf_spec, Prod.mk.sizeOf_spec]
    omega
  · simp only [List.cons.sizeOf_spec]
    omega

end

end

def declareSchema (guard : Guard Schema) (name : String) (s : Schema) : Build Unit :=
  declareSchemaOr components (fun active => pure (.named active)) guard name s

def elementType (guard : Guard Schema) (hint : String) (s : Schema) : Build TypeExpr :=
  elementTypeOr components (fun active => pure (.named active)) guard hint s

def declareFields (guard : Guard Schema) (parent : String) (object : Schema) (names : Names)
    (properties : List (String × Schema)) : Build (List Field) :=
  declareFieldsOr components (fun active => pure (.named active)) guard parent object names properties

def render (name : String) (s : Schema) : Build Unit :=
  declareSchema components (Guard.enter {} s name) name s

def valueType (hint : String) (s : Schema) : Build TypeExpr := elementType components {} hint s

end

end ApiBindings
