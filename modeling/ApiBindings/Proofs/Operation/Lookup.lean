import ApiBindings.Proofs.Operation.Finder
import ApiBindings.Proofs.Operation.Lists
import ApiBindings.Proofs.Rendering.Compound
set_option autoImplicit false

namespace ApiBindings

def TypeExpr.isPointer : TypeExpr → Bool
  | .pointer _ => true
  | _ => false

def TypeExpr.value : TypeExpr → TypeExpr
  | .pointer type => type
  | type => type

def Components.RefersToBytes (components : Components) (s : Schema) : Prop :=
  ∃ target, s.effective = .ok target ∧ target.ref.isSome = true ∧ components.targetShape s = .ok (.scalar .bytes)

-- A finder field reads the field of a record: it has its name, knows whether it
-- is a `string`, and whether it is a pointer unless it refers to bytes.
def FinderField.Reads (components : Components) (item : Schema) (fields : List Field) (wire : String)
    (read : FinderField) : Prop :=
  ∃ property, (item.properties.getD []).lookup wire = some property ∧
    ∃ field ∈ fields, field.tag.map (·.wire) = some wire ∧ field.name = read.name ∧
      (read.isString = true ↔ field.type.value = .named "string") ∧
      (read.pointer = true ↔ field.type.isPointer = true ∧ ¬ components.RefersToBytes property)

inductive SimplyTyped (target : Schema) : Shape → TypeExpr → Prop where
  | reference {shape : Shape} {name : String} (refers : target.ref.isSome = true) (capital : Naming.Capital name) :
      SimplyTyped target shape (.named name)
  | scalar {type : ScalarType} (inline : target.ref = none) : SimplyTyped target (.scalar type) (.ofScalar type)
  | enumeration {type : ScalarType} {values : List EnumValue} {name : String} (inline : target.ref = none)
      (capital : Naming.Capital name) : SimplyTyped target (.enumeration type values) (.named name)

theorem refers_to_bytes_iff (components : Components) (property direct : Schema) (shape : Shape)
    (bare : property.effective = .ok direct) (shaped : components.targetShape property = .ok shape) :
    components.RefersToBytes property ↔ direct.ref.isSome = true ∧ shape.isBytes = true := by
  constructor
  · rintro ⟨target, stripped, refers, bytes⟩
    obtain rfl := Except.ok.inj (bare.symm.trans stripped)
    obtain rfl := Except.ok.inj (shaped.symm.trans bytes)
    exact ⟨refers, rfl⟩
  · rintro ⟨refers, bytes⟩
    cases shape with
    | scalar scalar => exact ⟨direct, bare, refers, of_decide_eq_true bytes ▸ shaped⟩
    | enumeration | array | object | map => cases bytes

theorem simply_typed_plain (target : Schema) (shape : Shape) (type : TypeExpr) (typed : SimplyTyped target shape type) :
    type.isPointer = false := by
  cases typed with
  | reference | enumeration => rfl
  | @scalar scalar => cases scalar <;> rfl

theorem simply_typed_text (target : Schema) (shape : Shape) (type : TypeExpr) (typed : SimplyTyped target shape type) :
    (target.ref.isNone && shape.isText) = true ↔ type = .named "string" := by
  have other (name : String) (capital : Naming.Capital name) : TypeExpr.named name ≠ .named "string" := fun same =>
    absurd (TypeExpr.named.inj same ▸ capital) (by decide : ¬ Naming.Capital "string")
  cases typed with
  | reference refers capital => simp [other _ capital, Option.isNone_eq_false_iff.mpr refers]
  | @scalar scalar inline => cases scalar <;> simp [inline, Shape.isText, TypeExpr.ofScalar, ScalarType.name]
  | enumeration inline capital => simp [other _ capital, Shape.isText]

theorem simply_typed_bytes (target : Schema) (shape : Shape) (type : TypeExpr) (typed : SimplyTyped target shape type) :
    type.isNilable = (target.ref.isNone && shape.isBytes) := by
  cases typed with
  | reference refers => simp [TypeExpr.isNilable, Option.isNone_eq_false_iff.mpr refers]
  | @scalar scalar inline => cases scalar <;> simp [inline, Shape.isBytes, TypeExpr.ofScalar, TypeExpr.isNilable]
  | enumeration => simp [TypeExpr.isNilable, Shape.isBytes]

theorem simple_element_typed (components : Components) (guard : Guard Schema) (hint : String) (target : Schema)
    (type : TypeExpr) (shape : Shape) (before after : SourceUnit) (bare : target.effective = .ok target)
    (shaped : components.targetShape target = .ok shape) (simple : shape.isSimple = true) (capital : Naming.Capital hint)
    (rendered : Rendered components (.element guard hint target type) before after) : SimplyTyped target shape type := by
  have inner {found : Schema} {other : Shape} (stripped : target.effective = .ok found) (inline : found.ref = none)
      (classified : found.classify = .ok other) : found = target ∧ other = shape := by
    obtain rfl := Except.ok.inj (bare.symm.trans stripped)
    exact ⟨rfl, Except.ok.inj (classified.symm.trans (inline_shape components target shape bare inline shaped))⟩
  cases rendered with
  | elementReference stripped reference named =>
      obtain rfl := Except.ok.inj (bare.symm.trans stripped)
      exact .reference (by rw [reference]; rfl) (type_name_capital components _ _ named)
  | elementScalar stripped inline classified =>
      obtain ⟨rfl, rfl⟩ := inner stripped inline classified
      exact .scalar inline
  | elementEnumeration stripped inline classified claimed =>
      obtain ⟨rfl, rfl⟩ := inner stripped inline classified
      exact .enumeration inline (claim_based Naming.Capital Naming.capital_append _ _ _ _ claimed capital).2
  | elementSlice stripped inline classified | elementOpenMap stripped inline classified
  | elementMap stripped inline classified | elementRecord stripped inline classified =>
      obtain ⟨rfl, rfl⟩ := inner stripped inline classified
      exact Bool.noConfusion simple

theorem named_field (components : Components) (guard : Guard Schema) (parent : String) (object : Schema) (names : Names)
    (properties : List (String × Schema)) (fields : List Field) (before after : SourceUnit) (wire name : String)
    (property : Schema) (rendered : Rendered components (.fields guard parent object names properties fields) before after)
    (listed : properties.lookup wire = some property) (named : (fieldNames names properties).lookup wire = some name) :
    ∃ target type collection first last, property.effective = .ok target ∧
      components.isCollection target = .ok collection ∧
      Rendered components (.element guard (parent ++ name) target type) first last ∧ Naming.Word name ∧
      propertyField components guard object name wire property type collection ∈ fields := by
  induction properties generalizing names fields before with
  | nil => cases listed
  | cons entry rest ih =>
      cases rendered with
      | @field _ _ _ _ others key own held target _ type collection _ _ middle _ _ claimed stripped collects typed
          compiled =>
          have taken : (names.claim (Naming.exported key)).1 = own := by rw [claimed]
          have left : (names.claim (Naming.exported key)).2 = others := by rw [claimed]
          rw [fieldNames] at named
          dsimp only at named
          rw [taken, left, List.lookup_cons] at named
          rw [List.lookup_cons] at listed
          cases same : wire == key with
          | true =>
              rw [same] at listed named
              obtain rfl := Option.some.inj listed
              obtain rfl := Option.some.inj named
              obtain rfl : wire = key := eq_of_beq same
              exact ⟨target, type, collection, before, middle, stripped, collects, typed,
                field_name_word _ _ _ _ claimed, List.mem_cons_self⟩
          | false =>
              rw [same] at listed named
              obtain ⟨target, type, collection, first, last, stripped, collects, typed, word, member⟩ :=
                ih others _ middle compiled listed named
              exact ⟨target, type, collection, first, last, stripped, collects, typed, word,
                List.mem_cons_of_mem _ member⟩

section

variable (components : Components)

theorem simple_not_collection (target : Schema) (shape : Shape) (collection : Bool)
    (shaped : components.targetShape target = .ok shape) (simple : shape.isSimple = true)
    (collects : components.isCollection target = .ok collection) : collection = false := by
  have kind : shape.isCollection = false := by
    cases shape with
    | scalar | enumeration => rfl
    | array | object | map => cases simple
  unfold Components.isCollection at collects
  split at collects
  · rw [Components.isCollectionRef, shaped] at collects
    rw [← kind]
    exact (Except.ok.inj collects).symm
  · exact (Except.ok.inj collects).symm

theorem simple_field_type (type : TypeExpr) (required : Bool) (closesCycle : Unit → Bool) (opened : closesCycle () = false)
    (plain : type.isPointer = false) :
    (fieldType type false required closesCycle).value = type ∧
      (fieldType type false required closesCycle).isPointer = (!required && !type.isNilable) := by
  unfold fieldType
  rw [Bool.false_or, opened, Bool.or_false]
  cases type with
  | pointer => cases plain
  | named => cases required <;> exact ⟨rfl, rfl⟩
  | slice | map | any => cases required <;> exact ⟨rfl, rfl⟩

theorem finder_field_reads (guard : Guard Schema) (compound : guard.Compound) (parent : String)
    (capital : Naming.Capital parent) (item : Schema) (properties : List (String × Schema)) (fields : List Field)
    (before after : SourceUnit) (wire : String) (read : FinderField) (held : item.properties = some properties)
    (rendered : Rendered components (.fields guard parent item {} properties fields) before after)
    (found : finderField components item (fieldNames {} properties) wire = .ok (some read)) :
    read.Reads components item fields wire := by
  obtain ⟨own, property, name, direct, shape, lists, listed, named, bare, shaped, simple, rfl⟩ :=
    finder_field_some components item _ wire read found
  obtain rfl := Option.some.inj (held.symm.trans lists)
  obtain ⟨target, type, collection, first, last, stripped, collects, typed, word, member⟩ :=
    named_field components guard parent item {} properties fields before after wire name property rendered listed named
  obtain rfl := Except.ok.inj (bare.symm.trans stripped)
  have again := Schema.effective_idempotent property direct bare
  have inner : components.targetShape direct = .ok shape := by
    rw [← shaped, resolve_effective components property direct bare]
  have hint := Naming.capital_append parent name word.chars capital
  have kind := simple_element_typed components guard _ direct type shape first last again inner simple hint typed
  obtain rfl := simple_not_collection components direct shape collection inner simple collects
  have opened := Cycle.simple_closes_none components guard compound property shape simple shaped
  obtain ⟨value, pointer⟩ := simple_field_type type (item.requires wire)
    (fun _ => components.closesCycle guard property) opened (simply_typed_plain direct shape type kind)
  have refers := refers_to_bytes_iff components property direct shape bare shaped
  refine ⟨property, by rw [held]; exact listed, _, member, rfl, rfl, ?_, ?_⟩
  · rw [property_field_type, value]
    exact simply_typed_text direct shape type kind
  · rw [property_field_type, pointer, simply_typed_bytes direct shape type kind, refers]
    cases item.requires wire <;> cases direct.ref <;> cases shape.isBytes <;> simp

end

end ApiBindings
