import ApiBindings.Number.Shortest
set_option autoImplicit false

namespace ApiBindings

open ApiBindings.Number (Double)

inductive TypeNames where
  | single (name : String)
  | several (names : List String)
deriving DecidableEq, Repr

inductive EnumValue where
  | text (s : String)
  | integer (n : Int)
  | double (x : Double)
  | flag (b : Bool)
  | null
deriving DecidableEq, Repr

inductive ExclusiveBound where
  | flag (b : Bool)
  | value (x : Double)
deriving DecidableEq, Repr

structure Limits where
  minimum : Option Double := none
  maximum : Option Double := none
  exclusiveMinimum : Option ExclusiveBound := none
  exclusiveMaximum : Option ExclusiveBound := none
  minLength : Option Nat := none
  maxLength : Option Nat := none
  minItems : Option Nat := none
  maxItems : Option Nat := none
deriving DecidableEq, Repr

mutual

inductive OtherProperties where
  | allowed (b : Bool)
  | schema (s : Schema)

structure Schema where
  type : Option TypeNames := none
  ref : Option String := none
  title : Option String := none
  description : Option String := none
  format : Option String := none
  enumValues : Option (List EnumValue) := none
  properties : Option (List (String × Schema)) := none
  required : Option (List String) := none
  items : Option Schema := none
  additional : Option OtherProperties := none
  nullable : Option Bool := none
  anyOf : Option (List Schema) := none
  oneOf : Option (List Schema) := none
  allOf : Option (List Schema) := none
  limits : Limits := {}

end

instance : Inhabited Schema := ⟨{}⟩

mutual

def OtherProperties.same : OtherProperties → OtherProperties → Bool
  | .allowed a, .allowed b => a == b
  | .schema a, .schema b => a.same b
  | _, _ => false

def Schema.same : Schema → Schema → Bool
  | ⟨t, r, ti, d, f, e, p, q, i, o, n, ay, on, al, l⟩,
    ⟨t', r', ti', d', f', e', p', q', i', o', n', ay', on', al', l'⟩ =>
    t == t' && r == r' && ti == ti' && d == d' && f == f' && e == e' && sameProperties? p p' && q == q' &&
      sameSchema? i i' && sameOthers? o o' && n == n' && sameMembers? ay ay' && sameMembers? on on' &&
      sameMembers? al al' && l == l'

def sameSchema? : Option Schema → Option Schema → Bool
  | none, none => true
  | some a, some b => a.same b
  | _, _ => false

def sameOthers? : Option OtherProperties → Option OtherProperties → Bool
  | none, none => true
  | some a, some b => a.same b
  | _, _ => false

def sameMembers? : Option (List Schema) → Option (List Schema) → Bool
  | none, none => true
  | some a, some b => sameMembers a b
  | _, _ => false

def sameMembers : List Schema → List Schema → Bool
  | [], [] => true
  | a :: as, b :: bs => a.same b && sameMembers as bs
  | _, _ => false

def sameProperties? : Option (List (String × Schema)) → Option (List (String × Schema)) → Bool
  | none, none => true
  | some a, some b => sameProperties a b
  | _, _ => false

def sameProperties : List (String × Schema) → List (String × Schema) → Bool
  | [], [] => true
  | a :: as, b :: bs => sameProperty a b && sameProperties as bs
  | _, _ => false

def sameProperty : String × Schema → String × Schema → Bool
  | (k, a), (l, b) => k == l && a.same b

end

mutual

theorem OtherProperties.same_iff : ∀ a b : OtherProperties, a.same b = true ↔ a = b
  | .allowed a, .allowed b => by simp [OtherProperties.same]
  | .schema a, .schema b => by simp [OtherProperties.same, Schema.same_iff a b]
  | .allowed _, .schema _ => by simp [OtherProperties.same]
  | .schema _, .allowed _ => by simp [OtherProperties.same]

theorem Schema.same_iff : ∀ a b : Schema, a.same b = true ↔ a = b
  | ⟨t, r, ti, d, f, e, p, q, i, o, n, ay, on, al, l⟩,
    ⟨t', r', ti', d', f', e', p', q', i', o', n', ay', on', al', l'⟩ => by
    simp only [Schema.same, Bool.and_eq_true, beq_iff_eq, Schema.mk.injEq, same_optional_properties_iff p p',
      same_optional_schema_iff i i', same_others_iff o o', same_optional_members_iff ay ay', same_optional_members_iff on on',
      same_optional_members_iff al al', and_assoc]

theorem same_optional_schema_iff : ∀ a b : Option Schema, sameSchema? a b = true ↔ a = b
  | none, none => by simp [sameSchema?]
  | some a, some b => by simp [sameSchema?, Schema.same_iff a b]
  | none, some _ => by simp [sameSchema?]
  | some _, none => by simp [sameSchema?]

theorem same_others_iff : ∀ a b : Option OtherProperties, sameOthers? a b = true ↔ a = b
  | none, none => by simp [sameOthers?]
  | some a, some b => by simp [sameOthers?, OtherProperties.same_iff a b]
  | none, some _ => by simp [sameOthers?]
  | some _, none => by simp [sameOthers?]

theorem same_optional_members_iff : ∀ a b : Option (List Schema), sameMembers? a b = true ↔ a = b
  | none, none => by simp [sameMembers?]
  | some a, some b => by simp [sameMembers?, same_members_iff a b]
  | none, some _ => by simp [sameMembers?]
  | some _, none => by simp [sameMembers?]

theorem same_members_iff : ∀ a b : List Schema, sameMembers a b = true ↔ a = b
  | [], [] => by simp [sameMembers]
  | a :: as, b :: bs => by simp [sameMembers, Schema.same_iff a b, same_members_iff as bs]
  | [], _ :: _ => by simp [sameMembers]
  | _ :: _, [] => by simp [sameMembers]

theorem same_optional_properties_iff :
    ∀ a b : Option (List (String × Schema)), sameProperties? a b = true ↔ a = b
  | none, none => by simp [sameProperties?]
  | some a, some b => by simp [sameProperties?, same_properties_iff a b]
  | none, some _ => by simp [sameProperties?]
  | some _, none => by simp [sameProperties?]

theorem same_properties_iff : ∀ a b : List (String × Schema), sameProperties a b = true ↔ a = b
  | [], [] => by simp [sameProperties]
  | a :: as, b :: bs => by simp [sameProperties, same_property_iff a b, same_properties_iff as bs]
  | [], _ :: _ => by simp [sameProperties]
  | _ :: _, [] => by simp [sameProperties]

theorem same_property_iff : ∀ a b : String × Schema, sameProperty a b = true ↔ a = b
  | (k, a), (l, b) => by simp [sameProperty, Schema.same_iff a b]

end

-- Field by field, so the two zeros differ.
instance : DecidableEq Schema := fun a b => decidable_of_iff _ (Schema.same_iff a b)

def EnumValue.display : EnumValue → String
  | .text s => s
  | .integer n => toString n
  | .double x => x.display
  | .flag b => toString b
  | .null => "null"

namespace Schema

def firstType (s : Schema) : Option String :=
  match s.type with
  | some (.single name) => if name = "null" then none else some name
  | some (.several names) => names.find? (· ≠ "null")
  | none => none

def isNull (s : Schema) : Bool :=
  match s.type with
  | some (.single name) => name = "null"
  | some (.several names) => names.all (· = "null")
  | none => false

def union (s : Schema) : Option (List Schema) := s.anyOf.or s.oneOf

def nullablePartner (s : Schema) : Option Schema :=
  match s.union with
  | some [a, b] => if b.isNull then some a else if a.isNull then some b else none
  | _ => none

def requires (s : Schema) (property : String) : Bool :=
  s.required.any (·.contains property)

def isShapeless (s : Schema) : Bool :=
  s.type.isNone && s.ref.isNone && s.format.isNone && s.enumValues.isNone && s.properties.isNone &&
    s.items.isNone && s.additional.isNone && s.anyOf.isNone && s.oneOf.isNone && s.allOf.isNone

end Schema

end ApiBindings
