import ApiBindings.Proofs.Documentation.Lockstep
import ApiBindings.Proofs.Documentation.Reference
set_option autoImplicit false

namespace ApiBindings

def Schema.Agrees (s t : Schema) : Prop := s.undocumented = t.undocumented

def Parameter.Agrees (p q : Parameter) : Prop := p.undocumented = q.undocumented

def Components.Agrees (first second : Components) : Prop := first.undocumented = second.undocumented

def Document.Agrees (doc other : Document) : Prop := doc.undocumented = other.undocumented

structure EntryRelated (related : Schema → Schema → Prop) (p q : String × Schema) : Prop where
  name : p.1 = q.1
  schema : related p.2 q.2

theorem entry_cases (related : Schema → Schema → Prop) (p q : String × Schema) (entry : EntryRelated related p q) :
    ∃ key s t, p = (key, s) ∧ q = (key, t) ∧ related s t :=
  ⟨p.1, p.2, q.2, rfl, Prod.ext entry.name.symm rfl, entry.schema⟩

theorem entries_names (related : Schema → Schema → Prop) (first second : List (String × Schema))
    (entries : List.Forall₂ (EntryRelated related) first second) : first.map Prod.fst = second.map Prod.fst := by
  rw [← List.forall₂_eq_eq_eq, List.forall₂_map_left_iff, List.forall₂_map_right_iff]
  exact entries.imp fun _ _ entry => entry.name

inductive Shape.Related (related : Schema → Schema → Prop) : Shape → Shape → Prop where
  | scalar (type : ScalarType) : Related related (.scalar type) (.scalar type)
  | enumeration (type : ScalarType) (values : List EnumValue) :
      Related related (.enumeration type values) (.enumeration type values)
  | array {s t : Schema} (items : related s t) : Related related (.array s) (.array t)
  | object {first second : List (String × Schema)} (properties : List.Forall₂ (EntryRelated related) first second) :
      Related related (.object first) (.object second)
  | openMap : Related related (.map none) (.map none)
  | map {s t : Schema} (value : related s t) : Related related (.map (some s)) (.map (some t))

theorem entries_agree (first second : List (String × Schema))
    (same : first.map undocumentedEntry = second.map undocumentedEntry) :
    List.Forall₂ (EntryRelated Schema.Agrees) first second :=
  (forall_of_map _ _ first second same).imp fun _ _ entry => ⟨(Prod.mk.inj entry).1, (Prod.mk.inj entry).2⟩

theorem shapes_agree (a b : Shape) (same : a.undocumented = b.undocumented) : a.Related Schema.Agrees b := by
  cases a <;> cases b
  case scalar.scalar => exact Shape.scalar.inj same ▸ .scalar _
  case enumeration.enumeration =>
      obtain ⟨rfl, rfl⟩ := Shape.enumeration.inj same
      exact .enumeration _ _
  case array.array => exact .array (Shape.array.inj same)
  case object.object => exact .object (entries_agree _ _ (Shape.object.inj same))
  case map.map value other =>
      have values := Shape.map.inj same
      cases value <;> cases other
      case none.none => exact .openMap
      case some.some => exact .map (Option.some.inj values)
      all_goals cases values
  all_goals cases same

theorem Schema.agrees_effective (s t : Schema) (agree : s.Agrees t) : Results Schema.Agrees s.effective t.effective :=
  results_of_map _ _ _ _ (by rw [← undocumented_effective, agree, undocumented_effective])

theorem Schema.agrees_classify (s t : Schema) (agree : s.Agrees t) :
    Results (Shape.Related Schema.Agrees) s.classify t.classify := by
  have same : s.classify.map Shape.undocumented = t.classify.map Shape.undocumented := by
    rw [← undocumented_classify, agree, undocumented_classify]
  exact results_weaken _ _ (results_of_map _ _ _ _ same) shapes_agree

namespace Schema

section

variable (s t : Schema) (agree : s.Agrees t)
include agree

theorem agrees_ref : s.ref = t.ref := by
  rw [← undocumented_ref, agree, undocumented_ref]

theorem agrees_requires (property : String) : s.requires property = t.requires property := by
  rw [← undocumented_requires, agree, undocumented_requires]

theorem agrees_bare_reference : s.bareReference = t.bareReference := by
  rw [← undocumented_bare_reference, agree, undocumented_bare_reference]

theorem agrees_array_of_reference : s.arrayOfReference = t.arrayOfReference := by
  rw [← undocumented_array_of_reference, agree, undocumented_array_of_reference]

theorem agrees_partner : (s.nullablePartner.getD s).Agrees (t.nullablePartner.getD t) := by
  have inner (u : Schema) : (u.nullablePartner.getD u).undocumented = u.undocumented.nullablePartner.getD u.undocumented := by
    rw [undocumented_nullable_partner]
    cases u.nullablePartner <;> rfl
  rw [Agrees, inner, inner, agree]

theorem agrees_validation_rules (required : Bool) : s.validationRules required = t.validationRules required := by
  rw [validationRules, validationRules, ← undocumented_limits, agree, undocumented_limits]

theorem agrees_named : (s.properties = none ∧ t.properties = none) ∨
    ∃ first second, s.properties = some first ∧ t.properties = some second ∧
      List.Forall₂ (EntryRelated Schema.Agrees) first second := by
  have same : s.properties.map (·.map undocumentedEntry) = t.properties.map (·.map undocumentedEntry) := by
    rw [← undocumented_named, agree, undocumented_named]
  cases first : s.properties <;> cases second : t.properties <;> rw [first, second] at same
  case none.none => exact Or.inl ⟨rfl, rfl⟩
  case some.some => exact Or.inr ⟨_, _, rfl, rfl, entries_agree _ _ (Option.some.inj same)⟩
  all_goals cases same

end

end Schema

namespace Components

variable (first second : Components) (agree : first.Agrees second)
include agree

theorem agrees_schemas : List.Forall₂ (EntryRelated Schema.Agrees) first.schemas second.schemas :=
  entries_agree _ _ (congrArg Components.schemas agree)

theorem agrees_type_name (path : String) : first.typeName path = second.typeName path := by
  rw [← undocumented_type_name, agree, undocumented_type_name]

theorem agrees_resolve (s t : Schema) (same : s.Agrees t) :
    Results Schema.Agrees (first.resolve s) (second.resolve t) :=
  results_of_map _ _ _ _ (by rw [← undocumented_resolve, agree, same, undocumented_resolve])

theorem agrees_target_shape (s t : Schema) (same : s.Agrees t) :
    Results (Shape.Related Schema.Agrees) (first.targetShape s) (second.targetShape t) :=
  results_bind _ _ _ _ (first.agrees_resolve second agree s t same) Schema.agrees_classify

theorem agrees_is_collection_ref (s t : Schema) (same : s.Agrees t) :
    first.isCollectionRef s = second.isCollectionRef t := by
  rw [← undocumented_is_collection_ref, agree, same, undocumented_is_collection_ref]

theorem agrees_is_object_ref (s t : Schema) (same : s.Agrees t) : first.isObjectRef s = second.isObjectRef t := by
  rw [← undocumented_is_object_ref, agree, same, undocumented_is_object_ref]

end Components

end ApiBindings
