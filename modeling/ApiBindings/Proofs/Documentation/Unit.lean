import ApiBindings.Proofs.Documentation.Related
import ApiBindings.Proofs.Unit.Growth
set_option autoImplicit false

namespace ApiBindings

structure Field.Agrees (loose : Prop) (a b : Field) : Prop where
  name : a.name = b.name
  required : a.required = b.required
  tag : a.tag = b.tag
  type : a.type = b.type ∨ (loose ∧ a.required = true ∧ a.type.toPointer = b.type.toPointer)

inductive DeclarationShape.Agrees (loose : Prop) : DeclarationShape → DeclarationShape → Prop where
  | same (shape : DeclarationShape) : Agrees loose shape shape
  | record {first second : List Field} (fields : List.Forall₂ (Field.Agrees loose) first second) :
      Agrees loose (.record first) (.record second)

structure Declaration.Agrees (loose : Prop) (a b : Declaration) : Prop where
  name : a.name = b.name
  shape : a.shape.Agrees loose b.shape

def Function.undocumented (f : Function) : Function := { f with doc := none }

structure SourceUnit.Agrees (loose : Prop) (a b : SourceUnit) : Prop where
  package : a.package = b.package
  declarations : List.Forall₂ (Declaration.Agrees loose) a.declarations b.declarations
  functions : a.functions.map Function.undocumented = b.functions.map Function.undocumented
  names : a.names = b.names

-- Fields that were compiled from properties have tags. Those of the error of a
-- look-up have none, which tells its declaration from all others.
def DeclarationShape.Tagged (shape : DeclarationShape) : Prop :=
  ∀ fields, shape = .record fields → ∀ field ∈ fields, field.tag.isSome = true

section

variable {loose : Prop}

theorem fields_agree_tagged (first second : List Field) (agree : List.Forall₂ (Field.Agrees loose) first second) :
    (∀ field ∈ first, field.tag.isSome = true) ↔ ∀ field ∈ second, field.tag.isSome = true := by
  induction agree with
  | nil => exact Iff.rfl
  | cons own _ ih => rw [List.forall_mem_cons, List.forall_mem_cons, own.tag, ih]

theorem shapes_agree_tagged (a b : DeclarationShape) (agree : a.Agrees loose b) : a.Tagged ↔ b.Tagged := by
  cases agree with
  | same => exact Iff.rfl
  | @record first second fields =>
      have listed (own : List Field) : (DeclarationShape.record own).Tagged ↔ ∀ field ∈ own, field.tag.isSome = true :=
        ⟨fun tagged => tagged own rfl, fun tagged others same => DeclarationShape.record.inj same ▸ tagged⟩
      rw [listed, listed, fields_agree_tagged first second fields]

theorem untagged_differs (existing d : Declaration) (untagged : ¬ existing.shape.Tagged) (tagged : d.shape.Tagged) :
    (existing == d) = false := by
  rw [Bool.eq_false_iff]
  intro same
  rw [declaration_same, Bool.and_eq_true, Bool.and_eq_true] at same
  rcases DeclarationShape.same_alike existing.shape d.shape same.2.2 with equal | ⟨_, _, _, _, own, _⟩
  · exact untagged (equal ▸ tagged)
  · refine untagged fun fields record => ?_
    rw [own] at record
    cases record

theorem record_fields_agree (first second : List Field)
    (agree : (DeclarationShape.record first).Agrees loose (.record second)) :
    List.Forall₂ (Field.Agrees loose) first second := by
  cases agree with
  | same => exact List.forall₂_same.mpr fun field _ => ⟨rfl, rfl, rfl, Or.inl rfl⟩
  | record fields => exact fields

namespace SourceUnit

theorem agrees_find (a b : SourceUnit) (agree : a.Agrees loose b) (name : String) :
    (a.find? name = none ∧ b.find? name = none) ∨
      ∃ d e, a.find? name = some d ∧ b.find? name = some e ∧ d.Agrees loose e :=
  option_cases _ _ (find_related _ _ (fun d e own => by rw [own.name]) _ _ agree.declarations)

theorem agrees_record (a b : SourceUnit) (agree : a.Agrees loose b) (name : String) :
    a.isRecord name = b.isRecord name := by
  have kind (shape other : DeclarationShape) (own : shape.Agrees loose other) : shape.isRecord = other.isRecord := by
    cases own <;> rfl
  unfold isRecord
  rcases agrees_find a b agree name with ⟨none, other⟩ | ⟨d, e, found, other, own⟩
  · rw [none, other]
  · rw [found, other]
    exact kind d.shape e.shape own.shape

theorem agrees_append (a b : SourceUnit) (agree : a.Agrees loose b) (d e : Declaration) (own : d.Agrees loose e) :
    SourceUnit.Agrees loose { a with declarations := a.declarations ++ [d] }
      { b with declarations := b.declarations ++ [e] } :=
  ⟨agree.package, List.rel_append agree.declarations (.cons own .nil), agree.functions, agree.names⟩

theorem agrees_push (a b : SourceUnit) (agree : a.Agrees loose b) (f g : Function)
    (same : f.undocumented = g.undocumented) : (a.push f).Agrees loose (b.push g) := by
  refine ⟨agree.package, agree.declarations, ?_, agree.names⟩
  rw [push, push, List.map_append, List.map_append, agree.functions, List.map_singleton, List.map_singleton, same]

theorem agrees_claim (a b : SourceUnit) (agree : a.Agrees loose b) (base : String) :
    (a.claim base).1 = (b.claim base).1 ∧ (a.claim base).2.Agrees loose (b.claim base).2 := by
  rw [claim, claim, agree.names]
  exact ⟨rfl, agree.package, agree.declarations, agree.functions, rfl⟩

theorem agrees_reserve (a b : SourceUnit) (agree : a.Agrees loose b) (names : List String) :
    (names.foldl reserve a).Agrees loose (names.foldl reserve b) := by
  induction names generalizing a b with
  | nil => exact agree
  | cons name rest ih =>
      refine ih (a.reserve name) (b.reserve name) ⟨agree.package, agree.declarations, agree.functions, ?_⟩
      rw [reserve, reserve, agree.names]

end SourceUnit

end

end ApiBindings
