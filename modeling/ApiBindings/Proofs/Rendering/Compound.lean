import ApiBindings.Proofs.Rendering.Reach
import ApiBindings.Proofs.Rendering.Scopes
import ApiBindings.Proofs.Shape.Reference
import Mathlib.Data.List.Nodup
set_option autoImplicit false

namespace ApiBindings

def Shape.parts : Shape → List Schema
  | .array items => [items]
  | .object properties => properties.map Prod.snd
  | .map value => value.toList
  | _ => []

structure Schema.Composed (s : Schema) : Prop where
  inline : s.ref = none
  shaped : ∃ shape, s.classify = .ok shape ∧ shape.isSimple = false

def Schema.Compound (s : Schema) : Prop := ∃ target, s.effective = .ok target ∧ target.Composed

def Guard.Compound (guard : Guard Schema) : Prop := ∀ s, guard.isActive s = true → s.Compound

theorem enter_is_active (guard : Guard Schema) (s t : Schema) (name : String) :
    (guard.enter s name).isActive t = (decide (t = s) || guard.isActive t) := by
  rw [Guard.isActive, enter_in_progress, Option.isSome_or, Guard.isActive, Bool.or_comm]
  by_cases same : t = s <;> simp [same]

theorem empty_compound : ({} : Guard Schema).Compound := fun _ active => Bool.noConfusion active

theorem enter_compound (guard : Guard Schema) (s : Schema) (name : String) (compound : guard.Compound) (own : s.Compound) :
    (guard.enter s name).Compound := by
  intro t active
  rw [enter_is_active, Bool.or_eq_true, decide_eq_true_eq] at active
  rcases active with rfl | earlier
  · exact own
  · exact compound t earlier

def Components.Resolves (components : Components) (shape : Shape) (s : Schema) : Prop :=
  ∃ target left found, s.effective = .ok target ∧ components.follow left target = .ok found ∧ found.classify = .ok shape

namespace Cycle

theorem reaches_resolves (components : Components) (shape : Shape) (simple : shape.isSimple = true) (s t : Schema)
    (resolves : components.Resolves shape s) (reached : Reaches components s t) : components.Resolves shape t := by
  induction reached with
  | refl => exact resolves
  | tail _ step ih =>
      obtain ⟨target, left, found, bare, followed, classified⟩ := ih
      cases step with
      | strip stripped =>
          obtain rfl := Except.ok.inj (bare.symm.trans stripped)
          exact ⟨target, left, found, Schema.effective_idempotent _ target stripped, followed, classified⟩
      | reference stripped reference located =>
          obtain rfl := Except.ok.inj (bare.symm.trans stripped)
          obtain ⟨less, _, next, _, again, inner, onward⟩ := follow_step components left target found _ reference followed
          obtain rfl := Option.some.inj (located.symm.trans again)
          exact ⟨next, less, found, inner, onward, classified⟩
      | property stripped inline object =>
          obtain rfl := Except.ok.inj (bare.symm.trans stripped)
          obtain rfl := follow_inline components left target found inline followed
          obtain rfl := Except.ok.inj (classified.symm.trans object)
          exact Bool.noConfusion simple

theorem simple_closes_none (components : Components) (guard : Guard Schema) (compound : guard.Compound) (s : Schema)
    (shape : Shape) (simple : shape.isSimple = true)
    (shaped : components.targetShape s = .ok shape) : components.closesCycle guard s = false := by
  refine Bool.not_eq_true _ ▸ fun closes => ?_
  obtain ⟨t, reached, active, _⟩ := (closes_cycle_found_iff components guard s).mp closes
  obtain ⟨found, resolved, classified⟩ := except_bind_ok _ _ _ shaped
  obtain ⟨target, stripped, followed⟩ := except_bind_ok _ _ _ resolved
  obtain ⟨inner, left, last, bare, along, kind⟩ :=
    reaches_resolves components shape simple s t ⟨target, _, found, stripped, followed, classified⟩ reached
  obtain ⟨composed, again, inline, other, known, parts⟩ := compound t active
  obtain rfl := Except.ok.inj (bare.symm.trans again)
  obtain rfl := follow_inline components left inner last inline along
  obtain rfl := Except.ok.inj (kind.symm.trans known)
  rw [simple] at parts
  exact Bool.noConfusion parts

end Cycle

end ApiBindings
