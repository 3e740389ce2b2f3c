import ApiBindings.Proofs.Except
import ApiBindings.Rendering.Basic
set_option autoImplicit false

namespace ApiBindings

namespace Build

variable {α β : Type}

theorem result_bind (x : Build α) (f : α → Build β) (unit : SourceUnit) :
    (x >>= f).result unit =
      match x.result unit with
      | (.ok a, next) => (f a).result next
      | (.error failure, next) => (.error failure, next) := by
  change ExceptT.bindCont f (x.result unit).1 (x.result unit).2 = _
  cases outcome : x.result unit with
  | mk result next => cases result <;> rfl

theorem result_get_bind (f : SourceUnit → Build α) (unit : SourceUnit) :
    ((get : Build SourceUnit) >>= f).result unit = (f unit).result unit := rfl

theorem declare_result (d : Declaration) (unit : SourceUnit) :
    (declare d).result unit =
      match unit.declare d with
      | .ok next => (.ok (), next)
      | .error failure => (.error failure, unit) := by
  unfold declare
  rw [result_get_bind]
  cases unit.declare d <;> rfl

theorem bind_ok (x : Build α) (f : α → Build β) (unit after : SourceUnit) (b : β)
    (done : (x >>= f).result unit = (.ok b, after)) :
    ∃ a middle, x.result unit = (.ok a, middle) ∧ (f a).result middle = (.ok b, after) := by
  rw [result_bind] at done
  cases outcome : x.result unit with
  | mk result next =>
      cases result with
      | ok a => exact ⟨a, next, rfl, by simpa only [outcome] using done⟩
      | error failure => simp [outcome] at done

theorem bind_error (x : Build α) (f : α → Build β) (unit after : SourceUnit) (failure : Failure)
    (done : (x >>= f).result unit = (.error failure, after)) :
    x.result unit = (.error failure, after) ∨
      ∃ a middle, x.result unit = (.ok a, middle) ∧ (f a).result middle = (.error failure, after) := by
  rw [result_bind] at done
  cases outcome : x.result unit with
  | mk result next =>
      cases result with
      | ok a => exact Or.inr ⟨a, next, rfl, by simpa only [outcome] using done⟩
      | error other => exact Or.inl (by simpa only [outcome, Prod.mk.injEq, Except.error.injEq] using done)

theorem map_ok (f : α → β) (x : Build α) (unit after : SourceUnit) (b : β)
    (done : (f <$> x).result unit = (.ok b, after)) : ∃ a, x.result unit = (.ok a, after) ∧ f a = b := by
  obtain ⟨a, middle, ran, returned⟩ := bind_ok x (fun a => pure (f a)) unit after b done
  cases returned
  exact ⟨a, ran, rfl⟩

theorem pure_ok (a b : α) (unit after : SourceUnit) (done : (pure a : Build α).result unit = (.ok b, after)) :
    a = b ∧ unit = after := by
  cases done
  exact ⟨rfl, rfl⟩

theorem throw_ok (failure : Failure) (b : α) (unit after : SourceUnit)
    (done : (throw failure : Build α).result unit = (.ok b, after)) : False := by
  cases done

theorem check_ok (name : String) (checked : Except Defect α) (a : α) (unit after : SourceUnit)
    (done : (check name checked).result unit = (.ok a, after)) : checked = .ok a ∧ unit = after := by
  cases checked with
  | ok b =>
      obtain ⟨rfl, rfl⟩ := pure_ok b a unit after done
      exact ⟨rfl, rfl⟩
  | error defect => exact (throw_ok _ a unit after done).elim

theorem claim_ok (base name : String) (unit after : SourceUnit)
    (done : (claim base).result unit = (.ok name, after)) : unit.claim base = (name, after) := by
  change (Except.ok (unit.claim base).1, (unit.claim base).2) = _ at done
  cases done
  rfl

theorem declare_ok (d : Declaration) (unit after : SourceUnit)
    (done : (declare d).result unit = (.ok (), after)) : unit.declare d = .ok after := by
  rw [declare_result] at done
  cases declared : unit.declare d with
  | ok next =>
      rw [declared] at done
      cases done
      rfl
  | error failure =>
      rw [declared] at done
      cases done

theorem push_ok (function : Function) (unit after : SourceUnit)
    (done : (push function).result unit = (.ok (), after)) : after = unit.push function := by
  cases done
  rfl

end Build

end ApiBindings
