set_option autoImplicit false

namespace ApiBindings

variable {ε δ α β : Type}

theorem ok_exists (x : Except ε α) (ok : x.isOk = true) : ∃ a, x = .ok a := by
  cases x with
  | error => exact absurd ok Bool.false_ne_true
  | ok a => exact ⟨a, rfl⟩

theorem ok_holds (x : Except ε α) (holds : α → Bool) (found : x.toOption.any holds = true) :
    ∃ a, x = .ok a ∧ holds a = true := by
  cases x with
  | error => exact absurd found Bool.false_ne_true
  | ok a => exact ⟨a, rfl, found⟩

theorem error_holds (x : Except ε α) (holds : ε → Bool)
    (found : (match x with | .error e => holds e | .ok _ => false) = true) : ∃ e, x = .error e ∧ holds e = true := by
  cases x with
  | error e => exact ⟨e, rfl, found⟩
  | ok a => exact absurd found Bool.false_ne_true

theorem except_bind_ok (x : Except ε α) (f : α → Except ε β) (b : β) (done : x >>= f = .ok b) :
    ∃ a, x = .ok a ∧ f a = .ok b := by
  cases x with
  | error => cases done
  | ok a => exact ⟨a, rfl, done⟩

theorem except_bind_error (x : Except ε α) (f : α → Except ε β) (e : ε) (failed : x >>= f = .error e) :
    x = .error e ∨ ∃ a, x = .ok a ∧ f a = .error e := by
  cases x with
  | error other => exact Or.inl (congrArg Except.error (Except.error.inj failed))
  | ok a => exact Or.inr ⟨a, rfl, failed⟩

theorem map_error_ok (f : ε → δ) (x : Except ε α) (a : α) (done : x.mapError f = .ok a) : x = .ok a := by
  cases x with
  | error => cases done
  | ok b => rw [Except.ok.inj done]

end ApiBindings
