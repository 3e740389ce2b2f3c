import ApiBindings.Rendering.Rules
import Mathlib.Data.List.Basic
set_option autoImplicit false

namespace ApiBindings

open Number (Double)

inductive Bounds (bound : Option Double) (exclusive : Option ExclusiveBound) (inclusiveRule exclusiveRule : String) :
    String → Double → Prop where
  | inclusive (x : Double) (given : bound = some x) (plain : exclusive ≠ some (.flag true)) :
      Bounds bound exclusive inclusiveRule exclusiveRule inclusiveRule x
  | flagged (x : Double) (given : bound = some x) (flag : exclusive = some (.flag true)) :
      Bounds bound exclusive inclusiveRule exclusiveRule exclusiveRule x
  | own (x : Double) (given : exclusive = some (.value x)) :
      Bounds bound exclusive inclusiveRule exclusiveRule exclusiveRule x

namespace Limits

def Bound (l : Limits) (name : String) (x : Double) : Prop :=
  Bounds l.minimum l.exclusiveMinimum "gte" "gt" name x ∨ Bounds l.maximum l.exclusiveMaximum "lte" "lt" name x

def Size (l : Limits) (name : String) (n : Nat) : Prop :=
  name = "min" ∧ (l.minLength = some n ∨ l.minItems = some n) ∨
    name = "max" ∧ (l.maxLength = some n ∨ l.maxItems = some n)

end Limits

theorem bound_rules_iff (bound : Option Double) (exclusive : Option ExclusiveBound) (inclusiveRule exclusiveRule : String)
    (rule : String) :
    rule ∈ boundRules bound exclusive inclusiveRule exclusiveRule ↔
      ∃ name x, Bounds bound exclusive inclusiveRule exclusiveRule name x ∧ rule = name ++ "=" ++ x.format := by
  unfold boundRules
  constructor
  · intro member
    rcases List.mem_append.mp member with own | plain
    · split at own
      next x => exact ⟨_, x, .own x rfl, List.mem_singleton.mp own⟩
      next => exact absurd own List.not_mem_nil
    · split at plain
      next x =>
        by_cases flag : exclusive = some (.flag true)
        · exact ⟨_, x, .flagged x rfl flag, by simpa [flag] using plain⟩
        · exact ⟨_, x, .inclusive x rfl flag, by simpa [flag] using plain⟩
      next => exact absurd plain List.not_mem_nil
  · rintro ⟨name, x, asked, rfl⟩
    cases asked with
    | inclusive _ given plain => simp [given, plain]
    | flagged _ given flag => simp [given, flag]
    | own _ given => simp [given]

theorem size_rule_iff (name : String) (bound : Option Nat) (rule : String) :
    rule ∈ sizeRule name bound ↔ ∃ n, bound = some n ∧ rule = name ++ "=" ++ toString n := by
  unfold sizeRule
  cases bound <;> simp

theorem limits_rules_iff (l : Limits) (rule : String) :
    rule ∈ l.rules ↔ (∃ name x, l.Bound name x ∧ rule = name ++ "=" ++ x.format) ∨
      ∃ name n, l.Size name n ∧ rule = name ++ "=" ++ toString n := by
  simp only [Limits.rules, List.mem_append, bound_rules_iff, size_rule_iff]
  constructor
  · rintro (((((⟨name, x, asked, rfl⟩ | ⟨name, x, asked, rfl⟩) | ⟨n, given, rfl⟩) | ⟨n, given, rfl⟩) | ⟨n, given, rfl⟩) |
      ⟨n, given, rfl⟩)
    · exact Or.inl ⟨name, x, Or.inl asked, rfl⟩
    · exact Or.inl ⟨name, x, Or.inr asked, rfl⟩
    · exact Or.inr ⟨_, n, Or.inl ⟨rfl, Or.inl given⟩, rfl⟩
    · exact Or.inr ⟨_, n, Or.inr ⟨rfl, Or.inl given⟩, rfl⟩
    · exact Or.inr ⟨_, n, Or.inl ⟨rfl, Or.inr given⟩, rfl⟩
    · exact Or.inr ⟨_, n, Or.inr ⟨rfl, Or.inr given⟩, rfl⟩
  · rintro (⟨name, x, asked | asked, rfl⟩ | ⟨name, n, ⟨rfl, given | given⟩ | ⟨rfl, given | given⟩, rfl⟩)
    · exact Or.inl (Or.inl (Or.inl (Or.inl (Or.inl ⟨name, x, asked, rfl⟩))))
    · exact Or.inl (Or.inl (Or.inl (Or.inl (Or.inr ⟨name, x, asked, rfl⟩))))
    · exact Or.inl (Or.inl (Or.inl (Or.inr ⟨n, given, rfl⟩)))
    · exact Or.inl (Or.inr ⟨n, given, rfl⟩)
    · exact Or.inl (Or.inl (Or.inr ⟨n, given, rfl⟩))
    · exact Or.inr ⟨n, given, rfl⟩

namespace Schema

def RuleFor (s : Schema) (required : Bool) (rule : String) : Prop :=
  required = false ∧ rule = "omitempty" ∨ (∃ name x, s.limits.Bound name x ∧ rule = name ++ "=" ++ x.format) ∨
    ∃ name n, s.limits.Size name n ∧ rule = name ++ "=" ++ toString n

def RulesMade (s : Schema) (required : Bool) (text : Option String) : Prop :=
  (text = none ↔ (∀ name x, ¬ s.limits.Bound name x) ∧ ∀ name n, ¬ s.limits.Size name n) ∧
    ∀ made ∈ text, ∃ rules, made = ",".intercalate rules ∧ ∀ rule, rule ∈ rules ↔ s.RuleFor required rule

theorem validation_rules_none_iff (s : Schema) (required : Bool) :
    s.validationRules required = none ↔ s.limits.rules = [] := by
  unfold validationRules
  rw [← List.isEmpty_iff]
  dsimp only
  split <;> simp_all

theorem no_rules_iff (s : Schema) :
    s.limits.rules = [] ↔ (∀ name x, ¬ s.limits.Bound name x) ∧ ∀ name n, ¬ s.limits.Size name n := by
  rw [List.eq_nil_iff_forall_not_mem]
  simp only [limits_rules_iff, not_or]
  constructor
  · intro none
    exact ⟨fun name x bound => (none _).1 ⟨name, x, bound, rfl⟩, fun name n size => (none _).2 ⟨name, n, size, rfl⟩⟩
  · rintro ⟨unbounded, unsized⟩ rule
    exact ⟨fun ⟨name, x, bound, _⟩ => unbounded name x bound, fun ⟨name, n, size, _⟩ => unsized name n size⟩

theorem validation_rules_listed (s : Schema) (required : Bool) (made : String)
    (given : s.validationRules required = some made) :
    ∃ rules, made = ",".intercalate rules ∧ ∀ rule, rule ∈ rules ↔ s.RuleFor required rule := by
  unfold validationRules at given
  dsimp only at given
  split at given
  next => cases given
  next =>
    refine ⟨_, (Option.some.inj given).symm, fun rule => ?_⟩
    unfold RuleFor
    rw [← limits_rules_iff]
    cases required <;> simp

theorem validation_rules_made (s : Schema) (required : Bool) : s.RulesMade required (s.validationRules required) :=
  ⟨(validation_rules_none_iff s required).trans (no_rules_iff s), validation_rules_listed s required⟩

end Schema

end ApiBindings
