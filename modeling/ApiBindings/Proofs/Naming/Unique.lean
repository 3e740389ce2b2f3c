import ApiBindings.Naming
import ApiBindings.Proofs.Naming.Word
import Mathlib.Data.List.Nodup
import Mathlib.Data.List.Perm.Subperm
set_option autoImplicit false

namespace ApiBindings.Names

theorem numbered_injective (base : String) (a b : Nat) (same : base ++ toString a = base ++ toString b) : a = b := by
  have texts : toString a = toString b := (String.append_right_inj base).mp same
  have digits : Nat.toDigits 10 a = Nat.toDigits 10 b := by
    simpa only [Nat.toString_eq_repr, Nat.toList_repr] using congrArg String.toList texts
  have parsed := congrArg (fun chars => Nat.ofDigitChars 10 chars 0) digits
  simpa using parsed

-- The list shrinks on the way: an erased candidate has a smaller number, so it is not met again.
theorem first_free_least (base : String) (number : Nat) (used : List String) :
    ∃ free, number ≤ free ∧ firstFree base number used = base ++ toString free ∧
      base ++ toString free ∉ used ∧ ∀ n, number ≤ n → n < free → base ++ toString n ∈ used := by
  fun_induction firstFree base number used with
  | case1 number used candidate member ih =>
      obtain ⟨free, later, result, absent, taken⟩ := ih
      have different : base ++ toString free ≠ candidate := by
        intro same
        have equal := numbered_injective base free number same
        omega
      refine ⟨free, by omega, result, fun member => absent ((List.mem_erase_of_ne different).mpr member), ?_⟩
      intro n above below
      by_cases first : n = number
      · rw [first]
        exact member
      · exact List.mem_of_mem_erase (taken n (by omega) below)
  | case2 number used candidate absent => exact ⟨number, Nat.le_refl _, rfl, absent, fun n _ _ => by omega⟩

theorem insert_name_mem (name other : String) (taken : List String) :
    other ∈ insertName name taken ↔ other = name ∨ other ∈ taken := by
  induction taken with
  | nil => simp [insertName]
  | cons first rest ih =>
      by_cases same : name = first
      · simp [insertName, same]
      · by_cases before : name < first
        · simp [insertName, same, before]
        · simp only [insertName, if_neg same, if_neg before, List.mem_cons, ih]
          exact or_left_comm

theorem reserve_mem (names : Names) (name other : String) :
    other ∈ (names.reserve name).taken ↔ other = name ∨ other ∈ names.taken :=
  insert_name_mem name other names.taken

theorem claim_absent (names : Names) (base : String) : (names.claim base).1 ∉ names.taken := by
  by_cases member : base ∈ names.taken
  · obtain ⟨free, _, result, absent, _⟩ := first_free_least base 2 names.taken
    simpa only [claim, if_pos member, result] using absent
  · simpa only [claim, if_neg member] using member

theorem claim_mem (names : Names) (base other : String) :
    other ∈ (names.claim base).2.taken ↔ other = (names.claim base).1 ∨ other ∈ names.taken := by
  simp only [claim, reserve_mem]

theorem claim_cases (names : Names) (base : String) :
    (names.claim base).1 = base ∨ ∃ number : Nat, (names.claim base).1 = base ++ toString number := by
  by_cases member : base ∈ names.taken
  · obtain ⟨free, _, result, _, _⟩ := first_free_least base 2 names.taken
    exact Or.inr ⟨free, by simp only [claim, if_pos member, result]⟩
  · exact Or.inl (by simp only [claim, if_neg member])

theorem claim_extends (names : Names) (base : String) :
    ∃ number, Naming.WordChars number ∧ (names.claim base).1 = base ++ number := by
  rcases claim_cases names base with plain | ⟨number, numbered⟩
  · exact ⟨"", by decide, by rw [plain, String.append_empty]⟩
  · exact ⟨toString number, Naming.number_word_chars number, numbered⟩

def attempt (base : String) : Nat → String
  | 0 => base
  | n + 1 => base ++ toString (n + 2)

theorem attempt_extends (base : String) (tries : Nat) :
    ∃ number, Naming.WordChars number ∧ attempt base tries = base ++ number := by
  cases tries with
  | zero => exact ⟨"", by decide, String.append_empty.symm⟩
  | succ n => exact ⟨toString (n + 2), Naming.number_word_chars (n + 2), rfl⟩

theorem attempt_injective (base : String) (a b : Nat) (same : attempt base a = attempt base b) : a = b := by
  have numbered (n : Nat) : base ≠ base ++ toString n := fun same =>
    Nat.repr_ne_empty ((String.append_right_inj base).mp (String.append_empty.trans same)).symm
  cases a with
  | zero =>
      cases b with
      | zero => rfl
      | succ b => exact absurd same (numbered _)
  | succ a =>
      cases b with
      | zero => exact absurd same.symm (numbered _)
      | succ b =>
          have equal := numbered_injective base (a + 2) (b + 2) same
          omega

structure Found (used : List String) (base : String) (tries : Nat) (name : String) : Prop where
  attempted : name = attempt base tries
  free : name ∉ used
  earlier : ∀ n < tries, attempt base n ∈ used

theorem claim_found (names : Names) (base : String) :
    ∃ tries, Found names.taken base tries (names.claim base).1 := by
  by_cases member : base ∈ names.taken
  · obtain ⟨free, least, result, absent, taken⟩ := first_free_least base 2 names.taken
    have claimed : (names.claim base).1 = attempt base (free - 1) := by
      rw [show free - 1 = (free - 2) + 1 by omega, attempt, show free - 2 + 2 = free by omega]
      simp only [claim, if_pos member, result]
    refine ⟨free - 1, claimed, names.claim_absent base, fun n below => ?_⟩
    cases n with
    | zero => exact member
    | succ n => exact taken (n + 2) (by omega) (by omega)
  · exact ⟨0, by simp only [claim, if_neg member]; rfl, names.claim_absent base, fun n below => absurd below n.not_lt_zero⟩

-- Attempts differ from each other, so there are not more failed ones than names in use.
theorem found_bounded (used : List String) (base name : String) (tries : Nat) (found : Found used base tries name) :
    tries ≤ used.length := by
  have distinct : ((List.range tries).map (attempt base)).Nodup :=
    List.Nodup.map (attempt_injective base) List.nodup_range
  have inside : (List.range tries).map (attempt base) ⊆ used := by
    intro other member
    obtain ⟨n, below, rfl⟩ := List.mem_map.mp member
    exact found.earlier n (List.mem_range.mp below)
  simpa using (distinct.subperm inside).length_le

end ApiBindings.Names
