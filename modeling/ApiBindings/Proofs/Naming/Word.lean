import Mathlib.Data.List.Basic
import Mathlib.Data.Nat.Digits.Defs
set_option autoImplicit false

namespace ApiBindings.Naming

def isWordChar (c : Char) : Bool := c.isAlphanum || c = '_'

def WordChars (text : String) : Prop := ∀ c ∈ text.toList, isWordChar c = true

instance (text : String) : Decidable (WordChars text) :=
  decidable_of_iff (text.toList.all isWordChar = true) List.all_eq_true

structure Word (name : String) : Prop where
  nonempty : name ≠ ""
  chars : WordChars name

theorem word_chars_append (a b : String) (first : WordChars a) (last : WordChars b) : WordChars (a ++ b) := by
  intro c member
  rw [String.toList_append] at member
  exact (List.mem_append.mp member).elim (first c) (last c)

theorem word_append (name ending : String) (word : Word name) (chars : WordChars ending) : Word (name ++ ending) :=
  ⟨fun empty => word.nonempty (String.append_eq_empty_iff.mp empty).1,
    word_chars_append name ending word.chars chars⟩

theorem alphanumeric_word_char (c : Char) (alphanumeric : c.isAlphanum = true) : isWordChar c = true := by
  rw [isWordChar, alphanumeric, Bool.true_or]

theorem digit_word_char (c : Char) (digit : c.isDigit = true) : isWordChar c = true :=
  alphanumeric_word_char c (by rw [Char.isAlphanum, digit, Bool.or_true])

theorem number_word_chars (n : Nat) : WordChars (toString n) := by
  intro c member
  rw [Nat.toString_eq_repr, Nat.toList_repr] at member
  exact digit_word_char c (Nat.isDigit_of_mem_toDigits (by decide) (Nat.le_refl 10) member)

def Begins (short long : String) : Prop := ∃ ending, ending ≠ "" ∧ long = short ++ ending

theorem begins_iff (short long : String) :
    Begins short long ↔ short.toList.isPrefixOf long.toList = true ∧ short ≠ long := by
  rw [List.isPrefixOf_iff_prefix]
  constructor
  · rintro ⟨ending, nonempty, rfl⟩
    refine ⟨⟨ending.toList, String.toList_append.symm⟩, fun same => nonempty ?_⟩
    exact (String.append_right_inj short).mp (same.symm.trans String.append_empty.symm)
  · rintro ⟨⟨rest, continued⟩, different⟩
    have long_append : long = short ++ String.ofList rest := by
      rw [← String.toList_inj, String.toList_append, String.toList_ofList, continued]
    refine ⟨String.ofList rest, fun empty => different ?_, long_append⟩
    rw [long_append, empty, String.append_empty]

instance (short long : String) : Decidable (Begins short long) := decidable_of_iff _ (begins_iff short long).symm

theorem begins_comparable (a b name : String) (first : Begins a name) (second : Begins b name) :
    a = b ∨ Begins a b ∨ Begins b a := by
  obtain ⟨e, _, rfl⟩ := first
  obtain ⟨f, _, same⟩ := second
  by_cases equal : a = b
  · exact Or.inl equal
  have lists : a.toList ++ e.toList = b.toList ++ f.toList := by
    simpa only [String.toList_append] using congrArg String.toList same
  rcases List.append_eq_append_iff.mp lists with ⟨rest, longer, _⟩ | ⟨rest, longer, _⟩
  · exact Or.inr (Or.inl ((begins_iff a b).mpr ⟨List.isPrefixOf_iff_prefix.mpr ⟨rest, longer.symm⟩, equal⟩))
  · exact Or.inr (Or.inr ((begins_iff b a).mpr
      ⟨List.isPrefixOf_iff_prefix.mpr ⟨rest, longer.symm⟩, Ne.symm equal⟩))

end ApiBindings.Naming
