import ApiBindings.Number.Shortest
import ApiBindings.Proofs.Naming.Word
set_option autoImplicit false

namespace ApiBindings.Number

def isNumeralChar (c : Char) : Bool := c.isDigit || c = '.' || "Nainf".toList.contains c

theorem numeral_char_kind (c : Char) (numeral : isNumeralChar c = true) : c.isAlphanum = true ∨ c = '.' := by
  simp only [isNumeralChar, Bool.or_eq_true, decide_eq_true_eq] at numeral
  rcases numeral with (digit | point) | letter
  · exact Or.inl (by rw [Char.isAlphanum, digit, Bool.or_true])
  · exact Or.inr point
  · have letters : "Nainf".toList.all Char.isAlphanum = true := by decide
    exact Or.inl (List.all_eq_true.mp letters c (List.contains_iff_mem.mp letter))

structure Unsigned (text : List Char) : Prop where
  nonempty : text ≠ []
  chars : ∀ c ∈ text, isNumeralChar c = true

instance (text : List Char) : Decidable (Unsigned text) :=
  decidable_of_iff (text ≠ [] ∧ text.all isNumeralChar = true)
    ⟨fun unsigned => ⟨unsigned.1, List.all_eq_true.mp unsigned.2⟩,
      fun unsigned => ⟨unsigned.nonempty, List.all_eq_true.mpr unsigned.chars⟩⟩

def Numeral (text : String) : Prop := ∃ rest, Unsigned rest ∧ (text.toList = rest ∨ text.toList = '-' :: rest)

theorem to_digits_unsigned (n : Nat) : Unsigned (Nat.toDigits 10 n) := by
  refine ⟨Nat.toDigits_ne_nil, fun c member => ?_⟩
  have digit := Nat.isDigit_of_mem_toDigits (by decide) (Nat.le_refl 10) member
  simp [isNumeralChar, digit]

theorem unsigned_append (a b : List Char) (first : Unsigned a) (last : ∀ c ∈ b, isNumeralChar c = true) :
    Unsigned (a ++ b) := by
  refine ⟨fun empty => first.nonempty (List.append_eq_nil_iff.mp empty).1, fun c member => ?_⟩
  exact (List.mem_append.mp member).elim (first.chars c) (last c)

theorem zeros_numeral_chars (count : Nat) : ∀ c ∈ List.replicate count '0', isNumeralChar c = true := by
  intro c member
  rw [List.eq_of_mem_replicate member]
  rfl

theorem positional_unsigned (digits : Nat) (place : Int) : Unsigned (positional digits place).toList := by
  have text := to_digits_unsigned digits
  unfold positional
  dsimp only
  split
  · rw [String.toList_ofList]
    exact unsigned_append _ _ text (zeros_numeral_chars _)
  · rw [String.toList_ofList]
    generalize padded : List.replicate _ '0' ++ Nat.toDigits 10 digits = chars
    have numeral : ∀ c ∈ chars, isNumeralChar c = true := by
      intro c member
      rw [← padded] at member
      exact (List.mem_append.mp member).elim (zeros_numeral_chars _ c) (text.chars c)
    refine ⟨by simp, fun c member => ?_⟩
    rcases List.mem_append.mp member with whole | fraction
    · exact numeral c (List.mem_of_mem_take whole)
    · rcases List.mem_cons.mp fraction with rfl | place
      · rfl
      · exact numeral c (List.mem_of_mem_drop place)

theorem unsigned_numeral (text : String) (unsigned : Unsigned text.toList) : Numeral text :=
  ⟨text.toList, unsigned, Or.inl rfl⟩

theorem signed_numeral (negative : Bool) (text : String) (unsigned : Unsigned text.toList) :
    Numeral ((if negative then "-" else "") ++ text) := by
  cases negative with
  | true => exact ⟨text.toList, unsigned, Or.inr (by simp [String.toList_append])⟩
  | false => exact ⟨text.toList, unsigned, Or.inl (by simp)⟩

theorem nat_unsigned (n : Nat) : Unsigned n.repr.toList := by
  rw [Nat.toList_repr]
  exact to_digits_unsigned n

theorem int_numeral (n : Int) : Numeral (toString n) := by
  cases n with
  | ofNat m => exact unsigned_numeral m.repr (nat_unsigned m)
  | negSucc m => exact signed_numeral true m.succ.repr (nat_unsigned m.succ)

theorem display_numeral (x : Double) : Numeral x.display := by
  unfold Double.display
  split
  · exact unsigned_numeral _ (by decide)
  · exact unsigned_numeral _ (by decide)
  · exact ⟨"inf".toList, by decide, Or.inr rfl⟩
  next negative units =>
    -- The digits are generalized first: simplifying would search for them.
    generalize shortest units = found
    obtain ⟨digits, place⟩ := found
    dsimp only
    split
    · exact signed_numeral negative "0" (by decide)
    · exact signed_numeral negative _ (positional_unsigned digits place)

theorem format_numeral (x : Double) : Numeral x.format := by
  unfold Double.format
  split
  · exact int_numeral x.truncate
  · exact display_numeral x

theorem format_fraction_numeral (x : Double) : Numeral x.formatFraction := by
  obtain ⟨rest, unsigned, same⟩ := format_numeral x
  unfold Double.formatFraction
  dsimp only
  split
  · exact ⟨rest, unsigned, same⟩
  · refine ⟨rest ++ ".0".toList, unsigned_append rest ".0".toList unsigned (by simp [isNumeralChar]), ?_⟩
    rw [String.toList_append]
    rcases same with same | same
    · exact Or.inl (congrArg (· ++ _) same)
    · exact Or.inr (congrArg (· ++ _) same)

end ApiBindings.Number
