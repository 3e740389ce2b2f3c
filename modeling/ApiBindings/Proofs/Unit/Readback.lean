import ApiBindings.Proofs.Number.Whole
import ApiBindings.Proofs.Unit.Constant
set_option autoImplicit false

namespace ApiBindings

open Number (Double)

def Constant.double? : Constant → Option Double
  | .number negative mantissa places => some (Double.ofRatio negative mantissa (Nat.pow 10 places))
  | _ => none

namespace Number

open Constant

-- Both zeros are read from the text of either.
def Double.ReadFrom (x : Double) (text : String) : Prop :=
  ∃ y, (ofText? text.toList).bind double? = some y ∧ y.equals x = true

def signed (negative : Bool) (n : Nat) : Int := if negative then -n else n

theorem signed_abs (negative : Bool) (n : Nat) : (signed negative n).natAbs = n := by
  cases negative with
  | true => exact (Int.natAbs_neg _).trans (Int.natAbs_natCast n)
  | false => exact Int.natAbs_natCast n

theorem signed_mul (negative : Bool) (n k : Nat) : signed negative (n * k) = signed negative n * k := by
  cases negative with
  | true => exact (congrArg Neg.neg (Int.natCast_mul n k)).trans (Int.neg_mul _ _).symm
  | false => exact Int.natCast_mul n k

theorem signed_negative (negative : Bool) (n : Nat) (positive : 0 < n) : decide (signed negative n < 0) = negative := by
  cases negative with
  | true => exact decide_eq_true (Int.neg_neg_of_pos (Int.natCast_pos.mpr positive))
  | false => exact decide_eq_false (Int.not_lt.mpr (Int.natCast_nonneg n))

theorem signed_text (negative : Bool) (n : Nat) (positive : 0 < n) :
    toString (signed negative n) = (if negative then "-" else "") ++ toString n := by
  rw [← String.toList_inj, integer_text, String.toList_append, sign_chars, signed_abs, signed_negative negative n positive,
    Nat.toString_eq_repr, Nat.toList_repr]

theorem valid_iff (negative : Bool) (units : Nat) :
    (Double.finite negative units).Valid ↔ units < Double.limit ∧ Double.spacing units ∣ units := by
  constructor
  · rintro ⟨⟩
    exact ⟨‹_›, ‹_›⟩
  · rintro ⟨below, whole⟩
    exact .finite negative units below whole

theorem equal_up_to_zero (sign negative : Bool) (units : Nat) (same : sign = negative ∨ units = 0) :
    (Double.finite sign units).equals (.finite negative units) = true := by
  rcases same with rfl | rfl
  · simp [Double.equals]
  · simp [Double.equals]

theorem number_read (sign negative : Bool) (units mantissa places : Nat) (text : String)
    (valid : (Double.finite negative units).Valid) (same : sign = negative ∨ units = 0)
    (read : ofText? text.toList = some (.number sign mantissa places)) (within : Within units mantissa places) :
    (Double.finite negative units).ReadFrom text := by
  obtain ⟨below, whole⟩ := (valid_iff negative units).mp valid
  refine ⟨.finite sign units, ?_, equal_up_to_zero sign negative units same⟩
  rw [read, Option.bind_some, double?, of_ratio_within sign units mantissa places below whole within]

theorem to_digits_zeros (digits zeros : Nat) (positive : 0 < digits) :
    Nat.toDigits 10 (digits * Nat.pow 10 zeros) = Nat.toDigits 10 digits ++ List.replicate zeros '0' := by
  induction zeros with
  | zero => rw [Nat.pow_eq, Nat.pow_zero, Nat.mul_one, List.replicate_zero, List.append_nil]
  | succ zeros ih =>
      have scaled : digits * Nat.pow 10 (zeros + 1) = digits * Nat.pow 10 zeros * 10 := (Nat.mul_assoc _ _ _).symm
      have large : 10 ≤ digits * Nat.pow 10 zeros * 10 :=
        Nat.le_mul_of_pos_left 10 (Nat.mul_pos positive (power_pos zeros))
      rw [scaled, Nat.toDigits_of_base_le (by decide) large, Nat.mul_div_cancel _ (by decide), Nat.mul_mod_left, ih,
        List.append_assoc, List.replicate_succ']
      rfl

theorem positional_text (digits zeros : Nat) (positive : 0 < digits) :
    positional digits (zeros : Int) = toString (digits * Nat.pow 10 zeros) := by
  unfold positional
  dsimp only
  rw [if_pos (Int.natCast_nonneg zeros), Int.toNat_natCast, ← to_digits_zeros digits zeros positive,
    Nat.toString_eq_repr, Nat.repr]

theorem holds_scaled (i : Interval) (n scale factor : Nat) (positive : 0 < factor) :
    i.holds (n * factor) (scale * factor) = i.holds n scale := by
  have less (a b : Nat) : a * factor < b * factor ↔ a < b := Nat.mul_lt_mul_right positive
  have same (a b : Nat) : a * factor = b * factor ↔ a = b := Nat.mul_left_inj positive.ne'
  rw [Bool.eq_iff_iff]
  simp only [Interval.holds, ← Nat.mul_assoc, Bool.or_eq_true, Bool.and_eq_true, decide_eq_true_eq, beq_iff_eq, less, same]

theorem within_scaled (units mantissa places zeros : Nat) (within : Within units mantissa places) :
    Within units (mantissa * Nat.pow 10 zeros) (places + zeros) := by
  have power : Nat.pow 10 (places + zeros) = Nat.pow 10 places * Nat.pow 10 zeros := Nat.pow_add 10 places zeros
  unfold Within
  rw [power, ← Nat.mul_assoc, holds_scaled _ _ _ _ (power_pos zeros)]
  exact within

theorem within_zero (units : Nat) (whole : Double.spacing units ∣ units) (within : Within units 0 0) : units = 0 := by
  by_contra nonzero
  obtain ⟨low, _⟩ := within_whole units 0 within
  have few := Nat.le_of_dvd (Nat.pos_of_ne_zero nonzero) whole
  omega

theorem small_remainder (units k : Nat) (whole : Double.spacing units ∣ units) (large : Nat.pow 2 k ≤ units)
    (small : units % Nat.pow 2 (k + 52) < Nat.pow 2 k) : Nat.pow 2 (k + 52) ∣ units := by
  have unit_multiple : Nat.pow 2 k ∣ Nat.pow 2 (k + 52) := Nat.pow_dvd_pow 2 (Nat.le_add_right k 52)
  by_cases less : units < Nat.pow 2 (k + 52)
  · rw [Nat.mod_eq_of_lt less] at small
    exact absurd large (Nat.not_le_of_lt small)
  · have positive : 0 < Nat.pow 2 (k + 52) := Nat.pow_pos (by decide)
    have log : k + 52 ≤ Nat.log2 units :=
      (Nat.le_log2 (positive.trans_le (Nat.le_of_not_lt less)).ne').mpr (Nat.le_of_not_lt less)
    have multiple : Nat.pow 2 k ∣ units := (Nat.pow_dvd_pow 2 (by omega)).trans whole
    exact Nat.dvd_of_mod_eq_zero (Nat.eq_zero_of_dvd_of_lt ((Nat.dvd_mod_iff unit_multiple).mpr multiple) small)

-- Of one and of the spacing at it, the exponents are hidden.
theorem fine_power : ∃ k, Nat.pow 2 1022 = Nat.pow 2 k ∧ Double.one = Nat.pow 2 (k + 52) := ⟨1022, rfl, by decide +kernel⟩

-- From the spacing at one on, doubles that are nearly whole are whole.
theorem nearly_whole_exact (units : Nat) (whole : Double.spacing units ∣ units) (large : Nat.pow 2 1022 ≤ units)
    (nearly : units % Double.one < Nat.pow 2 1022) : Double.one ∣ units := by
  obtain ⟨k, fine, power⟩ := fine_power
  rw [fine] at large nearly
  rw [power] at nearly ⊢
  exact small_remainder units k whole large nearly

theorem zero_nearly_whole (negative : Bool) : (Double.finite negative 0).nearlyWhole = true := by
  cases negative <;> decide +kernel

-- The whole number `n` is printed for a whole double: a rounder one only where that is
-- read back too, and never for a double below 2⁵⁴.
structure WholeText (negative : Bool) (units n : Nat) (text : String) : Prop where
  text : text = toString (signed negative n)
  within : Within units n 0
  rounder : n * Double.one = units ∨ ∃ zeros, Nat.pow 10 zeros ∣ n ∧ ¬ Nat.pow 10 zeros * Double.one ∣ units
  small : units < Nat.pow 2 54 * Double.one → n * Double.one = units

theorem truncated_whole (negative : Bool) (units : Nat) (whole : Double.one ∣ units)
    (nearly : (Double.finite negative units).nearlyWhole = true) :
    ∃ n, WholeText negative units n (Double.finite negative units).format := by
  obtain ⟨n, same⟩ := whole
  have exact' : n * Double.one = units := by rw [same, Nat.mul_comm]
  have truncated : (Double.finite negative units).truncate = signed negative n := by
    have quotient : units / Double.one = n := Nat.div_eq_of_eq_mul_right one_pos same
    unfold Double.truncate signed
    dsimp only
    rw [quotient]
  refine ⟨n, ?_, exact_within units n 0 ?_, Or.inl exact', fun _ => exact'⟩
  · unfold Double.format
    rw [if_pos nearly, truncated]
  · rw [← same, Nat.pow_eq, Nat.pow_zero, Nat.mul_one]

theorem displayed_whole (negative : Bool) (units : Nat) (valid : (Double.finite negative units).Valid)
    (whole : Double.one ∣ units) (far : ¬ (Double.finite negative units).nearlyWhole = true) :
    ∃ n, WholeText negative units n (Double.finite negative units).format := by
  obtain ⟨_, multiple⟩ := (valid_iff negative units).mp valid
  obtain ⟨digits, zeros, printed⟩ := whole_shortest units whole
  have nonzero : units ≠ 0 := by
    rintro rfl
    exact far (zero_nearly_whole negative)
  have positive : 0 < digits := by
    refine Nat.pos_of_ne_zero fun none => nonzero (within_zero units multiple ?_)
    have within := printed.within
    rwa [none, Nat.zero_mul] at within
  refine ⟨digits * Nat.pow 10 zeros, ?_, printed.within,
    printed.rounder.imp id fun rounder => ⟨zeros, Nat.dvd_mul_left _ _, rounder⟩,
    small_whole_exact units digits zeros multiple printed whole⟩
  unfold Double.format
  rw [if_neg far, display_finite, if_neg nonzero, printed.found, positional_text digits zeros positive,
    signed_text negative _ (Nat.mul_pos positive (power_pos zeros))]

theorem whole_text (negative : Bool) (units : Nat) (valid : (Double.finite negative units).Valid)
    (whole : Double.one ∣ units) : ∃ n, WholeText negative units n (Double.finite negative units).format := by
  by_cases nearly : (Double.finite negative units).nearlyWhole = true
  · exact truncated_whole negative units whole nearly
  · exact displayed_whole negative units valid whole nearly

theorem fraction_text (negative : Bool) (units : Nat) (valid : (Double.finite negative units).Valid)
    (large : Nat.pow 2 1022 ≤ units) (fraction : ¬ Double.one ∣ units) :
    '.' ∈ (Double.finite negative units).format.toList ∧
      (Double.finite negative units).ReadFrom (Double.finite negative units).format := by
  obtain ⟨below, multiple⟩ := (valid_iff negative units).mp valid
  have nearly : ¬ (Double.finite negative units).nearlyWhole = true := fun nearly => by
    unfold Double.nearlyWhole at nearly
    exact fraction (nearly_whole_exact units multiple large (of_decide_eq_true (Bool.and_eq_true_iff.mp nearly).1))
  have nonzero : units ≠ 0 := fun zero => fraction (zero ▸ Nat.dvd_zero _)
  have shown : (Double.finite negative units).format = (Double.finite negative units).display := if_neg nearly
  rw [display_finite, if_neg nonzero] at shown
  have behind := fraction_shortest units multiple fraction
  have within := shortest_within units
  rw [Int.toNat_of_nonpos (Int.le_of_lt behind), Nat.pow_eq, Nat.pow_zero, Nat.mul_one] at within
  obtain ⟨point, read⟩ := displayed_fraction_read negative (shortest units).1 (shortest units).2 behind
  rw [← shown] at point read
  exact ⟨point, number_read negative negative units _ _ _ valid (Or.inl rfl) read within⟩

-- The sign of a whole number is that of the double, except that zero has none.
theorem whole_sign (negative : Bool) (units n : Nat) (text : String) (valid : (Double.finite negative units).Valid)
    (printed : WholeText negative units n text) : decide (signed negative n < 0) = negative ∨ units = 0 := by
  rcases Nat.eq_zero_or_pos n with rfl | positive
  · exact Or.inr (within_zero units ((valid_iff negative units).mp valid).2 printed.within)
  · exact Or.inl (signed_negative negative n positive)

theorem whole_text_read (negative : Bool) (units n : Nat) (text : String) (valid : (Double.finite negative units).Valid)
    (printed : WholeText negative units n text) : (Double.finite negative units).ReadFrom text := by
  have read := integer_read (signed negative n)
  rw [← printed.text, signed_abs] at read
  exact number_read _ negative units n 0 text valid (whole_sign negative units n text valid printed) read printed.within

theorem whole_text_chars (negative : Bool) (units n : Nat) (text : String)
    (printed : WholeText negative units n text) :
    text.toList = (if decide (signed negative n < 0) then ['-'] else []) ++ Nat.toDigits 10 n := by
  rw [printed.text, integer_text, signed_abs]

theorem whole_text_plain (negative : Bool) (units n : Nat) (text : String)
    (printed : WholeText negative units n text) : '.' ∉ text.toList := by
  rw [whole_text_chars negative units n text printed]
  intro member
  rcases List.mem_append.mp member with sign | digit
  · split at sign <;> simp at sign
  · exact digit_no_point _ (to_digits_digit _) '.' digit rfl

theorem whole_literal (negative : Bool) (units n : Nat)
    (printed : WholeText negative units n (Double.finite negative units).format) :
    (Double.finite negative units).formatFraction = (Double.finite negative units).format ++ ".0" := by
  have chars := whole_text_chars negative units n _ printed
  rw [← String.toList_inj, fraction_added _ _ _ chars (to_digits_digit n), String.toList_append, chars, List.append_assoc]
  rfl

theorem whole_literal_read (negative : Bool) (units n : Nat) (valid : (Double.finite negative units).Valid)
    (printed : WholeText negative units n (Double.finite negative units).format) :
    (Double.finite negative units).ReadFrom (Double.finite negative units).formatFraction := by
  have read := tenths_read (.finite negative units) _ _ Nat.toDigits_ne_nil (whole_text_chars negative units n _ printed)
    (to_digits_digit n)
  rw [Nat.ofDigitChars_ten_toDigits] at read
  exact number_read _ negative units (n * 10) 1 _ valid (whole_sign negative units n _ valid printed) read
    (within_scaled units n 0 1 printed.within)

end Number

end ApiBindings
