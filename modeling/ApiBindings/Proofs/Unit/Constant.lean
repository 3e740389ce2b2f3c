import ApiBindings.Proofs.Number.Shortest
import ApiBindings.Proofs.Text.Literal
import ApiBindings.Unit.Printer
import Mathlib.Data.List.TakeWhile
set_option autoImplicit false

namespace ApiBindings

open Number (Double)

-- The number is `mantissa / 10 ^ places`.
inductive Constant where
  | text (s : List Char)
  | flag (b : Bool)
  | number (negative : Bool) (mantissa places : Nat)
deriving DecidableEq

namespace Constant

def digits? (text : List Char) : Option Nat :=
  if !text.isEmpty && text.all Char.isDigit then some (Nat.ofDigitChars 10 text 0) else none

-- Without a point, a zero in front would make the digits octal.
def unsigned? (text : List Char) : Option (Nat × Nat) :=
  let whole := text.takeWhile (· ≠ '.')
  match text.dropWhile (· ≠ '.') with
  | [] => if whole.length > 1 && whole.head? = some '0' then none else (digits? whole).map fun digits => (digits, 0)
  | _ :: fraction => (digits? (whole ++ fraction)).map fun digits => (digits, fraction.length)

def ofText? (text : List Char) : Option Constant :=
  if text = "true".toList then some (.flag true)
  else if text = "false".toList then some (.flag false)
  else match text with
    | '"' :: rest =>
      match Text.unquote? rest with
      | some (s, []) => some (.text s)
      | _ => none
    | '-' :: rest => (unsigned? rest).map fun (mantissa, places) => .number true mantissa places
    | rest => (unsigned? rest).map fun (mantissa, places) => .number false mantissa places

def Signed (bits : Nat) (negative : Bool) (mantissa places : Nat) : Prop :=
  ∃ n, mantissa = n * Nat.pow 10 places ∧ (n < Nat.pow 2 bits ∨ negative = true ∧ n = Nat.pow 2 bits)

def Fits (type : ScalarType) : Constant → Prop
  | .text _ => type = .string
  | .flag _ => type = .bool
  | .number negative mantissa places =>
    match type with
    | .int | .int64 => Signed 63 negative mantissa places
    | .int32 => Signed 31 negative mantissa places
    | .float32 => mantissa < Number.overflow32 * Nat.pow 10 places
    | .float64 => mantissa < Number.overflow64 * Nat.pow 10 places
    | .string | .bool | .time | .uuid | .ip | .bytes => False

theorem narrow_fits (negative : Bool) (mantissa places : Nat) (narrow : mantissa < Number.overflow32 * Nat.pow 10 places) :
    (Constant.number negative mantissa places).Fits .float32 ∧ (Constant.number negative mantissa places).Fits .float64 := by
  have wider : Number.overflow32 ≤ Number.overflow64 := by decide +kernel
  exact ⟨narrow, narrow.trans_le (Nat.mul_le_mul_right _ wider)⟩

theorem digits_read (text : List Char) (nonempty : text ≠ []) (digits : ∀ c ∈ text, c.isDigit = true) :
    digits? text = some (Nat.ofDigitChars 10 text 0) := by
  have filled : text.isEmpty = false := List.isEmpty_eq_false_iff.mpr nonempty
  rw [digits?, filled, List.all_eq_true.mpr digits]
  rfl

theorem digit_no_point (text : List Char) (digits : ∀ c ∈ text, c.isDigit = true) : ∀ c ∈ text, c ≠ '.' := by
  rintro c member rfl
  cases digits '.' member

theorem fraction_read (whole fraction : List Char) (nonempty : whole ≠ [])
    (digits : ∀ c ∈ whole ++ fraction, c.isDigit = true) :
    unsigned? (whole ++ '.' :: fraction) = some (Nat.ofDigitChars 10 (whole ++ fraction) 0, fraction.length) := by
  have plain : ∀ c ∈ whole, decide (c ≠ '.') = true := fun c member =>
    decide_eq_true (digit_no_point whole (fun d inside => digits d (List.mem_append_left _ inside)) c member)
  have before : (whole ++ '.' :: fraction).takeWhile (· ≠ '.') = whole := by
    rw [List.takeWhile_append_of_pos plain]
    simp
  have after : (whole ++ '.' :: fraction).dropWhile (· ≠ '.') = '.' :: fraction := by
    rw [List.dropWhile_append_of_pos plain]
    simp
  unfold unsigned?
  rw [before, after]
  dsimp only
  rw [digits_read _ (by simp [nonempty]) digits]
  rfl

theorem to_digits_digit (n : Nat) : ∀ c ∈ Nat.toDigits 10 n, c.isDigit = true := fun c member =>
  Nat.isDigit_of_mem_toDigits (by decide) (Nat.le_refl 10) member

theorem to_digits_head (n : Nat) (large : 10 ≤ n) : (Nat.toDigits 10 n).head? ≠ some '0' := by
  induction n using Nat.strong_induction_on with
  | _ n ih =>
      rw [Nat.toDigits_of_base_le (by decide) large, List.head?_append_of_ne_nil _ Nat.toDigits_ne_nil]
      by_cases more : 10 ≤ n / 10
      · exact ih (n / 10) (by omega) more
      · rw [Nat.toDigits_of_lt_base (by omega)]
        have first : n / 10 ≠ 0 := by omega
        have single : ∀ d < 10, d ≠ 0 → [Nat.digitChar d].head? ≠ some '0' := by decide
        exact single (n / 10) (by omega) first

theorem whole_read (n : Nat) : unsigned? (Nat.toDigits 10 n) = some (n, 0) := by
  have digits := to_digits_digit n
  have plain : ∀ c ∈ Nat.toDigits 10 n, decide (c ≠ '.') = true := fun c member =>
    decide_eq_true (digit_no_point _ digits c member)
  have before : (Nat.toDigits 10 n).takeWhile (· ≠ '.') = Nat.toDigits 10 n := List.takeWhile_eq_self_iff.mpr plain
  have after : (Nat.toDigits 10 n).dropWhile (· ≠ '.') = [] := List.dropWhile_eq_nil_iff.mpr plain
  have decimal : ((Nat.toDigits 10 n).length > 1 && (Nat.toDigits 10 n).head? = some '0') = false := by
    by_cases large : 10 ≤ n
    · simp [to_digits_head n large]
    · rw [Nat.toDigits_of_lt_base (by omega)]
      rfl
  unfold unsigned?
  rw [before, after]
  dsimp only
  rw [decimal, digits_read _ Nat.toDigits_ne_nil digits, Nat.ofDigitChars_ten_toDigits]
  rfl

theorem signed_read (negative : Bool) (c : Char) (rest : List Char) (digit : c.isDigit = true) (mantissa places : Nat)
    (read : unsigned? (c :: rest) = some (mantissa, places)) :
    ofText? ((if negative then ['-'] else []) ++ c :: rest) = some (.number negative mantissa places) := by
  cases negative with
  | true =>
      rw [if_pos rfl, List.singleton_append]
      unfold ofText?
      rw [if_neg (by simp), if_neg (by simp)]
      change (unsigned? (c :: rest)).map (fun x => Constant.number true x.1 x.2) = _
      rw [read]
      rfl
  | false =>
      have others : ∀ other ∈ ['t', 'f', '"', '-'], c ≠ other := by
        rintro other member rfl
        have none : ∀ other ∈ ['t', 'f', '"', '-'], other.isDigit = false := by simp
        rw [none c member] at digit
        cases digit
      rw [if_neg Bool.false_ne_true, List.nil_append]
      unfold ofText?
      rw [if_neg (by simp [others 't' (by simp)]), if_neg (by simp [others 'f' (by simp)])]
      split
      next same => exact absurd (List.cons.inj same).1 (others '"' (by simp))
      next same => exact absurd (List.cons.inj same).1 (others '-' (by simp))
      next =>
        rw [read]
        rfl

theorem integer_text (n : Int) :
    (toString n).toList = (if decide (n < 0) then ['-'] else []) ++ Nat.toDigits 10 n.natAbs := by
  cases n with
  | ofNat m =>
      have plain : decide (Int.ofNat m < 0) = false := decide_eq_false (Int.not_lt.mpr (Int.natCast_nonneg m))
      rw [plain]
      exact Nat.toList_repr
  | negSucc m =>
      rw [decide_eq_true (Int.negSucc_lt_zero m)]
      change ("-" ++ m.succ.repr).toList = _
      rw [String.toList_append, Nat.toList_repr]
      rfl

theorem integer_read (n : Int) : ofText? (toString n).toList = some (.number (decide (n < 0)) n.natAbs 0) := by
  obtain ⟨c, rest, chars⟩ := List.exists_cons_of_ne_nil (Nat.toDigits_ne_nil (b := 10) (n := n.natAbs))
  rw [integer_text, chars]
  refine signed_read _ c rest (to_digits_digit n.natAbs c (chars ▸ List.mem_cons_self)) n.natAbs 0 ?_
  rw [← chars]
  exact whole_read n.natAbs

theorem fraction_signed_read (negative : Bool) (whole fraction : List Char) (nonempty : whole ≠ [])
    (digits : ∀ c ∈ whole ++ fraction, c.isDigit = true) :
    ofText? ((if negative then ['-'] else []) ++ (whole ++ '.' :: fraction)) =
      some (.number negative (Nat.ofDigitChars 10 (whole ++ fraction) 0) fraction.length) := by
  have read := fraction_read whole fraction nonempty digits
  obtain ⟨c, rest, rfl⟩ := List.exists_cons_of_ne_nil nonempty
  exact signed_read negative c (rest ++ '.' :: fraction) (digits c List.mem_cons_self) _ _ read

theorem text_read (text : List Char) : ofText? ('"' :: (text.flatMap Text.literalChar ++ ['"'])) = some (.text text) := by
  unfold ofText?
  rw [if_neg (by simp), if_neg (by simp)]
  split
  next rest same =>
    obtain rfl := (List.cons.inj same).2
    rw [Text.unquote_literal]
  next same => cases (List.cons.inj same).1
  next quote _ => exact absurd rfl (quote _)

end Constant

namespace Number

open Constant

-- What stands in the literal of a finite double: its whole part where there is hardly
-- more, and else its shortest digits, with a zero behind the point where they end in front of it.
inductive Printed (units : Nat) : Nat → Nat → Prop where
  | whole (small : units < Nat.pow 10 15 * Double.one) : Printed units (units / Double.one * 10) 1
  | digits (digits : Nat) (place : Int) (zeros : Nat) (found : shortest units = (digits, place)) :
      Printed units (digits * Nat.pow 10 place.toNat * Nat.pow 10 zeros) ((-place).toNat + zeros)

theorem positional_read (digits : Nat) (place : Int) (behind : place < 0) :
    ∃ whole fraction, (positional digits place).toList = whole ++ '.' :: fraction ∧ whole ≠ [] ∧
      (∀ c ∈ whole ++ fraction, c.isDigit = true) ∧ fraction.length = (-place).toNat ∧
      Nat.ofDigitChars 10 (whole ++ fraction) 0 = digits := by
  unfold positional
  dsimp only
  rw [if_neg (Int.not_le.mpr behind)]
  generalize zeros : (-place).toNat + 1 - (Nat.toDigits 10 digits).length = missing
  generalize padded : List.replicate missing '0' ++ Nat.toDigits 10 digits = chars
  have length : (-place).toNat + 1 ≤ chars.length := by
    rw [← padded, List.length_append, List.length_replicate]
    omega
  refine ⟨chars.take (chars.length - (-place).toNat), chars.drop (chars.length - (-place).toNat), String.toList_ofList,
    ?_, ?_, ?_, ?_⟩
  · rw [Ne, List.take_eq_nil_iff, not_or]
    exact ⟨by omega, fun empty => by simp [empty] at length⟩
  · rw [List.take_append_drop, ← padded]
    intro c member
    rcases List.mem_append.mp member with zero | digit
    · rw [List.eq_of_mem_replicate zero]
      rfl
    · exact to_digits_digit digits c digit
  · rw [List.length_drop]
    omega
  · rw [List.take_append_drop, ← padded, Nat.ofDigitChars_append, Nat.ofDigitChars_replicate_zero, Nat.mul_zero,
      Nat.ofDigitChars_ten_toDigits]

theorem positional_whole (digits : Nat) (place : Int) (front : 0 ≤ place) :
    (positional digits place).toList ≠ [] ∧ (∀ c ∈ (positional digits place).toList, c.isDigit = true) ∧
      Nat.ofDigitChars 10 (positional digits place).toList 0 = digits * Nat.pow 10 place.toNat := by
  have chars : (positional digits place).toList = Nat.toDigits 10 digits ++ List.replicate place.toNat '0' := by
    unfold positional
    rw [if_pos front, String.toList_ofList]
  rw [chars]
  refine ⟨by simp [Nat.toDigits_ne_nil], fun c member => ?_, ?_⟩
  · rcases List.mem_append.mp member with digit | zero
    · exact to_digits_digit digits c digit
    · rw [List.eq_of_mem_replicate zero]
      rfl
  · rw [Nat.ofDigitChars_append, Nat.ofDigitChars_replicate_zero, Nat.ofDigitChars_ten_toDigits]
    exact Nat.mul_comm _ _

theorem fraction_kept (x : Double) (text : List Char) (chars : x.format.toList = text) (point : '.' ∈ text) :
    x.formatFraction.toList = text := by
  unfold Double.formatFraction
  dsimp only
  rw [String.contains_char_eq, chars, decide_eq_true point, Bool.true_or, Bool.true_or, if_pos rfl, chars]

theorem fraction_appended (x : Double)
    (plain : '.' ∉ x.format.toList ∧ 'e' ∉ x.format.toList ∧ 'E' ∉ x.format.toList) :
    x.formatFraction.toList = x.format.toList ++ ['.', '0'] := by
  have absent (c : Char) (none : c ∉ x.format.toList) : x.format.contains c = false := by
    rw [String.contains_char_eq, decide_eq_false_iff_not]
    exact none
  unfold Double.formatFraction
  dsimp only
  rw [absent '.' plain.1, absent 'e' plain.2.1, absent 'E' plain.2.2]
  exact String.toList_append

theorem fraction_added (x : Double) (sign : Bool) (digits : List Char)
    (chars : x.format.toList = (if sign then ['-'] else []) ++ digits) (each : ∀ c ∈ digits, c.isDigit = true) :
    x.formatFraction.toList = (if sign then ['-'] else []) ++ (digits ++ ['.', '0']) := by
  have absent (c : Char) (other : c ≠ '-') (letter : c.isDigit = false) : c ∉ x.format.toList := by
    intro member
    rw [chars, List.mem_append] at member
    rcases member with minus | digit
    · cases sign <;> simp [other] at minus
    · rw [each c digit] at letter
      cases letter
  rw [fraction_appended x ⟨absent '.' (by decide) rfl, absent 'e' (by decide) rfl, absent 'E' (by decide) rfl⟩, chars,
    List.append_assoc]

theorem display_finite (negative : Bool) (units : Nat) :
    (Double.finite negative units).display =
      (if negative then "-" else "") ++ if units = 0 then "0" else positional (shortest units).1 (shortest units).2 := by
  rw [Double.display]
  generalize shortest units = found
  obtain ⟨digits, place⟩ := found
  dsimp only
  by_cases zero : units = 0
  · rw [if_pos zero, if_pos zero]
  · rw [if_neg zero, if_neg zero]

theorem not_finite_read (x : Double) (other : x.isFinite = false) : ofText? x.formatFraction.toList = none := by
  have word : ('.' ∉ x.format.toList ∧ 'e' ∉ x.format.toList ∧ 'E' ∉ x.format.toList) ∧
      ofText? (x.format.toList ++ ['.', '0']) = none := by
    cases x with
    | nan => decide
    | infinite negative => cases negative <;> decide
    | finite _ _ => cases other
  rw [fraction_appended x word.1, word.2]

theorem tenths_read (x : Double) (sign : Bool) (digits : List Char) (nonempty : digits ≠ [])
    (chars : x.format.toList = (if sign then ['-'] else []) ++ digits) (each : ∀ c ∈ digits, c.isDigit = true) :
    ofText? x.formatFraction.toList = some (.number sign (Nat.ofDigitChars 10 digits 0 * 10) 1) := by
  rw [fraction_added x sign digits chars each, fraction_signed_read sign digits ['0'] nonempty]
  · rw [Nat.ofDigitChars_append, Nat.ofDigitChars_cons, Nat.ofDigitChars_nil, Nat.mul_comm]
    rfl
  · intro c member
    rcases List.mem_append.mp member with own | zero
    · exact each c own
    · rw [List.mem_singleton.mp zero]
      rfl

theorem nearly_whole_read (negative : Bool) (units : Nat) (whole : (Double.finite negative units).nearlyWhole = true) :
    ∃ sign, ofText? (Double.finite negative units).formatFraction.toList =
      some (.number sign (units / Double.one * 10) 1) := by
  have format : (Double.finite negative units).format = toString (Double.finite negative units).truncate := if_pos whole
  have absolute : (Double.finite negative units).truncate.natAbs = units / Double.one := by
    cases negative with
    | true => exact (Int.natAbs_neg _).trans (Int.natAbs_natCast _)
    | false => exact Int.natAbs_natCast _
  have read := tenths_read _ _ (Nat.toDigits 10 (units / Double.one)) Nat.toDigits_ne_nil
    (by rw [format, integer_text, absolute]) (to_digits_digit _)
  rw [Nat.ofDigitChars_ten_toDigits] at read
  exact ⟨_, read⟩

theorem sign_chars (negative : Bool) : (if negative then "-" else "").toList = if negative then ['-'] else [] := by
  cases negative <;> rfl

theorem displayed_zero_read (negative : Bool)
    (shown : (Double.finite negative 0).format = (Double.finite negative 0).display) :
    ofText? (Double.finite negative 0).formatFraction.toList = some (.number negative 0 1) :=
  tenths_read _ negative ['0'] (List.cons_ne_nil _ _)
    (by rw [shown, display_finite, if_pos rfl, String.toList_append, sign_chars]; rfl) (by simp)

theorem displayed_fraction_read (negative : Bool) (digits : Nat) (place : Int) (behind : place < 0) :
    '.' ∈ ((if negative then "-" else "") ++ positional digits place).toList ∧
      ofText? ((if negative then "-" else "") ++ positional digits place).toList =
        some (.number negative digits (-place).toNat) := by
  obtain ⟨before, fraction, chars, nonempty, each, length, value⟩ := positional_read digits place behind
  rw [String.toList_append, sign_chars, chars, fraction_signed_read negative before fraction nonempty each, length, value]
  exact ⟨by simp, rfl⟩

theorem displayed_read (negative : Bool) (units : Nat) (nonzero : units ≠ 0)
    (shown : (Double.finite negative units).format = (Double.finite negative units).display) :
    ∃ mantissa places, ofText? (Double.finite negative units).formatFraction.toList =
      some (.number negative mantissa places) ∧ Printed units mantissa places := by
  rw [display_finite, if_neg nonzero] at shown
  generalize found : shortest units = result at shown
  obtain ⟨digits, place⟩ := result
  dsimp only at shown
  by_cases behind : place < 0
  · obtain ⟨point, read⟩ := displayed_fraction_read negative digits place behind
    rw [← shown] at point read
    have same : digits * Nat.pow 10 place.toNat * Nat.pow 10 0 = digits := by
      rw [Int.toNat_of_nonpos (Int.le_of_lt behind)]
      simp
    have printed := Printed.digits digits place 0 found
    rw [same] at printed
    exact ⟨_, _, (fraction_kept _ _ rfl point).symm ▸ read, printed⟩
  · obtain ⟨nonempty, each, value⟩ := positional_whole digits place (Int.not_lt.mp behind)
    have read := tenths_read (.finite negative units) negative _ nonempty
      (by rw [shown, String.toList_append, sign_chars]) each
    have unscaled : (-place).toNat = 0 := by omega
    have printed := Printed.digits digits place 1 found
    rw [unscaled, ← value] at printed
    exact ⟨_, _, read, printed⟩

theorem double_read (negative : Bool) (units : Nat) :
    ∃ sign mantissa places, ofText? (Double.finite negative units).formatFraction.toList =
        some (.number sign mantissa places) ∧ Printed units mantissa places := by
  by_cases whole : (Double.finite negative units).nearlyWhole = true
  · obtain ⟨sign, read⟩ := nearly_whole_read negative units whole
    simp only [Double.nearlyWhole, Bool.and_eq_true, decide_eq_true_eq] at whole
    exact ⟨sign, _, _, read, .whole whole.2⟩
  · have shown : (Double.finite negative units).format = (Double.finite negative units).display := if_neg whole
    by_cases zero : units = 0
    · subst zero
      have printed := Printed.whole (Nat.mul_pos (power_pos 15) one_pos)
      rw [Nat.zero_div, Nat.zero_mul] at printed
      exact ⟨negative, 0, 1, displayed_zero_read negative shown, printed⟩
    · obtain ⟨mantissa, places, read, printed⟩ := displayed_read negative units zero shown
      exact ⟨negative, mantissa, places, read, printed⟩

theorem zeros_below_iff (mantissa bound places zeros : Nat) :
    mantissa * Nat.pow 10 zeros < bound * Nat.pow 10 (places + zeros) ↔ mantissa < bound * Nat.pow 10 places := by
  have power : Nat.pow 10 (places + zeros) = Nat.pow 10 places * Nat.pow 10 zeros := Nat.pow_add 10 places zeros
  rw [power, ← Nat.mul_assoc]
  exact Nat.mul_lt_mul_right (power_pos zeros)

theorem whole_below (units bound : Nat) (small : units < Nat.pow 10 15 * Double.one) (room : Nat.pow 10 15 ≤ bound) :
    units / Double.one * 10 < bound * Nat.pow 10 1 := by
  have few : units / Double.one < Nat.pow 10 15 := (Nat.div_lt_iff_lt_mul one_pos).mpr small
  exact Nat.mul_lt_mul_of_pos_right (few.trans_le room) (by decide)

theorem printed_below (units mantissa places bound : Nat) (printed : Printed units mantissa places)
    (room : Nat.pow 10 15 ≤ bound)
    (fits : (shortest units).1 * Nat.pow 10 (shortest units).2.toNat < bound * Nat.pow 10 (-(shortest units).2).toNat) :
    mantissa < bound * Nat.pow 10 places := by
  cases printed with
  | whole small => exact whole_below units bound small room
  | digits digits place zeros found =>
      rw [found] at fits
      exact (zeros_below_iff _ _ _ zeros).mpr fits

theorem printed_below_overflow64 (units mantissa places : Nat) (printed : Printed units mantissa places)
    (below : units < Double.limit) (whole : Double.spacing units ∣ units) :
    mantissa < overflow64 * Nat.pow 10 places :=
  printed_below units mantissa places overflow64 printed (by decide +kernel) (shortest_below_overflow64 units below whole)

theorem printed_below_overflow32_iff (units mantissa places : Nat) (printed : Printed units mantissa places)
    (whole : Double.spacing units ∣ units) :
    mantissa < overflow32 * Nat.pow 10 places ↔ units ≤ Double.one * overflow32 := by
  cases printed with
  | whole small =>
      refine iff_of_true (whole_below units overflow32 small (by decide +kernel)) (Nat.le_of_lt ?_)
      rw [Nat.mul_comm]
      exact small.trans_le (Nat.mul_le_mul_right _ (by decide +kernel))
  | digits digits place zeros found =>
      have fits := shortest_below_overflow32_iff units whole
      rw [found] at fits
      exact (zeros_below_iff _ _ _ zeros).trans fits

end Number

end ApiBindings
