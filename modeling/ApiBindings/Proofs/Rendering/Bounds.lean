import ApiBindings.Proofs.Document.Reading
import ApiBindings.Proofs.Rendering.Enumeration
import ApiBindings.Proofs.Rendering.Rules
import ApiBindings.Proofs.Unit.Readback
import Mathlib.Algebra.Order.Field.Rat
import Mathlib.Data.Nat.Cast.Order.Field
import Mathlib.Tactic.Ring
set_option autoImplicit false

namespace ApiBindings

open Number (Double)

namespace Number

def Double.value : Double → ℚ
  | .finite negative units => signed negative units / Double.one
  | _ => 0

theorem one_cast_pos : (0 : ℚ) < Double.one := Nat.cast_pos.mpr one_pos

theorem value_eq_iff (negative : Bool) (units : Nat) (n : ℤ) :
    (Double.finite negative units).value = n ↔ signed negative units = n * Double.one := by
  rw [Double.value, div_eq_iff one_cast_pos.ne', ← @Int.cast_inj ℚ, Int.cast_mul, Int.cast_natCast]

theorem value_multiple_iff (negative : Bool) (units k : Nat) :
    (∃ m : ℤ, (Double.finite negative units).value = m * k) ↔ k * Double.one ∣ units := by
  have scaled (m : ℤ) : (Double.finite negative units).value = m * k ↔
      signed negative units = ((k * Double.one : Nat) : ℤ) * m := by
    rw [← Int.cast_natCast k, ← Int.cast_mul, value_eq_iff, Int.natCast_mul, mul_assoc, mul_comm]
  rw [exists_congr scaled]
  change ((k * Double.one : Nat) : ℤ) ∣ signed negative units ↔ _
  rw [Int.natCast_dvd, signed_abs]

theorem value_abs (negative : Bool) (units : Nat) : |(Double.finite negative units).value| = units / Double.one := by
  rw [Double.value, abs_div, Nat.abs_cast, ← Int.cast_abs, Int.abs_eq_natAbs, signed_abs, Int.cast_natCast]

theorem value_whole (negative : Bool) (units n : Nat) (same : n * Double.one = units) :
    (Double.finite negative units).value = signed negative n := by
  rw [value_eq_iff, ← same, signed_mul]

theorem value_below (negative : Bool) (units bound : Nat) :
    |(Double.finite negative units).value| < bound ↔ units < bound * Double.one := by
  rw [value_abs, div_lt_iff₀ one_cast_pos, ← Nat.cast_mul, Nat.cast_lt]

theorem value_zero_iff (negative : Bool) (units : Nat) : (Double.finite negative units).value = 0 ↔ units = 0 := by
  rw [← abs_eq_zero, value_abs, div_eq_zero_iff, or_iff_left one_cast_pos.ne', Nat.cast_eq_zero]

theorem value_fine_iff (negative : Bool) (units : Nat) :
    1 / 2 ^ 52 ≤ |(Double.finite negative units).value| ↔ Nat.pow 2 1022 ≤ units := by
  obtain ⟨k, fine, power⟩ := fine_power
  have scaled : Nat.pow 2 (k + 52) = Nat.pow 2 k * 2 ^ 52 := Nat.pow_add 2 k 52
  rw [value_abs, div_le_div_iff₀ (by positivity) one_cast_pos, one_mul, fine, power, scaled]
  exact_mod_cast Nat.mul_le_mul_right_iff (by decide)

-- The finite doubles but those nearer to zero than the spacing at one.
structure Double.Printable (x : Double) : Prop where
  finite : x.isFinite = true
  valid : x.Valid
  sized : x.value = 0 ∨ 1 / 2 ^ 52 ≤ |x.value|

theorem printable_iff (negative : Bool) (units : Nat) :
    (Double.finite negative units).Printable ↔
      (Double.finite negative units).Valid ∧ (units = 0 ∨ Nat.pow 2 1022 ≤ units) := by
  rw [← value_zero_iff negative, ← value_fine_iff negative]
  exact ⟨fun printable => ⟨printable.valid, printable.sized⟩, fun ⟨valid, sized⟩ => ⟨rfl, valid, sized⟩⟩

-- A text that is read as a double, with a fraction exactly when the double has one. Without one, it is
-- that of the double itself or of a number that ends in more zeros.
structure Double.Kept (x : Double) (text : String) : Prop where
  read : x.ReadFrom text
  pointed : '.' ∉ text.toList ↔ ∃ n : ℤ, x.value = n
  whole : '.' ∉ text.toList → ∃ n : ℤ, text = toString n ∧ (|x.value| < 2 ^ 54 → x.value = n) ∧
    (x.value = n ∨ ∃ zeros : ℕ, (10 ^ zeros : ℤ) ∣ n ∧ ¬ ∃ m : ℤ, x.value = m * 10 ^ zeros)

structure Double.KeptLiteral (x : Double) (text : String) : Prop where
  read : x.ReadFrom text
  text : text = if '.' ∈ x.format.toList then x.format else x.format ++ ".0"

theorem whole_double_kept (negative : Bool) (units : Nat) (valid : (Double.finite negative units).Valid)
    (whole : Double.one ∣ units) :
    (Double.finite negative units).Kept (Double.finite negative units).format ∧
      (Double.finite negative units).KeptLiteral (Double.finite negative units).formatFraction := by
  obtain ⟨n, printed⟩ := whole_text negative units valid whole
  have plain := whole_text_plain negative units n _ printed
  have multiple (k : Nat) := value_multiple_iff negative units k
  have literal : (Double.finite negative units).KeptLiteral (Double.finite negative units).formatFraction :=
    ⟨whole_literal_read negative units n valid printed, by rw [if_neg plain, whole_literal negative units n printed]⟩
  refine ⟨⟨whole_text_read negative units n _ valid printed, iff_of_true plain ?_, fun _ => ?_⟩, literal⟩
  · obtain ⟨m, same⟩ := (multiple 1).mpr (by rwa [Nat.one_mul])
    exact ⟨m, by rwa [Nat.cast_one, mul_one] at same⟩
  · refine ⟨signed negative n, printed.text, fun small => value_whole negative units n (printed.small ?_), ?_⟩
    · exact (value_below negative units _).mp (by exact_mod_cast small)
    · refine printed.rounder.imp (value_whole negative units n) fun ⟨zeros, ends, rounder⟩ => ⟨zeros, ?_, ?_⟩
      · rw [← signed_abs negative n] at ends
        exact_mod_cast Int.natCast_dvd.mpr ends
      · rw [← multiple] at rounder
        exact_mod_cast rounder

theorem fraction_double_kept (negative : Bool) (units : Nat) (valid : (Double.finite negative units).Valid)
    (large : Nat.pow 2 1022 ≤ units) (fraction : ¬ Double.one ∣ units) :
    (Double.finite negative units).Kept (Double.finite negative units).format ∧
      (Double.finite negative units).KeptLiteral (Double.finite negative units).formatFraction := by
  obtain ⟨point, read⟩ := fraction_text negative units valid large fraction
  have same : (Double.finite negative units).formatFraction = (Double.finite negative units).format :=
    String.toList_inj.mp (fraction_kept _ _ rfl point)
  refine ⟨⟨read, iff_of_false (not_not.mpr point) ?_, fun plain => absurd point plain⟩, same ▸ read,
    by rw [if_pos point, same]⟩
  rintro ⟨m, exact'⟩
  refine fraction ?_
  rw [← Nat.one_mul Double.one, ← value_multiple_iff negative]
  exact ⟨m, by rwa [Nat.cast_one, mul_one]⟩

theorem format_kept (x : Double) (printable : x.Printable) : x.Kept x.format ∧ x.KeptLiteral x.formatFraction := by
  cases x with
  | nan => cases printable.finite
  | infinite negative => cases printable.finite
  | finite negative units =>
      obtain ⟨valid, sized⟩ := (printable_iff negative units).mp printable
      by_cases whole : Double.one ∣ units
      · exact whole_double_kept negative units valid whole
      · exact fraction_double_kept negative units valid (sized.resolve_left fun zero => whole (zero ▸ Nat.dvd_zero _)) whole

end Number

def ConstantKept (value : EnumValue) (constant : EnumConstant) : Prop :=
  ∀ x, value = .double x → x.Printable → x.KeptLiteral constant.value.render

theorem double_constant_kept (type : ScalarType) (numeric : type ≠ .string) (value : EnumValue) (constant : EnumConstant)
    (valued : value.literal? type = some constant.value) : ConstantKept value constant := by
  rintro x rfl printable
  have same : constant.value = .double x := by
    cases type with
    | string => exact absurd rfl numeric
    | float32 | float64 => exact (Option.some.inj valued).symm
    | _ => cases valued
  rw [same]
  exact (Number.format_kept x printable).2

theorem printed_numbers_kept :
    (∀ x : Double, x.Printable → x.Kept x.format) ∧
      (∀ (s : Schema) (required : Bool), s.RulesMade required (s.validationRules required)) ∧
      ∀ (name : String) (type : ScalarType) (values : List EnumValue) (shape : DeclarationShape), type ≠ .string →
        enumShape name type values = .ok shape →
        ∃ constants, shape = .enumeration (.named type.name) constants ∧
          List.Forall₂ ConstantKept (values.filter (· ≠ .null)) constants := by
  refine ⟨fun x printable => (Number.format_kept x printable).1, Schema.validation_rules_made,
    fun name type values shape numeric made => ?_⟩
  obtain ⟨constants, same, written⟩ := enum_shape_made name type values shape made
  exact ⟨constants, same, written.paired.imp fun value constant => double_constant_kept type numeric value constant⟩

theorem read_numbers_kept (format : DataFormat) (text : String) (doc : Document)
    (read : Document.read format text = .ok doc) (s : Schema) (held : doc.Encloses s) (x : Double) (mentioned : s.Mentions x)
    (finite : x.isFinite = true) (sized : x.value = 0 ∨ 1 / 2 ^ 52 ≤ |x.value|) :
    x.Kept x.format ∧ x.KeptLiteral x.formatFraction :=
  Number.format_kept x
    ⟨finite, sound_double_valid s ((read_well_formed format text doc read).sound s held) x mentioned, sized⟩

def Number.Double.offset : Double := .finite true (5 * Nat.pow 2 1073)

theorem offsets_kept :
    Double.offset.Printable ∧ Double.offset.Kept "-2.5" ∧
      Schema.RulesMade { limits := { minimum := some Double.offset, exclusiveMinimum := some (.flag true) } } true
        (some "gt=-2.5") ∧
      ∃ constants, enumShape "Offset" .float64 [.double Double.offset, .null] =
          .ok (.enumeration (.named "float64") constants) ∧
        List.Forall₂ ConstantKept [.double Double.offset] constants := by
  have format : Double.offset.format = "-2.5" := by decide +kernel
  have printable : Double.offset.Printable :=
    (Number.printable_iff true _).mpr ⟨.finite true _ (by decide +kernel) (Nat.dvd_of_mod_eq_zero (by decide +kernel)),
      Or.inr (by decide +kernel)⟩
  obtain ⟨kept, rules, constants⟩ := printed_numbers_kept
  refine ⟨printable, format ▸ kept Double.offset printable, ?_, ?_⟩
  · have text : Schema.validationRules
        { limits := { minimum := some Double.offset, exclusiveMinimum := some (.flag true) } } true = some "gt=-2.5" := by
      decide +kernel
    exact text ▸ rules _ true
  · obtain ⟨shape, made, _⟩ := ok_holds (enumShape "Offset" .float64 [.double Double.offset, .null]) (fun _ => true)
      (by decide +kernel)
    obtain ⟨listed, rfl, each⟩ := constants "Offset" .float64 _ shape (by decide) made
    exact ⟨listed, made, each⟩

def Number.Double.large : Double := .finite false (72057594037927936 * Double.one)

def Number.Double.tiny : Double := .finite false (Nat.pow 2 1021)

-- The last digit of the large double is not needed to tell it apart, and the fraction of the small one is taken for noise.
theorem large_and_small_rounded :
    Double.large.Valid ∧ Double.large.value = (72057594037927936 : ℤ) ∧ Double.large.format = "72057594037927940" ∧
      "lte=72057594037927940" ∈ Limits.rules { maximum := some Double.large } ∧
      (Literal.double Double.large).render = "72057594037927940.0" ∧
      Double.tiny.Valid ∧ Double.tiny.value ≠ 0 ∧ Double.tiny.format = "0" := by
  have valid : Double.large.Valid := .finite false _ (by decide +kernel) (Nat.dvd_of_mod_eq_zero (by decide +kernel))
  have format : Double.large.format = "72057594037927940" := by decide +kernel
  obtain ⟨n, printed⟩ := Number.whole_text false _ valid (Nat.dvd_mul_left _ _)
  have literal : Double.large.formatFraction = Double.large.format ++ ".0" := Number.whole_literal false _ n printed
  refine ⟨valid, Number.value_whole false _ 72057594037927936 rfl, format, ?_, literal.trans (format ▸ rfl),
    .finite false _ (by decide +kernel) (Nat.dvd_of_mod_eq_zero (by decide +kernel)), fun zero => ?_, by decide +kernel⟩
  · exact (limits_rules_iff _ _).mpr
      (Or.inl ⟨"lte", Double.large, Or.inr (.inclusive Double.large rfl (by simp)), by rw [format]; rfl⟩)
  · exact absurd ((Number.value_zero_iff false _).mp zero) (by decide +kernel)

end ApiBindings
