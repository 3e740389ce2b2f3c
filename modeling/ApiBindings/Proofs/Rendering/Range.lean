import ApiBindings.Proofs.Document.Reading
import ApiBindings.Proofs.Rendering.Enumeration
import ApiBindings.Proofs.Unit.Constant
import Mathlib.Data.List.Forall2
set_option autoImplicit false

namespace ApiBindings

open Number (Double overflow32 overflow64)

namespace Literal

def Legal (type : ScalarType) (literal : Literal) : Prop :=
  ∃ constant, Constant.ofText? literal.render.toList = some constant ∧ constant.Fits type

theorem legal_iff (type : ScalarType) (literal : Literal) (constant : Constant)
    (read : Constant.ofText? literal.render.toList = some constant) : literal.Legal type ↔ constant.Fits type := by
  refine ⟨fun ⟨other, same, fits⟩ => ?_, fun fits => ⟨constant, read, fits⟩⟩
  rw [read] at same
  exact Option.some.inj same ▸ fits

theorem text_legal (s : String) : (Literal.text s).Legal .string := by
  have chars : (quoted s).toList = Text.literal s.toList := String.toList_ofList
  refine (legal_iff .string (.text s) (.text s.toList) ?_).mpr rfl
  rw [render, chars]
  exact Constant.text_read s.toList

theorem flag_legal (b : Bool) : (Literal.flag b).Legal .bool := by
  refine (legal_iff .bool (.flag b) (.flag b) ?_).mpr rfl
  cases b <;> decide

theorem integer_legal_iff (type : ScalarType) (n : Int) :
    (Literal.integer n).Legal type ↔ (Constant.number (decide (n < 0)) n.natAbs 0).Fits type :=
  legal_iff type (.integer n) _ (Constant.integer_read n)

theorem signed_iff (bits : Nat) (n : Int) :
    Constant.Signed bits (decide (n < 0)) n.natAbs 0 ↔ -(Nat.pow 2 bits : Int) ≤ n ∧ n < Nat.pow 2 bits := by
  unfold Constant.Signed
  generalize Nat.pow 2 bits = limit
  constructor
  · rintro ⟨size, same, fits⟩
    simp only [Nat.pow_eq, Nat.pow_zero, Nat.mul_one, decide_eq_true_eq] at same fits
    omega
  · rintro ⟨low, high⟩
    refine ⟨n.natAbs, (Nat.mul_one _).symm, ?_⟩
    rw [decide_eq_true_eq]
    omega

theorem integer_float_legal (n : Int) (machine : Data.fitsSigned n = true) :
    (Literal.integer n).Legal .float32 ∧ (Literal.integer n).Legal .float64 := by
  simp only [Data.fitsSigned, Bool.and_eq_true, decide_eq_true_eq] at machine
  have room : 0x8000000000000000 < overflow32 := by decide
  have small : n.natAbs ≤ 0x8000000000000000 := by omega
  have fits := Constant.narrow_fits (decide (n < 0)) n.natAbs 0 ((Nat.mul_one overflow32).symm ▸ small.trans_lt room)
  exact ⟨(integer_legal_iff .float32 n).mpr fits.1, (integer_legal_iff .float64 n).mpr fits.2⟩

theorem not_finite_illegal (type : ScalarType) (x : Double) (other : x.isFinite = false) : ¬ (Literal.double x).Legal type := by
  rintro ⟨constant, read, _⟩
  have none : Constant.ofText? (Literal.double x).render.toList = none := Number.not_finite_read x other
  rw [none] at read
  cases read

theorem finite_legal_iff (negative : Bool) (units : Nat) (below : units < Double.limit)
    (whole : Double.spacing units ∣ units) :
    ((Literal.double (.finite negative units)).Legal .float32 ↔ units ≤ Double.one * overflow32) ∧
      (Literal.double (.finite negative units)).Legal .float64 := by
  obtain ⟨sign, mantissa, places, read, printed⟩ := Number.double_read negative units
  have legal (type : ScalarType) := legal_iff type (.double (.finite negative units)) _ read
  exact ⟨(legal .float32).trans (Number.printed_below_overflow32_iff units mantissa places printed whole),
    (legal .float64).mpr (Number.printed_below_overflow64 units mantissa places printed below whole)⟩

theorem wide_illegal : ¬ (Literal.double (.finite false (Double.one * Nat.pow 2 128))).Legal .float32 := by
  have below : Double.one * Nat.pow 2 128 < Double.limit := by decide +kernel
  have whole : Double.spacing (Double.one * Nat.pow 2 128) ∣ Double.one * Nat.pow 2 128 :=
    Nat.dvd_of_mod_eq_zero (by decide +kernel)
  have beyond : ¬ Double.one * Nat.pow 2 128 ≤ Double.one * overflow32 := by decide +kernel
  exact fun legal => beyond ((finite_legal_iff false _ below whole).1.mp legal)

end Literal

namespace EnumValue

def InRange (type : ScalarType) (value : EnumValue) : Prop :=
  match type, value with
  | .int32, .integer n => -0x80000000 ≤ n ∧ n < 0x80000000
  | .float32, .double (.finite _ units) => units ≤ Double.one * overflow32
  | .float32, .double _ => False
  | .float64, .double x => x.isFinite = true
  | _, _ => True

theorem double_legal_iff (type : ScalarType) (x : Double) (valid : x.Valid) (floating : type = .float32 ∨ type = .float64) :
    (Literal.double x).Legal type ↔ (EnumValue.double x).InRange type := by
  cases valid with
  | finite negative units below whole =>
      obtain ⟨narrow, wide⟩ := Literal.finite_legal_iff negative units below whole
      rcases floating with rfl | rfl
      · exact narrow
      · exact iff_of_true wide rfl
  | nan =>
      refine iff_of_false (Literal.not_finite_illegal type _ rfl) fun fits => ?_
      rcases floating with rfl | rfl <;> cases fits
  | infinite negative =>
      refine iff_of_false (Literal.not_finite_illegal type _ rfl) fun fits => ?_
      rcases floating with rfl | rfl <;> cases fits

theorem integer_legal_iff (type : ScalarType) (n : Int) (machine : Data.fitsSigned n = true)
    (numeric : (EnumValue.integer n).literal? type = some (.integer n)) :
    (Literal.integer n).Legal type ↔ (EnumValue.integer n).InRange type := by
  have float := Literal.integer_float_legal n machine
  have word : Constant.Signed 63 (decide (n < 0)) n.natAbs 0 := by
    simp only [Data.fitsSigned, Bool.and_eq_true, decide_eq_true_eq] at machine
    exact (Literal.signed_iff 63 n).mpr machine
  cases type with
  | int => exact iff_of_true ((Literal.integer_legal_iff .int n).mpr word) trivial
  | int64 => exact iff_of_true ((Literal.integer_legal_iff .int64 n).mpr word) trivial
  | int32 => exact (Literal.integer_legal_iff .int32 n).trans (Literal.signed_iff 31 n)
  | float32 => exact iff_of_true float.1 trivial
  | float64 => exact iff_of_true float.2 trivial
  | string | bool | time | uuid | ip | bytes => cases numeric

theorem literal_legal_iff (type : ScalarType) (value : EnumValue) (literal : Literal) (machine : value.Machine)
    (valued : value.literal? type = some literal) : literal.Legal type ↔ value.InRange type := by
  have text (named : type = .string) : literal.Legal type ↔ value.InRange type := by
    subst named
    cases value <;> cases valued <;> exact iff_of_true (Literal.text_legal _) trivial
  cases value with
  | null =>
      rw [null_unwritten] at valued
      cases valued
  | text s => cases type <;> first | exact text rfl | cases valued
  | flag b =>
      cases type with
      | string => exact text rfl
      | bool =>
          obtain rfl := Option.some.inj valued
          exact iff_of_true (Literal.flag_legal b) trivial
      | _ => cases valued
  | integer n =>
      by_cases named : type = .string
      · exact text named
      · have same : literal = .integer n := by
          cases type <;> first | exact absurd rfl named | cases valued <;> rfl
        subst same
        exact integer_legal_iff type n machine valued
  | double x =>
      by_cases named : type = .string
      · exact text named
      · have same : literal = .double x ∧ (type = .float32 ∨ type = .float64) := by
          cases type <;> first | exact absurd rfl named | cases valued <;> simp
        obtain ⟨rfl, floating⟩ := same
        exact double_legal_iff type x machine floating

def OfKind (type : ScalarType) : EnumValue → Prop
  | .null => True
  | .text _ => type = .string
  | .flag _ => type = .string ∨ type = .bool
  | .integer _ => type ∈ [.string, .int, .int32, .int64, .float32, .float64]
  | .double _ => type ∈ [.string, .float32, .float64]

theorem unfit_iff_kind (type : ScalarType) (value : EnumValue) : value.Unfit type ↔ ¬ value.OfKind type := by
  have kinds : (value ≠ .null ∧ value.literal? type = none) ↔ ¬ value.OfKind type := by
    cases type <;> cases value <;> simp [literal?, OfKind]
  exact ⟨fun unfit => kinds.mp ⟨unfit.present, unfit.unwritten⟩, fun other => ⟨(kinds.mpr other).1, (kinds.mpr other).2⟩⟩

end EnumValue

theorem unfit_message (type : ScalarType) (value : EnumValue) :
    (Malformation.unfitEnumValue value type).message =
      "enum value '" ++ value.display ++ "' does not fit type " ++ type.name := rfl

theorem made_constants_legal (name : String) (type : ScalarType) (values : List EnumValue)
    (machine : ∀ value ∈ values, value.Machine) (shape : DeclarationShape) (made : enumShape name type values = .ok shape) :
    ∃ constants, shape = .enumeration (.named type.name) constants ∧
      List.Forall₂ (fun value constant => constant.value.Legal type ↔ value.InRange type)
        (values.filter (· ≠ .null)) constants := by
  obtain ⟨constants, same, written⟩ := enum_shape_made name type values shape made
  have machines : ∀ value ∈ values.filter (· ≠ .null), value.Machine := fun value member =>
    machine value (List.mem_of_mem_filter member)
  refine ⟨constants, same, ((List.forall₂_and_left _ _).mpr ⟨machines, written.paired⟩).imp ?_⟩
  rintro value constant ⟨machine, valued⟩
  exact EnumValue.literal_legal_iff type value constant.value machine valued

theorem read_constants_legal (format : DataFormat) (text : String) (doc : Document)
    (read : Document.read format text = .ok doc) (s : Schema) (held : doc.Encloses s) (values : List EnumValue)
    (listed : s.enumValues = some values) (name : String) (type : ScalarType) (shape : DeclarationShape)
    (made : enumShape name type values = .ok shape) :
    ∃ constants, shape = .enumeration (.named type.name) constants ∧
      List.Forall₂ (fun value constant => constant.value.Legal type ↔ value.InRange type)
        (values.filter (· ≠ .null)) constants :=
  made_constants_legal name type values (((read_well_formed format text doc read).sound s held).values values listed)
    shape made

-- Only kinds are checked: a value of the right kind is written down however large it is, and then the literal is a
-- constant of the type exactly when the value is in its range.
theorem enum_constants_fit_as_values (name : String) (type : ScalarType) (values : List EnumValue)
    (machine : ∀ value ∈ values, value.Machine) :
    ((∃ cause, enumShape name type values = .error cause) ↔ ∃ value ∈ values, ¬ value.OfKind type) ∧
      (∀ cause, enumShape name type values = .error cause →
        ∃ value ∈ values, ¬ value.OfKind type ∧ cause.message =
          "enum value '" ++ value.display ++ "' does not fit type " ++ type.name) ∧
      ∀ shape, enumShape name type values = .ok shape →
        ∃ constants, shape = .enumeration (.named type.name) constants ∧
          List.Forall₂ (fun value constant => constant.value.Legal type ↔ value.InRange type)
            (values.filter (· ≠ .null)) constants := by
  refine ⟨?_, fun cause refused => ?_, made_constants_legal name type values machine⟩
  · rw [enum_shape_refused_iff]
    simp only [EnumValue.unfit_iff_kind]
  · obtain ⟨value, ⟨before, after, split, unfit, _⟩, rfl⟩ := (enum_shape_error_iff name type values cause).mp refused
    exact ⟨value, by simp [split], (EnumValue.unfit_iff_kind type value).mp unfit, unfit_message type value⟩

theorem count_constants_in_range :
    (∀ value ∈ [EnumValue.integer 7, .null, .integer 3000000000], value.Machine) ∧
      ∃ shape, enumShape "Count" .int32 [.integer 7, .null, .integer 3000000000] = .ok shape ∧
        ∃ constants, shape = .enumeration (.named "int32") constants ∧
          List.Forall₂ (fun (value : EnumValue) constant => constant.value.Legal .int32 ↔ value.InRange .int32)
            [EnumValue.integer 7, .integer 3000000000] constants := by
  have machine : ∀ value ∈ [EnumValue.integer 7, .null, .integer 3000000000], value.Machine := by
    simp [EnumValue.Machine, Data.fitsSigned]
  obtain ⟨_, _, made⟩ := enum_constants_fit_as_values "Count" .int32 [.integer 7, .null, .integer 3000000000] machine
  exact ⟨machine, _, rfl, made _ rfl⟩

-- More than 32 bits hold, more than any single, and infinity, whose literal reads as nothing.
theorem large_values_accepted :
    (∃ constants, enumShape "Big" .int32 [.integer 3000000000] = .ok (.enumeration (.named "int32") constants) ∧
        ∃ constant ∈ constants, ¬ constant.value.Legal .int32) ∧
      (∃ constants, enumShape "Big" .float32 [.double (.finite false (Double.one * Nat.pow 2 128))] =
          .ok (.enumeration (.named "float32") constants) ∧
        ∃ constant ∈ constants, ¬ constant.value.Legal .float32) ∧
      ∃ constants, enumShape "Big" .float64 [.double (.infinite false)] = .ok (.enumeration (.named "float64") constants) ∧
        ∃ constant ∈ constants, ¬ constant.value.Legal .float64 := by
  refine ⟨⟨_, rfl, _, List.mem_singleton_self _, ?_⟩, ⟨_, rfl, _, List.mem_singleton_self _, ?_⟩,
    ⟨_, rfl, _, List.mem_singleton_self _, ?_⟩⟩
  · intro legal
    obtain ⟨_, below⟩ := (EnumValue.integer_legal_iff .int32 3000000000 (by decide) rfl).mp legal
    exact absurd below (by decide)
  · exact Literal.wide_illegal
  · exact Literal.not_finite_illegal .float64 (.infinite false) rfl

end ApiBindings
