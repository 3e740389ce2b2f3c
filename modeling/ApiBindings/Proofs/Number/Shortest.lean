import ApiBindings.Number.Shortest
import Mathlib.Data.Nat.Log
import Mathlib.Tactic.Ring
set_option autoImplicit false

namespace ApiBindings.Number

-- The number `mantissa / 10 ^ places` lies in the interval of a double, and below its
-- upper end when the ends do not count.
structure Near (units mantissa places : Nat) : Prop where
  low : (Interval.of units).low * Nat.pow 10 places ≤ 4 * Double.one * mantissa
  high : 4 * Double.one * mantissa ≤ (Interval.of units).high * Nat.pow 10 places
  inside : (Interval.of units).closed = false → 4 * Double.one * mantissa < (Interval.of units).high * Nat.pow 10 places

theorem one_pos : 0 < Double.one := by decide +kernel

theorem power_pos (places : Nat) : 0 < Nat.pow 10 places := Nat.pow_pos (by decide)

theorem interval_low (units : Nat) : (Interval.of units).low ≤ 4 * units := by
  unfold Interval.of
  exact Nat.sub_le _ _

theorem interval_high (units : Nat) : (Interval.of units).high = 4 * units + 2 * Double.spacing units := rfl

theorem interval_holds (i : Interval) (ordered : i.low ≤ i.high) (n scale : Nat) (holds : i.holds n scale = true) :
    i.low * scale ≤ n ∧ n ≤ i.high * scale ∧ (i.closed = false → n < i.high * scale) := by
  simp only [Interval.holds, Bool.or_eq_true, Bool.and_eq_true, decide_eq_true_eq, beq_iff_eq] at holds
  have scaled : i.low * scale ≤ i.high * scale := Nat.mul_le_mul_right scale ordered
  rcases holds with ⟨above, below⟩ | ⟨closed, ends⟩
  · exact ⟨above.le, below.le, fun _ => below⟩
  · refine ⟨?_, ?_, fun shut => ?_⟩
    · rcases ends with rfl | rfl
      · exact Nat.le_refl _
      · exact scaled
    · rcases ends with rfl | rfl
      · exact scaled
      · exact Nat.le_refl _
    · rw [closed] at shut
      cases shut

def Within (units mantissa places : Nat) : Prop :=
  (Interval.of units).holds (4 * Double.one * mantissa) (Nat.pow 10 places) = true

theorem interval_ordered (units : Nat) : (Interval.of units).low ≤ (Interval.of units).high :=
  (interval_low units).trans (by rw [interval_high]; exact Nat.le_add_right _ _)

theorem within_near (units mantissa places : Nat) (within : Within units mantissa places) : Near units mantissa places := by
  obtain ⟨low, high, inside⟩ := interval_holds _ (interval_ordered units) _ _ within
  exact ⟨low, high, inside⟩

theorem spacing_pos (units : Nat) : 0 < Double.spacing units := Nat.pow_pos (by decide)

-- Zero is the only double that the lower end of its interval is not below.
theorem exact_within (units mantissa places : Nat) (exact' : Double.one * mantissa = units * Nat.pow 10 places) :
    Within units mantissa places := by
  have same : 4 * Double.one * mantissa = 4 * units * Nat.pow 10 places := by rw [Nat.mul_assoc, exact', Nat.mul_assoc]
  have power := power_pos places
  have gap := spacing_pos units
  unfold Within
  rw [same]
  by_cases zero : units = 0
  · subst zero
    simp [Interval.holds, Interval.of]
  · have low : (Interval.of units).low < 4 * units := by
      unfold Interval.of
      dsimp only
      split <;> omega
    have high : 4 * units < (Interval.of units).high := by
      rw [interval_high]
      omega
    simp only [Interval.holds, Nat.mul_lt_mul_of_pos_right low power, Nat.mul_lt_mul_of_pos_right high power, decide_true,
      Bool.and_self, Bool.true_or]

theorem grid_point_within (units : Nat) (place : Int) (digits : Nat) (found : gridPoint? units place = some digits) :
    Within units (digits * Nat.pow 10 place.toNat) (-place).toNat := by
  have within (held : (Interval.of units).holds (digits * (4 * Double.one * Nat.pow 10 place.toNat))
      (Nat.pow 10 (-place).toNat) = true) : Within units (digits * Nat.pow 10 place.toNat) (-place).toNat := by
    have grid : 4 * Double.one * (digits * Nat.pow 10 place.toNat) = digits * (4 * Double.one * Nat.pow 10 place.toNat) :=
      Nat.mul_left_comm _ _ _
    rw [← grid] at held
    exact held
  unfold gridPoint? at found
  dsimp only at found
  split at found
  next up =>
    obtain rfl := Option.some.inj found
    exact within (Bool.and_eq_true_iff.mp up).1
  next =>
    split at found
    next down =>
      obtain rfl := Option.some.inj found
      exact within down
    next => cases found

theorem shortest_cases (units : Nat) (holds : Nat × Int → Prop)
    (points : ∀ digits place, gridPoint? units place = some digits → holds (digits, place))
    (rest : holds (units * Nat.pow 5 1074, -1074)) : holds (shortest units) := by
  unfold shortest
  generalize List.range 1400 = attempts
  cases listed : attempts.findSome? (fun (i : Nat) =>
    (gridPoint? units (310 - i)).map fun digits => (digits, (310 : Int) - i)) with
  | some result =>
      obtain ⟨i, _, point⟩ := List.exists_of_findSome?_eq_some listed
      obtain ⟨digits, grid, rfl⟩ := Option.map_eq_some_iff.mp point
      simp only [listed, Option.getD_some]
      exact points digits _ grid
  | none =>
      simp only [listed, Option.getD_none]
      exact rest

theorem shortest_within (units : Nat) :
    Within units ((shortest units).1 * Nat.pow 10 (shortest units).2.toNat) (-(shortest units).2).toNat := by
  have exact' {five ten : Nat} (whole : Double.one * five = ten) : Double.one * (units * five * 1) = units * ten := by
    rw [Nat.mul_one, Nat.mul_left_comm, whole]
  refine shortest_cases units (fun found => Within units (found.1 * Nat.pow 10 found.2.toNat) (-found.2).toNat)
    (fun digits place found => grid_point_within units place digits found) (exact_within units _ _ (exact' ?_))
  dsimp only
  decide +kernel

theorem shortest_near (units : Nat) :
    Near units ((shortest units).1 * Nat.pow 10 (shortest units).2.toNat) (-(shortest units).2).toNat :=
  within_near _ _ _ (shortest_within units)

-- A double that a machine can hold: its significand has at most 53 bits.
inductive Double.Valid : Double → Prop where
  | nan : Valid .nan
  | infinite (negative : Bool) : Valid (.infinite negative)
  | finite (negative : Bool) (units : Nat) (below : units < limit) (whole : spacing units ∣ units) :
      Valid (.finite negative units)

theorem spacing_bounds (units k : Nat) (above : Nat.pow 2 (k + 52) ≤ units) (below : units < Nat.pow 2 (k + 53)) :
    Double.spacing units = Nat.pow 2 k := by
  have positive : units ≠ 0 := by
    rintro rfl
    exact absurd above (Nat.not_le.mpr (Nat.pow_pos (by decide)))
  have log : Nat.log2 units = k + 52 := (Nat.log2_eq_iff positive).mpr ⟨above, below⟩
  rw [Double.spacing, log, Nat.add_sub_cancel]

theorem near_below (units mantissa places bound : Nat) (near : Near units mantissa places)
    (within : 4 * units + 2 * Double.spacing units ≤ 4 * (Double.one * bound))
    (strict : (Interval.of units).closed = true → 4 * units + 2 * Double.spacing units < 4 * (Double.one * bound)) :
    mantissa < bound * Nat.pow 10 places := by
  have power := power_pos places
  suffices scaled : 4 * Double.one * mantissa < 4 * Double.one * (bound * Nat.pow 10 places) from
    Nat.lt_of_mul_lt_mul_left scaled
  have limit : 4 * (Double.one * bound) * Nat.pow 10 places = 4 * Double.one * (bound * Nat.pow 10 places) := by
    simp only [Nat.mul_assoc]
  rw [← limit]
  cases closed : (Interval.of units).closed with
  | true => exact near.high.trans_lt (Nat.mul_lt_mul_of_pos_right (interval_high units ▸ strict closed) power)
  | false => exact (near.inside closed).trans_le (Nat.mul_le_mul_right _ (interval_high units ▸ within))

theorem near_above (units mantissa places bound : Nat) (near : Near units mantissa places)
    (beyond : 4 * (Double.one * bound) + 2 * Double.spacing units ≤ 4 * units) :
    bound * Nat.pow 10 places ≤ mantissa := by
  suffices scaled : 4 * Double.one * (bound * Nat.pow 10 places) ≤ 4 * Double.one * mantissa from
    Nat.le_of_mul_le_mul_left scaled (Nat.mul_pos (by decide) one_pos)
  have low : 4 * (Double.one * bound) ≤ (Interval.of units).low := by
    unfold Interval.of
    dsimp only
    split <;> omega
  calc 4 * Double.one * (bound * Nat.pow 10 places)
      = 4 * (Double.one * bound) * Nat.pow 10 places := by simp only [Nat.mul_assoc]
    _ ≤ (Interval.of units).low * Nat.pow 10 places := Nat.mul_le_mul_right _ low
    _ ≤ 4 * Double.one * mantissa := near.low

-- The least numbers that are too large: each lies halfway between the largest finite
-- one of its width and the power of two behind it.
def overflow64 : Nat := Nat.pow 2 1024 - Nat.pow 2 970

def overflow32 : Nat := Nat.pow 2 128 - Nat.pow 2 103

theorem next_multiple (gap a b : Nat) (first : gap ∣ a) (second : gap ∣ b) (less : a < b) : a + gap ≤ b := by
  obtain ⟨s, rfl⟩ := first
  obtain ⟨t, rfl⟩ := second
  have steps : s + 1 ≤ t := Nat.lt_of_mul_lt_mul_left less
  calc gap * s + gap = gap * (s + 1) := (Nat.mul_succ gap s).symm
    _ ≤ gap * t := Nat.mul_le_mul_left gap steps

theorem spacing_divides (units k : Nat) (below : units < Nat.pow 2 (k + 53)) : Double.spacing units ∣ Nat.pow 2 k := by
  rw [Double.spacing]
  refine Nat.pow_dvd_pow 2 ?_
  by_cases zero : units = 0
  · subst zero
    exact Nat.zero_le _
  · have log : Nat.log2 units < k + 53 := (Nat.log2_lt zero).mpr below
    omega

theorem spacing_low (units k : Nat) (above : Nat.pow 2 (k + 52) ≤ units) :
    4503599627370496 * Double.spacing units ≤ units := by
  have positive : units ≠ 0 := by
    rintro rfl
    exact absurd above (Nat.not_le.mpr (Nat.pow_pos (by decide)))
  have log : k + 52 ≤ Nat.log2 units := (Nat.le_log2 positive).mpr above
  calc 4503599627370496 * Double.spacing units
      = 2 ^ 52 * 2 ^ (Nat.log2 units - 52) := rfl
    _ = 2 ^ Nat.log2 units := by rw [← Nat.pow_add, Nat.add_sub_cancel' (by omega)]
    _ ≤ units := Nat.log2_self_le positive

theorem quotient_few (units : Nat) : units / Double.spacing units < Nat.pow 2 53 := by
  rw [Nat.div_lt_iff_lt_mul (spacing_pos units)]
  by_cases zero : units = 0
  · rw [zero]
    exact Nat.mul_pos (by decide) (spacing_pos 0)
  · calc units < 2 ^ (Nat.log2 units + 1) := Nat.lt_log2_self
      _ ≤ 2 ^ (53 + (Nat.log2 units - 52)) := Nat.pow_le_pow_right (by decide) (by omega)
      _ = Nat.pow 2 53 * Double.spacing units := Nat.pow_add 2 53 _

-- The largest significand is odd, so the upper end of the last interval does not
-- count.
theorem largest_below (units mantissa places bound k : Nat) (below : units < Nat.pow 2 (k + 54))
    (limit : Double.one * bound + Nat.pow 2 k = Nat.pow 2 (k + 54)) (whole : Double.spacing units ∣ units)
    (near : Near units mantissa places) : mantissa < bound * Nat.pow 10 places := by
  have full : Nat.pow 2 (k + 54) = 18014398509481984 * Nat.pow 2 k := (Nat.pow_add 2 k 54).trans (Nat.mul_comm _ _)
  have less : Nat.pow 2 (k + 53) = 9007199254740992 * Nat.pow 2 k := (Nat.pow_add 2 k 53).trans (Nat.mul_comm _ _)
  have gap : Nat.pow 2 (k + 1) = 2 * Nat.pow 2 k := (Nat.pow_add 2 k 1).trans (Nat.mul_comm _ _)
  have positive : 0 < Nat.pow 2 k := Nat.pow_pos (by decide)
  by_cases smaller : units < Nat.pow 2 (k + 53)
  · have spacing := Nat.le_of_dvd positive (spacing_divides units k smaller)
    exact near_below units mantissa places bound near (by omega) fun _ => by omega
  · have spacing : Double.spacing units = 2 * Nat.pow 2 k :=
      (spacing_bounds units (k + 1) (Nat.le_of_not_lt smaller) below).trans gap
    obtain ⟨significand, same⟩ := whole
    rw [spacing] at same
    have few : significand < 9007199254740992 := by
      by_contra many
      have large := Nat.mul_le_mul_left (2 * Nat.pow 2 k) (Nat.le_of_not_lt many)
      omega
    have within : units + 2 * Nat.pow 2 k ≤ Nat.pow 2 (k + 54) := by
      have large := Nat.mul_le_mul_left (2 * Nat.pow 2 k) (Nat.succ_le_of_lt few)
      rw [Nat.mul_succ] at large
      omega
    refine near_below units mantissa places bound near (by omega) fun closed => ?_
    have even : significand % 2 = 0 := by
      have quotient : units / Double.spacing units = significand := by
        rw [spacing, same, Nat.mul_div_cancel_left _ (Nat.mul_pos (by decide) positive)]
      simpa [Interval.of, quotient] using closed
    have fewer : significand + 2 ≤ 9007199254740992 := by omega
    have large := Nat.mul_le_mul_left (2 * Nat.pow 2 k) fewer
    rw [Nat.mul_add] at large
    omega

theorem middle_below_iff (units mantissa places bound k : Nat)
    (limit : Double.one * bound = 9007198986305536 * Nat.pow 2 k) (whole : Double.spacing units ∣ units)
    (near : Near units mantissa places) (different : units ≠ Double.one * bound) :
    mantissa < bound * Nat.pow 10 places ↔ units < Double.one * bound := by
  have full : Nat.pow 2 (k + 53) = 9007199254740992 * Nat.pow 2 k := (Nat.pow_add 2 k 53).trans (Nat.mul_comm _ _)
  have less : Nat.pow 2 (k + 52) = 4503599627370496 * Nat.pow 2 k := (Nat.pow_add 2 k 52).trans (Nat.mul_comm _ _)
  have positive := spacing_pos units
  have divides (small : units < Nat.pow 2 (k + 53)) : Double.spacing units ∣ Double.one * bound := by
    rw [limit]
    exact Dvd.dvd.mul_left (spacing_divides units k small) _
  constructor
  · intro fits
    by_contra large
    have beyond : Double.one * bound < units := by omega
    refine absurd fits (Nat.not_lt.mpr (near_above units mantissa places bound near ?_))
    by_cases small : units < Nat.pow 2 (k + 53)
    · have next := next_multiple (Double.spacing units) _ _ (divides small) whole beyond
      omega
    · have low := spacing_low units (k + 1) (Nat.le_of_not_lt small)
      omega
  · intro below
    have next := next_multiple (Double.spacing units) _ _ whole (divides (by omega)) below
    exact near_below units mantissa places bound near (by omega) fun _ => by omega

theorem valid_below_overflow (units mantissa places : Nat) (below : units < Double.limit)
    (whole : Double.spacing units ∣ units) (near : Near units mantissa places) :
    mantissa < overflow64 * Nat.pow 10 places :=
  largest_below units mantissa places overflow64 2044 (below.trans_eq (by decide +kernel)) (by decide +kernel) whole near

theorem below_overflow32_iff (units mantissa places : Nat) (whole : Double.spacing units ∣ units)
    (near : Near units mantissa places) (different : units ≠ Double.one * overflow32) :
    mantissa < overflow32 * Nat.pow 10 places ↔ units < Double.one * overflow32 :=
  middle_below_iff units mantissa places overflow32 1149 (by decide +kernel) whole near different

theorem shortest_below_overflow64 (units : Nat) (below : units < Double.limit) (whole : Double.spacing units ∣ units) :
    (shortest units).1 * Nat.pow 10 (shortest units).2.toNat < overflow64 * Nat.pow 10 (-(shortest units).2).toNat :=
  valid_below_overflow units _ _ below whole (shortest_near units)

theorem shortest_at_overflow32 :
    (shortest (Double.one * overflow32)).1 * Nat.pow 10 (shortest (Double.one * overflow32)).2.toNat <
      overflow32 * Nat.pow 10 (-(shortest (Double.one * overflow32)).2).toNat := by
  decide +kernel

theorem shortest_below_overflow32_iff (units : Nat) (whole : Double.spacing units ∣ units) :
    (shortest units).1 * Nat.pow 10 (shortest units).2.toNat < overflow32 * Nat.pow 10 (-(shortest units).2).toNat ↔
      units ≤ Double.one * overflow32 := by
  by_cases bound : units = Double.one * overflow32
  · rw [bound]
    exact iff_of_true shortest_at_overflow32 (Nat.le_refl _)
  · rw [below_overflow32_iff units _ _ whole (shortest_near units) bound]
    exact ⟨Nat.le_of_lt, fun within => Nat.lt_of_le_of_ne within bound⟩

end ApiBindings.Number
