import ApiBindings.Proofs.Number.Rounding
set_option autoImplicit false

namespace ApiBindings.Number

theorem first_attempt {α : Type} (attempt : Nat → Option α) (bound i : Nat) (below : i < bound) (a : α)
    (succeeds : attempt i = some a) :
    ∃ j ≤ i, ∃ first, (List.range bound).findSome? attempt = some first ∧ attempt j = some first := by
  cases found : (List.range bound).findSome? attempt with
  | none =>
      rw [List.findSome?_eq_none_iff.mp found i (List.mem_range.mpr below)] at succeeds
      cases succeeds
  | some first =>
      obtain ⟨before, j, after, split, hit, missed⟩ := List.findSome?_eq_some_iff.mp found
      refine ⟨j, ?_, first, rfl, hit⟩
      by_contra late
      have earlier : i ∈ before := by
        have ordered := List.pairwise_lt_range (n := bound)
        have listed := List.mem_range.mpr below
        rw [split] at ordered listed
        obtain ⟨_, later, _⟩ := List.pairwise_append.mp ordered
        rcases List.mem_append.mp listed with first | rest
        · exact first
        · rcases List.mem_cons.mp rest with same | rest
          · omega
          · have := (List.pairwise_cons.mp later).1 i rest
            omega
      rw [missed i earlier] at succeeds
      cases succeeds

theorem shortest_first (units digits : Nat) (place : Int) (point : gridPoint? units place = some digits)
    (coarse : place ≤ 310) (fine : -1090 < place) :
    gridPoint? units (shortest units).2 = some (shortest units).1 ∧ place ≤ (shortest units).2 := by
  obtain ⟨j, least, first, found, hit⟩ := first_attempt
    (fun (i : Nat) => (gridPoint? units (310 - i)).map fun digits => (digits, (310 : Int) - i)) 1400 (310 - place).toNat
    (by omega) (digits, place) (by
      rw [show (310 : Int) - (310 - place).toNat = place by omega, point]
      rfl)
  have same : shortest units = first := by
    unfold shortest
    simp only [found, Option.getD_some]
  obtain ⟨own, grid, rfl⟩ := Option.map_eq_some_iff.mp hit
  rw [same]
  exact ⟨grid, by dsimp only; omega⟩

theorem grid_point_exact (units significand zeros : Nat)
    (exact' : significand * Nat.pow 10 zeros * Double.one = units) : gridPoint? units zeros = some significand := by
  have places : (-(zeros : Int)).toNat = 0 := by omega
  have step : 0 < 4 * Double.one * Nat.pow 10 zeros := Nat.mul_pos (Nat.mul_pos (by decide) one_pos) (power_pos zeros)
  have grid : significand * (4 * Double.one * Nat.pow 10 zeros) = 4 * Double.one * (significand * Nat.pow 10 zeros) :=
    Nat.mul_left_comm _ _ _
  have scaled : significand * (4 * Double.one * Nat.pow 10 zeros) = 4 * units := by
    rw [grid, Nat.mul_assoc, Nat.mul_comm Double.one, exact']
  have below : 4 * units / (4 * Double.one * Nat.pow 10 zeros) = significand :=
    Nat.div_eq_of_eq_mul_left step scaled.symm
  have down : (Interval.of units).holds (significand * (4 * Double.one * Nat.pow 10 zeros)) 1 = true := by
    rw [grid]
    refine exact_within units (significand * Nat.pow 10 zeros) 0 ?_
    rw [Nat.mul_comm, exact', Nat.pow_eq, Nat.pow_zero, Nat.mul_one]
  unfold gridPoint?
  dsimp only
  rw [places, Int.toNat_natCast, show Nat.pow 10 0 = 1 from rfl, Nat.mul_one, below, down, scaled]
  have far : decide (2 * (4 * units - 4 * units) ≥ 4 * Double.one * Nat.pow 10 zeros) = false :=
    decide_eq_false (by omega)
  rw [far, Bool.not_true, Bool.or_false, Bool.and_false, if_neg Bool.false_ne_true, if_pos rfl]

-- What is printed for a whole number: `digits` and so many zeros, in place of the number
-- itself only if it does not end in as many zeros.
structure WholeDigits (units digits zeros : Nat) : Prop where
  found : shortest units = (digits, (zeros : Int))
  within : Within units (digits * Nat.pow 10 zeros) 0
  rounder : digits * Nat.pow 10 zeros * Double.one = units ∨ ¬ Nat.pow 10 zeros * Double.one ∣ units

theorem whole_shortest (units : Nat) (whole : Double.one ∣ units) : ∃ digits zeros, WholeDigits units digits zeros := by
  obtain ⟨n, same⟩ := whole
  have unscaled := grid_point_exact units n 0 (by rw [Nat.pow_eq, Nat.pow_zero, Nat.mul_one, Nat.mul_comm, same])
  obtain ⟨point, front⟩ := shortest_first units n (0 : Nat) unscaled (by decide) (by decide)
  generalize found : shortest units = result at point front
  obtain ⟨digits, place⟩ := result
  obtain ⟨zeros, rfl⟩ := Int.eq_ofNat_of_zero_le front
  have within := grid_point_within units zeros digits point
  rw [Int.toNat_natCast, show (-(zeros : Int)).toNat = 0 by omega] at within
  refine ⟨digits, zeros, found, within, ?_⟩
  by_cases divides : Nat.pow 10 zeros * Double.one ∣ units
  · obtain ⟨m, scaled⟩ := divides
    have exact' : m * Nat.pow 10 zeros * Double.one = units := by rw [Nat.mul_assoc, Nat.mul_comm, scaled]
    obtain rfl := Option.some.inj ((grid_point_exact units m zeros exact').symm.trans point)
    exact Or.inl exact'
  · exact Or.inr divides

theorem within_whole (units n : Nat) (within : Within units n 0) :
    4 * units ≤ 4 * (n * Double.one) + 2 * Double.spacing units ∧
      4 * (n * Double.one) ≤ 4 * units + 2 * Double.spacing units := by
  have around := within_around units n 0 within
  simp only [Nat.pow_eq, Nat.pow_zero, Nat.mul_one, Nat.mul_assoc 4, Nat.mul_comm Double.one] at around
  exact ⟨around.low, around.high⟩

-- The exponent is hidden where powers of two are compared.
theorem one_power : ∃ k, Double.one = Nat.pow 2 k := ⟨1074, by decide +kernel⟩

theorem spacing_comparable (units k : Nat) :
    Double.spacing units ∣ Nat.pow 2 k ∨ Nat.pow 2 k ∣ Double.spacing units :=
  (Nat.le_total (Nat.log2 units - 52) k).imp (Nat.pow_dvd_pow 2) (Nat.pow_dvd_pow 2)

-- The spacing of a double with a fraction is a proper part of one, so no whole number is nearer than a spacing.
theorem fraction_shortest (units : Nat) (valid : Double.spacing units ∣ units) (fraction : ¬ Double.one ∣ units) :
    (shortest units).2 < 0 := by
  by_contra front
  have within := shortest_within units
  rw [show (-(shortest units).2).toNat = 0 by omega] at within
  obtain ⟨low, high⟩ := within_whole units _ within
  generalize (shortest units).1 * Nat.pow 10 (shortest units).2.toNat = n at low high
  have part : Double.spacing units ∣ Double.one := by
    obtain ⟨k, power⟩ := one_power
    rw [power] at fraction ⊢
    exact (spacing_comparable units k).resolve_right fun more => fraction (Nat.dvd_trans more valid)
  have multiple : Double.spacing units ∣ n * Double.one := part.mul_left n
  have positive := spacing_pos units
  rcases Nat.lt_trichotomy units (n * Double.one) with less | same | more
  · have := next_multiple _ _ _ valid multiple less
    omega
  · exact fraction ⟨n, same.trans (Nat.mul_comm _ _)⟩
  · have := next_multiple _ _ _ multiple valid more
    omega

theorem multiple_exact (n m unit : Nat) (low : m * unit < n * unit + unit) (high : n * unit < m * unit + unit) : n = m := by
  rw [← Nat.succ_mul] at low high
  have below := Nat.lt_of_mul_lt_mul_right low
  have above := Nat.lt_of_mul_lt_mul_right high
  omega

-- Below 2⁵⁴ the numbers that read back are at most one away, and two even numbers are not one apart.
theorem even_near_exact (units w k : Nat) (valid : Double.spacing units ∣ units) (whole : Nat.pow 2 k ∣ units)
    (small : units < Nat.pow 2 (k + 54)) (low : 4 * units ≤ 4 * (2 * w * Nat.pow 2 k) + 2 * Double.spacing units)
    (high : 4 * (2 * w * Nat.pow 2 k) ≤ 4 * units + 2 * Double.spacing units) : 2 * w * Nat.pow 2 k = units := by
  have positive : 0 < Nat.pow 2 k := Nat.pow_pos (by decide)
  by_cases smaller : units < Nat.pow 2 (k + 53)
  · have gap : Double.spacing units ≤ Nat.pow 2 k := Nat.le_of_dvd positive (spacing_divides units k smaller)
    obtain ⟨u, same⟩ := whole
    have centre : units = u * Nat.pow 2 k := same.trans (Nat.mul_comm _ _)
    rw [multiple_exact (2 * w) u (Nat.pow 2 k) (by omega) (by omega), centre]
  · have gap : Double.spacing units = 2 * Nat.pow 2 k :=
      (spacing_bounds units (k + 1) (Nat.le_of_not_lt smaller) small).trans Nat.pow_succ'
    rw [gap] at low high valid
    obtain ⟨v, twice⟩ := valid
    have centre : units = v * (2 * Nat.pow 2 k) := twice.trans (Nat.mul_comm _ _)
    have swapped : 2 * w * Nat.pow 2 k = w * (2 * Nat.pow 2 k) := by rw [Nat.mul_assoc, Nat.mul_left_comm]
    rw [swapped] at low high ⊢
    rw [multiple_exact w v (2 * Nat.pow 2 k) (by omega) (by omega), centre]

theorem small_whole_exact (units digits zeros : Nat) (valid : Double.spacing units ∣ units)
    (printed : WholeDigits units digits zeros) (whole : Double.one ∣ units) (small : units < Nat.pow 2 54 * Double.one) :
    digits * Nat.pow 10 zeros * Double.one = units := by
  rcases printed.rounder with same | rounder
  · exact same
  obtain ⟨low, high⟩ := within_whole units _ printed.within
  have ten : 2 ∣ digits * Nat.pow 10 zeros := by
    cases zeros with
    | zero => exact absurd (by rwa [Nat.pow_eq, Nat.pow_zero, Nat.one_mul]) rounder
    | succ zeros => exact (Dvd.intro_left (Nat.pow 10 zeros * 5) (Nat.mul_assoc _ _ _)).mul_left digits
  obtain ⟨w, even⟩ := ten
  obtain ⟨k, power⟩ := one_power
  have narrow : Nat.pow 2 54 * Nat.pow 2 k = Nat.pow 2 (k + 54) := (Nat.mul_comm _ _).trans (Nat.pow_add 2 k 54).symm
  rw [even, power] at low high
  rw [power] at whole
  rw [power, narrow] at small
  rw [even, power]
  exact even_near_exact units w k valid whole small low high

end ApiBindings.Number
