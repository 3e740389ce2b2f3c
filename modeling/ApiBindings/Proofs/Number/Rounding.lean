import ApiBindings.Proofs.Number.Shortest
set_option autoImplicit false

namespace ApiBindings.Number

theorem round_div_eq (num den n : Nat) (low : 2 * (n * den) ≤ 2 * num + den) (high : 2 * num ≤ 2 * (n * den) + den)
    (odd : n % 2 = 1 → 2 * (n * den) < 2 * num + den ∧ 2 * num < 2 * (n * den) + den) (positive : 0 < den) :
    Double.roundDiv num den = n := by
  have division : den * (num / den) + num % den = num := Nat.div_add_mod num den
  have remainder : num % den < den := Nat.mod_lt num positive
  have swapped : den * (num / den) = num / den * den := Nat.mul_comm _ _
  have cases' : num / den = n ∨ n = num / den + 1 := by
    have above : num / den < n + 1 := (Nat.div_lt_iff_lt_mul positive).mpr (by rw [Nat.succ_mul]; omega)
    have below : n < num / den + 2 := by
      by_contra far
      have scaled := Nat.mul_le_mul_right den (Nat.le_of_not_lt far)
      rw [Nat.add_mul] at scaled
      omega
    omega
  unfold Double.roundDiv
  dsimp only
  generalize num / den = quotient at division swapped cases' ⊢
  generalize num % den = rest at division remainder ⊢
  rcases cases' with rfl | rfl
  · by_cases tie : 2 * rest = den
    · have even : quotient % 2 ≠ 1 := fun odd' => by
        have := odd odd'
        omega
      simp [tie, even]
    · have down : ¬ 2 * rest > den := by omega
      simp [tie, down]
  · simp only [Nat.add_mul, Nat.one_mul] at low high odd
    by_cases tie : 2 * rest = den
    · have odd' : quotient % 2 = 1 := by
        by_contra even
        have := odd (by omega)
        omega
      simp [tie, odd']
    · have up : 2 * rest > den := by omega
      simp [up]

-- The interval of a double, multiplied out. It reaches half a spacing below and above,
-- and only half as far down from a power of two.
structure Around (gap significand units num : Nat) : Prop where
  low : 4 * units ≤ num + 2 * gap
  high : num ≤ 4 * units + 2 * gap
  odd : significand % 2 = 1 → 4 * units < num + 2 * gap ∧ num < 4 * units + 2 * gap
  power : significand = Nat.pow 2 52 → 4 * units ≤ num + gap

theorem within_around (units mantissa places : Nat) (within : Within units mantissa places) :
    Around (Double.spacing units * Nat.pow 10 places) (units / Double.spacing units) (units * Nat.pow 10 places)
      (4 * Double.one * mantissa) := by
  have odd_power : Nat.pow 2 52 % 2 ≠ 1 := by decide
  unfold Within Interval.holds Interval.of at within
  simp only [Bool.or_eq_true, Bool.and_eq_true, decide_eq_true_eq, beq_iff_eq] at within
  generalize 4 * Double.one * mantissa = num at within ⊢
  generalize Double.spacing units = gap at within ⊢
  generalize Nat.pow 10 places = scale at within ⊢
  generalize chosen : (if units / gap = Nat.pow 2 52 then gap else 2 * gap) = below at within
  have reach : below ≤ 2 * gap := by
    rw [← chosen]
    split <;> omega
  have full : units / gap = Nat.pow 2 52 → below = gap := fun same => chosen.symm.trans (if_pos same)
  generalize units / gap = significand at within full ⊢
  have below_scaled : below * scale ≤ 2 * (gap * scale) := by
    rw [← Nat.mul_assoc]
    exact Nat.mul_le_mul_right scale reach
  have full_scaled : significand = Nat.pow 2 52 → below * scale = gap * scale := fun same => by rw [full same]
  simp only [Nat.sub_mul, Nat.add_mul, Nat.mul_assoc] at within
  generalize below * scale = reach' at within below_scaled full_scaled
  generalize gap * scale = step at within below_scaled full_scaled ⊢
  generalize units * scale = centre at within ⊢
  rcases within with ⟨above, under⟩ | ⟨even, ends⟩
  · exact ⟨by omega, by omega, fun _ => by omega, fun same => by have := full_scaled same; omega⟩
  · exact ⟨by omega, by omega, fun odd => by omega, fun same => by have := full_scaled same; omega⟩

theorem spacing_small (units : Nat) (few : units < Nat.pow 2 53) : Double.spacing units = 1 :=
  Nat.dvd_one.mp (spacing_divides units 0 few)

-- From 2⁵³ on, the spacing is even and a double is a significand of 53 bits times the spacing.
structure Large (units significand k : Nat) : Prop where
  spacing : Double.spacing units = Nat.pow 2 (k + 1)
  whole : units = significand * Nat.pow 2 (k + 1)
  least : Nat.pow 2 52 ≤ significand
  most : significand < Nat.pow 2 53

theorem large_significand (units : Nat) (many : Nat.pow 2 53 ≤ units) (whole : Double.spacing units ∣ units) :
    ∃ significand k, Large units significand k := by
  have positive : units ≠ 0 := by
    rintro rfl
    exact absurd many (by decide)
  have log : 53 ≤ Nat.log2 units := (Nat.le_log2 positive).mpr many
  obtain ⟨k, same⟩ := Nat.exists_eq_add_of_le log
  have spacing : Double.spacing units = Nat.pow 2 (k + 1) := by
    rw [Double.spacing, same, show 53 + k - 52 = k + 1 by omega]
  have least := spacing_low units 1 many
  have most := quotient_few units
  rw [spacing] at whole least most
  exact ⟨units / Nat.pow 2 (k + 1), k, spacing, (Nat.div_mul_cancel whole).symm,
    (Nat.le_div_iff_mul_le (Nat.pow_pos (by decide))).mpr least, most⟩

theorem power_scaled (k exponent den : Nat) :
    Nat.pow 2 (k + exponent) * den = Nat.pow 2 exponent * (Nat.pow 2 k * den) := by
  rw [← Nat.mul_assoc]
  exact congrArg (· * den) ((Nat.pow_add 2 k exponent).trans (Nat.mul_comm _ _))

theorem quotient_spacing (num den k : Nat) (positive : 0 < den) (above : Nat.pow 2 52 * (Nat.pow 2 k * den) ≤ num)
    (below : num < Nat.pow 2 53 * (Nat.pow 2 k * den)) : Double.spacing (num / den) = Nat.pow 2 k := by
  rw [← power_scaled] at above below
  exact spacing_bounds _ k ((Nat.le_div_iff_mul_le positive).mpr above) ((Nat.div_lt_iff_lt_mul positive).mpr below)

theorem large_spacing (units significand k num den : Nat) (positive : 0 < den) (large : Large units significand k)
    (around : Around (Nat.pow 2 (k + 1) * den) significand (units * den) (4 * num)) :
    Double.spacing (num / den) = Nat.pow 2 (k + 1) ∨
      Double.spacing (num / den) = Nat.pow 2 k ∧ num < units * den ∧ significand = Nat.pow 2 52 := by
  have double : Nat.pow 2 (k + 1) * den = 2 * (Nat.pow 2 k * den) := power_scaled k 1 den
  have centre : units * den = significand * (2 * (Nat.pow 2 k * den)) := by rw [large.whole, Nat.mul_assoc, double]
  have halved := quotient_spacing num den k positive
  have kept := quotient_spacing num den (k + 1) positive
  have most := Nat.mul_le_mul_right (2 * (Nat.pow 2 k * den)) (Nat.succ_le_of_lt large.most)
  have least := Nat.mul_le_mul_right (2 * (Nat.pow 2 k * den)) large.least
  have some_step : 0 < Nat.pow 2 k * den := Nat.mul_pos (Nat.pow_pos (by decide)) positive
  rw [double] at kept
  rw [centre, double] at around
  rw [centre]
  rw [Nat.succ_mul] at most
  have powers : Nat.pow 2 52 = 4503599627370496 ∧ Nat.pow 2 53 = 9007199254740992 := by decide
  have range := large.least
  rw [powers.1] at halved kept least range
  rw [powers.2] at halved kept most
  obtain ⟨low, high, _, power⟩ := around
  rw [powers.1] at power ⊢
  generalize Nat.pow 2 k * den = step at *
  by_cases inside : 4503599627370496 * (2 * step) ≤ num
  · exact Or.inl (kept inside (by omega))
  · have first : significand = 4503599627370496 := by
      by_contra more
      have scaled := Nat.mul_le_mul_right (2 * step) (show 4503599627370497 ≤ significand by omega)
      omega
    have narrow := power first
    subst first
    exact Or.inr ⟨halved (by omega) (by omega), by omega, rfl⟩

theorem around_spacing (units num den : Nat) (positive : 0 < den) (whole : Double.spacing units ∣ units)
    (around : Around (Double.spacing units * den) (units / Double.spacing units) (units * den) (4 * num)) :
    Double.spacing (num / den) = Double.spacing units ∨
      2 * Double.spacing (num / den) = Double.spacing units ∧ num < units * den ∧
        units / Double.spacing units = Nat.pow 2 52 := by
  by_cases few : units < Nat.pow 2 53
  · have single := spacing_small units few
    have high := around.high
    rw [single, Nat.one_mul] at high
    have below : num / den < units + 1 := (Nat.div_lt_iff_lt_mul positive).mpr (by rw [Nat.succ_mul]; omega)
    exact Or.inl (single ▸ spacing_small _ (by omega))
  · obtain ⟨significand, k, large⟩ := large_significand units (Nat.le_of_not_lt few) whole
    have quotient : units / Nat.pow 2 (k + 1) = significand := by
      rw [large.whole]
      exact Nat.mul_div_cancel _ (Nat.pow_pos (by decide))
    rw [large.spacing, quotient] at around ⊢
    refine (large_spacing units significand k num den positive large around).imp_right fun ⟨halved, under, power⟩ => ?_
    exact ⟨halved ▸ Nat.pow_succ'.symm, under, power⟩

theorem of_units_around (negative : Bool) (units num den : Nat) (positive : 0 < den) (below : units < Double.limit)
    (whole : Double.spacing units ∣ units)
    (around : Around (Double.spacing units * den) (units / Double.spacing units) (units * den) (4 * num)) :
    Double.ofUnits negative num den = .finite negative units := by
  suffices rounded : Double.roundDiv num (den * Double.spacing (num / den)) * Double.spacing (num / den) = units by
    unfold Double.ofUnits
    dsimp only
    rw [rounded, if_pos below]
  have same : units / Double.spacing units * Double.spacing units = units := Nat.div_mul_cancel whole
  have centre : units / Double.spacing units * (den * Double.spacing units) = units * den := by
    rw [Nat.mul_comm den, ← Nat.mul_assoc, same]
  have swapped : Double.spacing units * den = den * Double.spacing units := Nat.mul_comm _ _
  have steps := Nat.mul_pos positive (spacing_pos (num / den))
  rcases around_spacing units num den positive whole around with kept | ⟨halved, under, power⟩
  · rw [kept] at steps ⊢
    obtain ⟨low, high, odd, _⟩ := around
    rw [swapped] at low high odd
    rw [round_div_eq num _ (units / Double.spacing units) (by rw [centre]; omega) (by rw [centre]; omega)
      (fun one => by have := odd one; rw [centre]; omega) steps, same]
  · have even : 2 * (units / Double.spacing units) * (den * Double.spacing (num / den)) = units * den := by
      rw [← centre, ← halved, Nat.mul_left_comm den 2, Nat.mul_comm 2 (_ / _), Nat.mul_assoc]
    have narrow := around.power power
    have half : Double.spacing units * den = 2 * (den * Double.spacing (num / den)) := by
      rw [swapped, ← halved, Nat.mul_left_comm]
    rw [half] at narrow
    rw [round_div_eq num _ (2 * (units / Double.spacing units)) (by rw [even]; omega) (by rw [even]; omega)
      (fun one => by omega) steps]
    rw [Nat.mul_comm 2, Nat.mul_assoc, halved, same]

theorem of_ratio_within (negative : Bool) (units mantissa places : Nat) (below : units < Double.limit)
    (whole : Double.spacing units ∣ units) (within : Within units mantissa places) :
    Double.ofRatio negative mantissa (Nat.pow 10 places) = .finite negative units := by
  have around := within_around units mantissa places within
  rw [Nat.mul_assoc, Nat.mul_comm Double.one] at around
  exact of_units_around negative units (mantissa * Double.one) _ (power_pos places) below whole around

end ApiBindings.Number
