import OpticalBench.Proofs.Binary64.Nearest

/-!
# Which results are finite

Sums, products and quotients are rounded once, so they are finite as long as the exact result is below
the range of infinity.

- `two_mul_magnitude_lt`: finite numbers are below it.
- `isFinite_of_not_isInfinite`: what is rounded is finite or infinite, never NaN.
- `isFinite_neg`, `isFinite_mul`, `isFinite_div`, `isFinite_nearest_units`: results that are finite.
- `magnitude_units_bounds`: how far off a rounded whole number is.
-/

namespace OpticalBench.Binary64

variable {x y : Binary64} {num den : Nat}

/-! ## Finite numbers -/

theorem eq_ofNat_word (x : Binary64) : x = ⟨UInt64.ofNat x.word⟩ := by
  rw [word, UInt64.ofNat_toNat]

theorem isNaN_eq_false (h : x.isFinite = true) : x.isNaN = false := by
  rw [isFinite, bne_iff_ne] at h
  rw [isNaN, beq_false_of_ne h, Bool.false_and]

theorem isInfinite_eq_false (h : x.isFinite = true) : x.isInfinite = false := by
  rw [isFinite, bne_iff_ne] at h
  rw [isInfinite, beq_false_of_ne h, Bool.false_and]

theorem fraction_eq (x : Binary64) : x.fraction = x.unsignedWord % 0x10000000000000 := by
  rw [fraction, unsignedWord]
  omega

theorem fraction_lt (x : Binary64) : x.fraction < 0x10000000000000 := Nat.mod_lt _ (by decide)

theorem significand_lt (x : Binary64) : x.significand < 2 ^ 53 := by
  have := x.fraction_lt
  rw [significand]
  split_ifs <;> omega

theorem unitExponent_le (h : x.isFinite = true) : x.unitExponent ≤ topExponent := by
  have htop : topExponent = 2045 := rfl
  rw [isFinite_iff] at h
  rw [unitExponent, exponentField]
  omega

/-- At the greatest exponent, only the two largest numbers have a larger significand. -/
theorem significand_le_of_lt (h : x.unsignedWord < 0x7feffffffffffffe)
    (htop : x.unitExponent = topExponent) : x.significand ≤ 2 ^ 53 - 3 := by
  have hfield : x.unsignedWord / 0x10000000000000 - 1 = 2045 := htop
  rw [significand, exponentField, fraction_eq]
  split_ifs <;> omega

/-- The largest finite numbers have all bits at the greatest exponent. -/
theorem magnitude_le (h : x.isFinite = true) : x.magnitude ≤ (2 ^ 53 - 1) * 2 ^ topExponent := by
  have hsignificand : x.significand ≤ 2 ^ 53 - 1 := Nat.le_pred_of_lt x.significand_lt
  have hpower : 2 ^ x.unitExponent ≤ 2 ^ topExponent :=
    Nat.pow_le_pow_right (by decide) (unitExponent_le h)
  exact Nat.mul_le_mul hsignificand hpower

/-- Finite numbers are below the range of infinity. -/
theorem two_mul_magnitude_lt (h : x.isFinite = true) : 2 * x.magnitude < overflow := by
  have hstep : 0 < 2 ^ topExponent := Nat.two_pow_pos _
  have hmagnitude := magnitude_le h
  rw [overflow]
  generalize 2 ^ topExponent = step at *
  omega

/-- What is rounded is finite unless it is infinite. -/
theorem isFinite_of_not_isInfinite (hden : 0 < den) {negative : Bool}
    (h : (nearest negative num den).isInfinite = false) :
    (nearest negative num den).isFinite = true := by
  obtain ⟨e, m, -, hnearest⟩ := exists_rounding hden num negative
  by_cases hfits : e * 0x10000000000000 + m < 0x7ff0000000000000
  · rw [hnearest, if_pos hfits, isFinite_iff, unsignedWord_ofSignAndWord (by omega)]
    exact hfits
  · rw [hnearest, if_neg hfits] at h
    cases negative <;> exact absurd h (by decide)

theorem isFinite_neg (h : x.isFinite = true) : x.neg.isFinite = true := by
  rw [isFinite_iff] at h ⊢
  rwa [neg, unsignedWord_ofSignAndWord (by omega)]

/-! ## Products and quotients -/

theorem mul_eq_nearest (hx : x.isFinite = true) (hy : y.isFinite = true) :
    x.mul y = nearest (x.isNegative != y.isNegative) (x.magnitude * y.magnitude) unitsPerOne := by
  simp only [mul, isNaN_eq_false hx, isNaN_eq_false hy, isInfinite_eq_false hx,
    isInfinite_eq_false hy, Bool.or_self, Bool.false_eq_true, if_false]

theorem unitsPerOne_pos : 0 < unitsPerOne := by decide +kernel

theorem isFinite_mul (hx : x.isFinite = true) (hy : y.isFinite = true)
    (h : 2 * (x.magnitude * y.magnitude) < overflow * unitsPerOne) :
    (x.mul y).isFinite = true := by
  rw [mul_eq_nearest hx hy]
  obtain ⟨-, -, -, hfinite, -⟩ := nearest_of_lt unitsPerOne_pos h (x.isNegative != y.isNegative)
  exact hfinite

/-- A quotient is finite if the divisor is at least one. -/
theorem isFinite_div (hx : x.isFinite = true) (hy : y.isFinite = true)
    (h : unitsPerOne ≤ y.magnitude) : (x.div y).isFinite = true := by
  have hpos : 0 < y.magnitude := Nat.lt_of_lt_of_le unitsPerOne_pos h
  have hdiv : x.div y =
      nearest (x.isNegative != y.isNegative) (x.magnitude * unitsPerOne) y.magnitude := by
    simp only [div, isNaN_eq_false hx, isNaN_eq_false hy, isInfinite_eq_false hx,
      isInfinite_eq_false hy, Bool.or_self, Bool.false_eq_true, if_false, Nat.ne_of_gt hpos]
  have hbound : 2 * (x.magnitude * unitsPerOne) < overflow * y.magnitude :=
    calc 2 * (x.magnitude * unitsPerOne) = 2 * x.magnitude * unitsPerOne := by rw [Nat.mul_assoc]
      _ ≤ 2 * x.magnitude * y.magnitude := Nat.mul_le_mul_left _ h
      _ < overflow * y.magnitude := Nat.mul_lt_mul_of_pos_right (two_mul_magnitude_lt hx) hpos
  rw [hdiv]
  obtain ⟨-, -, -, hfinite, -⟩ := nearest_of_lt hpos hbound (x.isNegative != y.isNegative)
  exact hfinite

/-! ## Whole numbers -/

/-- The largest power of ten that is a number. -/
def largestPower : Nat := Nat.pow 10 308

theorem two_mul_largestPower_lt : 2 * (largestPower * unitsPerOne) < overflow := by decide +kernel

theorem two_pow_le_unitsPerOne : 2 ^ 52 ≤ unitsPerOne := by decide +kernel

variable {n : Nat}

theorem two_mul_units_lt (h : n ≤ largestPower) : 2 * (n * unitsPerOne) < overflow * 1 := by
  rw [Nat.mul_one]
  exact Nat.lt_of_le_of_lt (Nat.mul_le_mul_left 2 (Nat.mul_le_mul_right unitsPerOne h))
    two_mul_largestPower_lt

/-- A whole number that is not out of range. -/
theorem isFinite_nearest_units (h : n ≤ largestPower) (negative : Bool) :
    (nearest negative (n * unitsPerOne) 1).isFinite = true := by
  obtain ⟨-, -, -, hfinite, -⟩ := nearest_of_lt Nat.one_pos (two_mul_units_lt h) negative
  exact hfinite

/-- How far off such a number is. -/
theorem magnitude_units_bounds (hpos : 0 < n) (h : n ≤ largestPower) (negative : Bool) :
    (2 ^ 53 - 1) * (n * unitsPerOne) ≤ 2 ^ 53 * (nearest negative (n * unitsPerOne) 1).magnitude ∧
      2 ^ 53 * (nearest negative (n * unitsPerOne) 1).magnitude ≤
        (2 ^ 53 + 1) * (n * unitsPerOne) := by
  have hlarge : 2 ^ 52 * 1 ≤ n * unitsPerOne := by
    rw [Nat.mul_one]
    exact Nat.le_trans two_pow_le_unitsPerOne (Nat.le_mul_of_pos_left unitsPerOne hpos)
  have hbounds := magnitude_nearest_bounds Nat.one_pos (two_mul_units_lt h) hlarge negative
  rwa [Nat.mul_one] at hbounds

end OpticalBench.Binary64
