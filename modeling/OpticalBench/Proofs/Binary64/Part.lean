import OpticalBench.Proofs.Binary64.Order
import OpticalBench.Proofs.Binary64.Whole

/-!
# Parts of a number

A probability of at most one takes a part of what it is multiplied with. Rounding does not change this:
the product of such a number with a whole number is not above the whole number.

- `magnitude_le_unitsPerOne`: a number from zero to one, by its absolute value.
- `magnitude_mul_le`: its product with a number is finite and not larger.
- `wholePart_mul_ofNat_le`: the whole part of its product with a whole number.
-/

namespace OpticalBench.Binary64

variable {x y : Binary64} {n : Nat}

/-! ## From zero to one -/

theorem numericLt_eq_false_iff (hx : x.isFinite = true) (hy : y.isFinite = true) :
    x.numericLt y = false ↔ y.numericRank ≤ x.numericRank := by
  rw [numericLt, isNaN_eq_false hx, isNaN_eq_false hy]
  simp

theorem magnitude_one : one.magnitude = unitsPerOne := by decide +kernel

/-- A number from zero to one, of either sign if it is zero. -/
theorem magnitude_le_unitsPerOne (hx : x.isFinite = true) (hlow : 0 ≤ x.numericRank)
    (hhigh : one.numericLt x = false) : x.magnitude ≤ unitsPerOne := by
  rw [numericLt_eq_false_iff isFinite_one hx] at hhigh
  have hword : x.unsignedWord ≤ one.unsignedWord := by
    simp only [numericRank, isNegative_one, Bool.false_eq_true, if_false] at hlow hhigh
    split_ifs at hlow hhigh <;> omega
  rw [← magnitude_one]
  exact magnitude_le_iff.2 hword

/-! ## Products -/

/-- A product with a number that is at most one is finite, and it is not larger than the other
number. -/
theorem magnitude_mul_le (hx : x.isFinite = true) (hy : y.isFinite = true)
    (h : x.magnitude ≤ unitsPerOne) :
    (x.mul y).isFinite = true ∧ (x.mul y).magnitude ≤ y.magnitude := by
  have hproduct : x.magnitude * y.magnitude ≤ y.magnitude * unitsPerOne := by
    rw [Nat.mul_comm y.magnitude]
    exact Nat.mul_le_mul_right _ h
  have hword := nearest_unsignedWord_le unitsPerOne_pos hy hproduct (x.isNegative != y.isNegative)
  rw [mul_eq_nearest hx hy]
  exact ⟨isFinite_iff.2 (Nat.lt_of_le_of_lt hword (isFinite_iff.1 hy)), magnitude_le_iff.2 hword⟩

/-- Only finite numbers have finite products. -/
theorem isFinite_of_isFinite_mul (h : (x.mul y).isFinite = true) : x.isFinite = true := by
  have hnaN : ∀ negative, (quietNaN negative).isFinite ≠ true := by decide
  have hinfinity : ∀ negative, (infinity negative).isFinite ≠ true := by decide
  by_contra hx
  have hfield : x.exponentField = 2047 := by simpa [isFinite] using hx
  simp only [mul] at h
  split_ifs at h with hnumber hinfinite hzero
  · exact hnaN _ h
  · exact hnaN _ h
  · exact hinfinity _ h
  · simp [isNaN, isInfinite, hfield] at hnumber hinfinite
    exact absurd hnumber.1 hinfinite.1

theorem le_largestPower_of_lt (hn : n < 2 ^ 53) : n ≤ largestPower :=
  Nat.le_of_lt (Nat.lt_of_lt_of_le hn (by decide +kernel))

theorem isFinite_ofNat_of_lt (hn : n < 2 ^ 53) : (ofNat n).isFinite = true :=
  isFinite_nearest_units (le_largestPower_of_lt hn) false

theorem magnitude_ofNat_of_lt (hn : n < 2 ^ 53) : (ofNat n).magnitude = n * unitsPerOne :=
  magnitude_ofNat (k := 0) (le_largestPower_of_lt hn) hn (Nat.mul_one n).symm

/-- The product of a number that is at most one with a whole number does not reach the next whole
number, unless it is negative. -/
theorem wholePart_mul_ofNat_le (hn : n < 2 ^ 53) (hx : one.numericLt x = false)
    (hfinite : (x.mul (ofNat n)).isFinite = true) (hsign : 0 ≤ (x.mul (ofNat n)).numericRank) :
    (x.mul (ofNat n)).wholePart ≤ n := by
  have hpositive : (ofNat n).isNegative = false := isNegative_nearest Nat.one_pos _ _
  have hx' := isFinite_of_isFinite_mul hfinite
  have hy := isFinite_ofNat_of_lt hn
  cases hnegative : x.isNegative with
  | true =>
    -- a negative product is not below zero only if it is zero
    have hproduct : (x.mul (ofNat n)).isNegative = true := by
      rw [mul_eq_nearest hx' hy, isNegative_nearest unitsPerOne_pos, hnegative, hpositive]
      rfl
    have hword : (x.mul (ofNat n)).unsignedWord = 0 := by
      rw [numericRank, if_pos hproduct] at hsign
      omega
    rw [wholePart, magnitude_eq_zero hword, Nat.zero_div]
    exact Nat.zero_le n
  | false =>
    have hlow : 0 ≤ x.numericRank := by
      rw [numericRank, hnegative]
      exact Int.natCast_nonneg _
    have hmagnitude := (magnitude_mul_le hx' hy (magnitude_le_unitsPerOne hx' hlow hx)).2
    rw [magnitude_ofNat_of_lt hn] at hmagnitude
    exact Nat.div_le_of_le_mul (Nat.mul_comm n unitsPerOne ▸ hmagnitude)

end OpticalBench.Binary64
