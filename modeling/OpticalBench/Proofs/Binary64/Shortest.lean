import Mathlib.Tactic.FieldSimp
import OpticalBench.Proofs.Numeral

/-!
# How large the shortest digits are

The digits of a number are looked for on grids, and what is found lies in the interval of the numbers
that round to it. So the decimal that is written is not above the upper end of this interval.

- `gridHit_le`: a hit on a grid is not above the interval.
- `Decimal.value_trimZeros`: dropping zeros changes nothing.
- `value_shortest_le`: nor is the shortest decimal.
-/

namespace OpticalBench

/-! ## Decimals -/

theorem Decimal.value_trimZerosWithin (fuel : Nat) (d : Decimal) :
    (trimZerosWithin fuel d).value = d.value := by
  induction fuel generalizing d with
  | zero => rfl
  | succ fuel ih =>
    rw [trimZerosWithin]
    by_cases hzero : d.coefficient ≠ 0 ∧ d.coefficient % 10 = 0
    · have hcoefficient : d.coefficient / 10 * 10 = d.coefficient := by omega
      have hcast : ((d.coefficient / 10 : Nat) : ℚ) * 10 = d.coefficient := by
        exact_mod_cast hcoefficient
      rw [if_pos hzero, ih, value, value, zpow_add_one₀ (by norm_num), ← hcast]
      ring
    · rw [if_neg hzero]

/-- Dropping zeros changes nothing. -/
theorem Decimal.value_trimZeros (d : Decimal) : d.trimZeros.value = d.value :=
  value_trimZerosWithin _ d

theorem cast_powTen (e : Nat) : ((Nat.pow 10 e : Nat) : ℚ) = 10 ^ e := Nat.cast_pow 10 e

theorem scaleByTen_spec (num den : Nat) (e : Int) :
    ((scaleByTen num den e).1 : ℚ) * den = num * 10 ^ e * (scaleByTen num den e).2 := by
  cases e with
  | ofNat e =>
    show ((num * Nat.pow 10 e : Nat) : ℚ) * den = num * 10 ^ (e : Int) * den
    rw [Nat.cast_mul, cast_powTen, zpow_natCast]
  | negSucc e =>
    show (num : ℚ) * den = num * 10 ^ Int.negSucc e * (den * Nat.pow 10 (e + 1) : Nat)
    rw [Nat.cast_mul, cast_powTen, zpow_negSucc]
    field_simp

theorem scaleByTen_fst_pos {num : Nat} (h : 0 < num) (den : Nat) (e : Int) :
    0 < (scaleByTen num den e).1 := by
  cases e with
  | ofNat e => exact Nat.mul_pos h (Nat.pow_pos (by decide))
  | negSucc e => exact h

namespace Binary64

variable {interval : RoundingInterval} {tie : Tie} {grid : Int} {c : Nat}

/-- What lies in the interval is not above it, whether or not the ends belong to it. -/
theorem le_of_inside {low high k : Nat} {closed : Bool}
    (h : (if closed = true then decide (low ≤ k) && decide (k ≤ high)
      else decide (low < k) && decide (k < high)) = true) : k ≤ high := by
  cases closed with
  | true => exact of_decide_eq_true (Bool.and_eq_true_iff.1 h).2
  | false => exact Nat.le_of_lt (of_decide_eq_true (Bool.and_eq_true_iff.1 h).2)

/-- A hit on a grid lies in the interval. -/
theorem gridHit_mul_le (h : gridHit interval tie grid = some c) :
    c * (scaleByTen 1 (4 * unitsPerOne) (-grid)).2 ≤
      interval.high * (scaleByTen 1 (4 * unitsPerOne) (-grid)).1 := by
  unfold gridHit at h
  generalize scaleByTen 1 (4 * unitsPerOne) (-grid) = scale at h ⊢
  obtain ⟨num, den⟩ := scale
  dsimp only at h ⊢
  generalize interval.value * num / den = below at h
  split at h
  case h_1 hbelow habove =>
    rcases ite_eq_iff.1 (Option.some.inj h) with ⟨-, rfl⟩ | ⟨-, rfl⟩
    · exact le_of_inside habove
    · exact le_of_inside hbelow
  case h_2 hbelow _ => exact Option.some.inj h ▸ le_of_inside hbelow
  case h_3 _ habove => exact Option.some.inj h ▸ le_of_inside habove
  case h_4 => exact nomatch h

/-- A hit on a grid is not above the interval. -/
theorem value_le_of_gridHit (h : gridHit interval tie grid = some c) :
    Decimal.value ⟨c, grid⟩ * (4 * unitsPerOne : Nat) ≤ interval.high := by
  have hmul := gridHit_mul_le h
  have hspec := scaleByTen_spec 1 (4 * unitsPerOne) (-grid)
  have hpos := scaleByTen_fst_pos Nat.one_pos (4 * unitsPerOne) (-grid)
  generalize scaleByTen 1 (4 * unitsPerOne) (-grid) = scale at hmul hspec hpos
  generalize 4 * unitsPerOne = units at hspec ⊢
  have hmul : (c : ℚ) * scale.2 ≤ interval.high * scale.1 := by exact_mod_cast hmul
  have hpos : (0 : ℚ) < scale.1 := by exact_mod_cast hpos
  have hpower : (10 : ℚ) ^ grid * 10 ^ (-grid) = 1 := by
    rw [← zpow_add₀ (by norm_num), add_neg_cancel, zpow_zero]
  refine le_of_mul_le_mul_right ?_ hpos
  calc Decimal.value ⟨c, grid⟩ * units * scale.1 = c * 10 ^ grid * (scale.1 * units) := by
        rw [Decimal.value]
        ring
    _ = c * scale.2 * (10 ^ grid * 10 ^ (-grid)) := by
        rw [hspec, Nat.cast_one]
        ring
    _ = c * scale.2 := by rw [hpower, mul_one]
    _ ≤ interval.high * scale.1 := hmul

theorem value_firstGridHit_le (interval : RoundingInterval) (tie : Tie) (fuel : Nat) (grid : Int) :
    (firstGridHit interval tie fuel grid).value * (4 * unitsPerOne : Nat) ≤ interval.high := by
  induction fuel generalizing grid with
  | zero =>
    rw [firstGridHit, Decimal.value, Nat.cast_zero, zero_mul, zero_mul]
    exact Nat.cast_nonneg _
  | succ fuel ih =>
    rw [firstGridHit]
    cases hhit : gridHit interval tie grid with
    | none => exact ih (grid - 1)
    | some c => exact value_le_of_gridHit hhit

/-- The shortest decimal is not above the numbers that round to the number. -/
theorem value_shortest_le (tie : Tie) (x : Binary64) :
    (x.shortest tie).value * (4 * unitsPerOne : Nat) ≤ x.roundingInterval.high := by
  by_cases hzero : x.magnitude = 0
  · rw [shortest, if_pos hzero, Decimal.value, Nat.cast_zero, zero_mul, zero_mul]
    exact Nat.cast_nonneg _
  · rw [shortest, if_neg hzero, Decimal.value_trimZeros]
    exact value_firstGridHit_le _ _ _ _

theorem high_roundingInterval (x : Binary64) :
    x.roundingInterval.high = (4 * x.significand + 2) * 2 ^ x.unitExponent := by
  have hhigh : x.roundingInterval.high =
      4 * (x.significand * 2 ^ x.unitExponent) + 2 * 2 ^ x.unitExponent := rfl
  rw [hhigh, ← Nat.mul_assoc, ← Nat.add_mul]

end Binary64

end OpticalBench
