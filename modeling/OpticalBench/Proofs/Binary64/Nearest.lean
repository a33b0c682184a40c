import Mathlib.Tactic.Linarith
import Mathlib.Tactic.Ring
import OpticalBench.Binary64.Basic

/-!
# Rounding to the nearest number

A quotient of counts is rounded to a significand of at most 53 bits and an exponent. How far the result
can be from the quotient, and when it is finite, is a statement about these two.

- `Rounding`: what significand and exponent have to do with the quotient.
- `exists_rounding`: `nearest` rounds in this way.
- `magnitude_ofSignAndWord`: the number with this significand and this exponent.
- `nearest_of_lt`: below the range of infinity the result is finite.
- `magnitude_nearest_bounds`: the relative error.
-/

namespace OpticalBench.Binary64

variable {num den : Nat} {negative : Bool}

/-! ## Whole numbers -/

/-- What is rounded is at most half too large. -/
theorem roundHalfEven_le (num den : Nat) : 2 * (roundHalfEven num den * den) ≤ 2 * num + den := by
  have hdivision := Nat.div_add_mod' num den
  have hsucc : (num / den + 1) * den = num / den * den + den := Nat.succ_mul _ _
  simp only [roundHalfEven]
  split_ifs <;> omega

/-- What is rounded is at most half too small. -/
theorem le_roundHalfEven (num : Nat) (hden : 0 < den) :
    2 * num ≤ 2 * (roundHalfEven num den * den) + den := by
  have hdivision := Nat.div_add_mod' num den
  have hsucc : (num / den + 1) * den = num / den * den + den := Nat.succ_mul _ _
  have hmod := Nat.mod_lt num hden
  simp only [roundHalfEven]
  split_ifs <;> omega

/-! ## Significand and exponent -/

/-- A quotient and what it is rounded to: `m` times `2 ^ e`. The significand has 53 bits, unless the
exponent is the least. -/
structure Rounding (num den e m : Nat) : Prop where
  shape : m ≤ 2 ^ 53 ∧ (e = 0 ∨ 2 ^ 52 ≤ m)
  upper : 2 * (m * (den * 2 ^ e)) ≤ 2 * num + den * 2 ^ e
  lower : 2 * num ≤ 2 * (m * (den * 2 ^ e)) + den * 2 ^ e
  scale : e = 0 ∨ 2 ^ 52 * (den * 2 ^ e) ≤ num

theorem exists_rounding (hden : 0 < den) (num : Nat) (negative : Bool) :
    ∃ e m, Rounding num den e m ∧ nearest negative num den =
      if e * 0x10000000000000 + m < 0x7ff0000000000000
      then ofSignAndWord negative (e * 0x10000000000000 + m) else infinity negative := by
  let e := if num / den < 0x20000000000000 then 0 else (num / den).log2 - 52
  refine ⟨e, roundHalfEven num (den * 2 ^ e), ?_, rfl⟩
  have hstep : 0 < den * 2 ^ e := Nat.mul_pos hden (Nat.two_pow_pos e)
  have hupper := roundHalfEven_le num (den * 2 ^ e)
  have hlower := le_roundHalfEven num hstep
  -- the exponent is such that the quotient has at most 53 bits, and no fewer if it is not the least
  have hbits : num < 2 ^ 53 * (den * 2 ^ e) ∧ (e = 0 ∨ 2 ^ 52 * (den * 2 ^ e) ≤ num) := by
    by_cases hsmall : num / den < 0x20000000000000
    · have he : e = 0 := if_pos hsmall
      rw [he, Nat.pow_zero, Nat.mul_one]
      exact ⟨(Nat.div_lt_iff_lt_mul hden).1 hsmall, .inl rfl⟩
    · have he : e = (num / den).log2 - 52 := if_neg hsmall
      have hne : num / den ≠ 0 := by omega
      have hlog : 53 ≤ (num / den).log2 := (Nat.le_log2 hne).2 (by omega)
      have hlow : 2 ^ (e + 52) ≤ num / den := by
        rw [he, Nat.sub_add_cancel (by omega)]
        exact Nat.log2_self_le hne
      have hhigh : num / den < 2 ^ (e + 53) := by
        have hsucc : e + 53 = (num / den).log2 + 1 := by omega
        rw [hsucc]
        exact Nat.lt_log2_self
      rw [Nat.pow_add] at hlow hhigh
      refine ⟨?_, .inr ?_⟩
      · have := (Nat.div_lt_iff_lt_mul hden).1 hhigh
        linarith
      · have := (Nat.le_div_iff_mul_le hden).1 hlow
        linarith
  generalize hm : roundHalfEven num (den * 2 ^ e) = m at hupper hlower ⊢
  refine ⟨⟨?_, hbits.2.imp_right fun hlow => ?_⟩, hupper, hlower, hbits.2⟩
  · by_contra hlarge
    have hfits := hbits.1
    have hproduct : (2 ^ 53 + 1) * (den * 2 ^ e) ≤ m * (den * 2 ^ e) :=
      Nat.mul_le_mul_right _ (Nat.lt_of_not_le hlarge)
    omega
  · by_contra hsmall
    have hproduct : m * (den * 2 ^ e) ≤ (2 ^ 52 - 1) * (den * 2 ^ e) :=
      Nat.mul_le_mul_right _ (by omega)
    omega

/-! ## The number with a significand and an exponent -/

variable {lower : Nat}

theorem word_ofSignAndWord (h : lower < 0x8000000000000000) (negative : Bool) :
    (ofSignAndWord negative lower).word = lower + if negative then 0x8000000000000000 else 0 := by
  refine (UInt64.toNat_ofNat' ).trans (Nat.mod_eq_of_lt ?_)
  cases negative
  · show lower + 0 < 2 ^ 64
    omega
  · show lower + 0x8000000000000000 < 2 ^ 64
    omega

theorem unsignedWord_ofSignAndWord (h : lower < 0x8000000000000000) (negative : Bool) :
    (ofSignAndWord negative lower).unsignedWord = lower := by
  rw [unsignedWord, word_ofSignAndWord h]
  cases negative
  · exact Nat.mod_eq_of_lt h
  · rw [if_pos rfl, Nat.add_mod_right, Nat.mod_eq_of_lt h]

theorem fraction_ofSignAndWord (h : lower < 0x8000000000000000) (negative : Bool) :
    (ofSignAndWord negative lower).fraction = lower % 0x10000000000000 := by
  rw [fraction, word_ofSignAndWord h]
  cases negative
  · rfl
  · rw [if_pos rfl]
    omega

theorem isFinite_iff {x : Binary64} : x.isFinite = true ↔ x.unsignedWord < 0x7ff0000000000000 := by
  have hword : x.unsignedWord < 0x8000000000000000 := Nat.mod_lt _ (by decide)
  rw [isFinite, bne_iff_ne, exponentField]
  omega

/-- The number with this significand and this exponent. -/
theorem magnitude_ofSignAndWord {e m : Nat} (hshape : m ≤ 2 ^ 53 ∧ (e = 0 ∨ 2 ^ 52 ≤ m))
    (h : e * 0x10000000000000 + m < 0x8000000000000000) (negative : Bool) :
    (ofSignAndWord negative (e * 0x10000000000000 + m)).magnitude = m * 2 ^ e := by
  obtain ⟨hupper, hlower⟩ := hshape
  have hfield : (ofSignAndWord negative (e * 0x10000000000000 + m)).exponentField =
      e + m / 0x10000000000000 := by
    rw [exponentField, unsignedWord_ofSignAndWord h]
    omega
  have hfraction : (ofSignAndWord negative (e * 0x10000000000000 + m)).fraction =
      m % 0x10000000000000 := by
    rw [fraction_ofSignAndWord h]
    omega
  rw [magnitude, significand, unitExponent, hfield, hfraction]
  show _ * 2 ^ _ = _
  -- the significand has a leading bit that is not stored, unless the exponent is the least, and one
  -- that was rounded up to `2 ^ 53` is stored as the next power of two
  by_cases hleading : m < 0x10000000000000
  · obtain rfl : e = 0 := hlower.resolve_right (by omega)
    rw [Nat.div_eq_of_lt hleading, Nat.mod_eq_of_lt hleading]
    rfl
  · by_cases hcarry : m = 2 ^ 53
    · have hdiv : m / 0x10000000000000 = 2 := by omega
      have hmod : m % 0x10000000000000 = 0 := by omega
      have hexponent : e + 2 - 1 = e + 1 := rfl
      rw [hdiv, hmod, if_neg (by omega), hexponent, hcarry, Nat.pow_succ]
      omega
    · have hdiv : m / 0x10000000000000 = 1 := by omega
      have hmod : m % 0x10000000000000 + 0x10000000000000 = m := by omega
      rw [hdiv, hmod, if_neg (by omega), Nat.add_sub_cancel]

/-! ## How far off the nearest number is -/

/-- The exponent of the largest finite numbers. -/
def topExponent : Nat := 2045

/-- How many units the largest finite number and half a step make, doubled. -/
def overflow : Nat := (2 ^ 54 - 1) * 2 ^ topExponent

/-- Below it, significand and exponent stay below those of infinity. -/
theorem Rounding.fits {e m : Nat} (hrounding : Rounding num den e m)
    (h : 2 * num < overflow * den) : e * 0x10000000000000 + m < 0x7ff0000000000000 := by
  obtain ⟨⟨hm, -⟩, hupper, -, hscale⟩ := hrounding
  have hbound : 2 * num < (2 ^ 54 - 1) * (den * 2 ^ topExponent) := by
    rwa [overflow, Nat.mul_assoc, Nat.mul_comm (2 ^ topExponent)] at h
  have htop : topExponent = 2045 := rfl
  rcases Nat.lt_trichotomy e topExponent with he | rfl | he
  · omega
  · -- at the greatest exponent the significand is not rounded up to the next power of two
    have hfull : m < 2 ^ 53 := by
      by_contra hlarge
      have hproduct : 2 ^ 53 * (den * 2 ^ topExponent) ≤ m * (den * 2 ^ topExponent) :=
        Nat.mul_le_mul_right _ (Nat.le_of_not_lt hlarge)
      generalize den * 2 ^ topExponent = step at *
      omega
    omega
  · have hpower : den * 2 ^ topExponent * 2 ≤ den * 2 ^ e := by
      rw [Nat.mul_assoc, ← Nat.pow_succ]
      exact Nat.mul_le_mul_left _ (Nat.pow_le_pow_right (by decide) he)
    generalize den * 2 ^ topExponent = step at *
    generalize den * 2 ^ e = steps at *
    omega

/-- Below the range of infinity the nearest number is finite, and it is what was rounded. -/
theorem nearest_of_lt (hden : 0 < den) (h : 2 * num < overflow * den) (negative : Bool) :
    ∃ e m, Rounding num den e m ∧ (nearest negative num den).isFinite = true ∧
      (nearest negative num den).magnitude = m * 2 ^ e := by
  obtain ⟨e, m, hrounding, hnearest⟩ := exists_rounding hden num negative
  have hfits := hrounding.fits h
  rw [if_pos hfits] at hnearest
  refine ⟨e, m, hrounding, ?_, ?_⟩
  · rw [hnearest, isFinite_iff, unsignedWord_ofSignAndWord (by omega)]
    exact hfits
  · rw [hnearest, magnitude_ofSignAndWord hrounding.shape (by omega)]

/-- The nearest number is off by at most one in `2 ^ 53`, unless it is too small to have all bits. -/
theorem magnitude_nearest_bounds (hden : 0 < den) (hfinite : 2 * num < overflow * den)
    (hlarge : 2 ^ 52 * den ≤ num) (negative : Bool) :
    (2 ^ 53 - 1) * num ≤ 2 ^ 53 * ((nearest negative num den).magnitude * den) ∧
      2 ^ 53 * ((nearest negative num den).magnitude * den) ≤ (2 ^ 53 + 1) * num := by
  obtain ⟨e, m, ⟨-, hupper, hlower, hscale⟩, -, hmagnitude⟩ := nearest_of_lt hden hfinite negative
  have hstep : 2 ^ 52 * (den * 2 ^ e) ≤ num := by
    rcases hscale with rfl | hscale
    · rwa [Nat.pow_zero, Nat.mul_one]
    · exact hscale
  have hproduct : (nearest negative num den).magnitude * den = m * (den * 2 ^ e) := by
    rw [hmagnitude, Nat.mul_assoc, Nat.mul_comm (2 ^ e)]
  rw [hproduct]
  omega

end OpticalBench.Binary64
