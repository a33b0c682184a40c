import OpticalBench.Proofs.Binary64.Range

/-!
# Whole numbers

A whole number is exact if it is a significand of at most 53 bits times a power of two. The whole part
of a number is such a number, so taking the whole part and going back changes nothing. Any other whole
number is rounded, and what it is rounded to is whole again.

- `Rounding.exact`: what fits significand and exponent is not changed by rounding.
- `exists_significand_wholePart`: the whole part of a number fits them.
- `wholePart_ofNat_eq_iff`: a whole number is kept if it fits them, and only then.
- `wholePart_ofNat_wholePart`: the number that a whole part makes has this whole part.
- `wholePart_ofNat_bounds`: a whole number is off by at most one in `2 ^ 53`.
- `numericRank_ofNat_nonneg`: it is not negative.
-/

namespace OpticalBench.Binary64

variable {n num e m s k : Nat} {x : Binary64}

/-- What is a whole count of steps is rounded to itself. -/
theorem Rounding.eq_of_dvd (h : Rounding num 1 e m) (hdvd : 2 ^ e ∣ num) : m * 2 ^ e = num := by
  obtain ⟨-, hupper, hlower, -⟩ := h
  rw [Nat.one_mul] at hupper hlower
  obtain ⟨t, ht⟩ := hdvd
  rw [Nat.mul_comm] at ht
  have hstep : 0 < 2 ^ e := Nat.two_pow_pos e
  have hmt : m = t := by
    rcases Nat.lt_trichotomy m t with hlt | heq | hgt
    · have hproduct : (m + 1) * 2 ^ e ≤ t * 2 ^ e := Nat.mul_le_mul_right _ hlt
      rw [Nat.succ_mul] at hproduct
      omega
    · exact heq
    · have hproduct : (t + 1) * 2 ^ e ≤ m * 2 ^ e := Nat.mul_le_mul_right _ hgt
      rw [Nat.succ_mul] at hproduct
      omega
  rw [hmt, ht]

/-- What has at most 53 bits and trailing zeros is rounded to itself. -/
theorem Rounding.exact (h : Rounding num 1 e m) (hs : s < 2 ^ 53) (hnum : num = s * 2 ^ k) :
    m * 2 ^ e = num := by
  refine h.eq_of_dvd ?_
  -- the last bit of the significand is at most as large as what divides the number
  have hle : e ≤ k := by
    rcases h.scale with rfl | hscale
    · exact Nat.zero_le k
    · rw [Nat.one_mul] at hscale
      have hlt : 2 ^ 52 * 2 ^ e < 2 ^ 52 * 2 ^ (k + 1) :=
        calc 2 ^ 52 * 2 ^ e ≤ s * 2 ^ k := hnum ▸ hscale
          _ < 2 ^ 53 * 2 ^ k := Nat.mul_lt_mul_of_pos_right hs (Nat.two_pow_pos k)
          _ = 2 ^ 52 * 2 ^ (k + 1) := by rw [Nat.pow_succ 2 k]; omega
      have := (Nat.pow_lt_pow_iff_right (by decide)).1 (Nat.lt_of_mul_lt_mul_left hlt)
      omega
  rw [hnum]
  exact Dvd.dvd.mul_left (Nat.pow_dvd_pow 2 hle) s

theorem exists_unitsPerOne_eq : ∃ u, unitsPerOne = 2 ^ u := ⟨unitsPerOne.log2, by decide +kernel⟩

/-- The whole part of a number fits significand and exponent. -/
theorem exists_significand_wholePart (x : Binary64) :
    ∃ s k, s < 2 ^ 53 ∧ x.wholePart = s * 2 ^ k := by
  obtain ⟨u, hunits⟩ := exists_unitsPerOne_eq
  have hmagnitude : x.magnitude = x.significand * 2 ^ x.unitExponent := rfl
  rw [wholePart, hunits, hmagnitude]
  generalize x.unitExponent = e
  have hs := significand_lt x
  generalize x.significand = s at hs ⊢
  by_cases hle : u ≤ e
  · refine ⟨s, e - u, hs, ?_⟩
    rw [Nat.mul_div_assoc _ (Nat.pow_dvd_pow 2 hle), Nat.pow_div hle (by decide)]
  · refine ⟨s * 2 ^ e / 2 ^ u, 0, Nat.lt_of_le_of_lt ?_ hs, (Nat.mul_one _).symm⟩
    refine Nat.div_le_of_le_mul ?_
    rw [Nat.mul_comm (2 ^ u)]
    exact Nat.mul_le_mul_left s (Nat.pow_le_pow_right (by decide) (Nat.le_of_not_le hle))

/-- The number that such a whole number makes is exact. -/
theorem magnitude_ofNat (hn : n ≤ largestPower) (hs : s < 2 ^ 53) (h : n = s * 2 ^ k) :
    (ofNat n).magnitude = n * unitsPerOne := by
  obtain ⟨u, hunits⟩ := exists_unitsPerOne_eq
  obtain ⟨e, m, hrounding, -, hmagnitude⟩ :=
    nearest_of_lt Nat.one_pos (two_mul_units_lt hn) false
  refine hmagnitude.trans (hrounding.exact (k := k + u) hs ?_)
  rw [h, hunits, Nat.mul_assoc, ← Nat.pow_add]

/-- A whole number is kept if it has at most 53 bits and trailing zeros, and only then. -/
theorem wholePart_ofNat_eq_iff (hn : n ≤ largestPower) :
    (ofNat n).wholePart = n ↔ ∃ s k, s < 2 ^ 53 ∧ n = s * 2 ^ k := by
  constructor
  · intro h
    have hfits := exists_significand_wholePart (ofNat n)
    rwa [h] at hfits
  · rintro ⟨s, k, hs, h⟩
    rw [wholePart, magnitude_ofNat hn hs h, Nat.mul_div_cancel _ unitsPerOne_pos]

/-- Going from a whole part to a number and back changes nothing. -/
theorem wholePart_ofNat_wholePart (h : x.wholePart ≤ largestPower) :
    (ofNat x.wholePart).wholePart = x.wholePart :=
  (wholePart_ofNat_eq_iff h).2 (exists_significand_wholePart x)

/-- What a whole number is rounded to is whole. -/
theorem wholePart_ofNat_mul (hn : n ≤ largestPower) :
    (ofNat n).wholePart * unitsPerOne = (ofNat n).magnitude := by
  obtain ⟨u, hunits⟩ := exists_unitsPerOne_eq
  obtain ⟨e, m, hrounding, -, hmagnitude⟩ :=
    nearest_of_lt Nat.one_pos (two_mul_units_lt hn) false
  have hmagnitude : (ofNat n).magnitude = m * 2 ^ e := hmagnitude
  refine Nat.div_mul_cancel ?_
  rw [hmagnitude]
  by_cases hle : u ≤ e
  · rw [hunits]
    exact Dvd.dvd.mul_left (Nat.pow_dvd_pow 2 hle) m
  · -- the steps are parts of one, so nothing is rounded
    have hdvd : 2 ^ e ∣ n * unitsPerOne := by
      rw [hunits]
      exact Dvd.dvd.mul_left (Nat.pow_dvd_pow 2 (Nat.le_of_not_le hle)) n
    rw [hrounding.eq_of_dvd hdvd]
    exact Nat.dvd_mul_left _ _

/-- A whole number is off by at most one in `2 ^ 53`. -/
theorem wholePart_ofNat_bounds (hn : n ≤ largestPower) :
    (2 ^ 53 - 1) * n ≤ 2 ^ 53 * (ofNat n).wholePart ∧
      2 ^ 53 * (ofNat n).wholePart ≤ (2 ^ 53 + 1) * n := by
  rcases Nat.eq_zero_or_pos n with rfl | hpos
  · have hzero : (ofNat 0).wholePart = 0 :=
      (wholePart_ofNat_eq_iff hn).2 ⟨0, 0, by decide, rfl⟩
    rw [hzero]
    decide
  · obtain ⟨hlower, hupper⟩ := magnitude_units_bounds hpos hn false
    have hmagnitude : (nearest false (n * unitsPerOne) 1).magnitude =
        (ofNat n).wholePart * unitsPerOne := (wholePart_ofNat_mul hn).symm
    rw [hmagnitude, ← Nat.mul_assoc, ← Nat.mul_assoc] at hlower hupper
    exact ⟨Nat.le_of_mul_le_mul_right hlower unitsPerOne_pos,
      Nat.le_of_mul_le_mul_right hupper unitsPerOne_pos⟩

theorem numericRank_ofNat_nonneg (n : Nat) : 0 ≤ (ofNat n).numericRank := by
  obtain ⟨e, m, -, hnearest⟩ := exists_rounding Nat.one_pos (n * unitsPerOne) false
  have hpositive : (ofNat n).isNegative = false := by
    rw [ofNat, hnearest]
    by_cases hfits : e * 0x10000000000000 + m < 0x7ff0000000000000
    · rw [if_pos hfits, isNegative, word_ofSignAndWord (by omega)]
      exact decide_eq_false (by simp only [Bool.false_eq_true, if_false]; omega)
    · rw [if_neg hfits]
      decide
  rw [numericRank, hpositive]
  exact Int.natCast_nonneg _

theorem ofInt_natCast (n : Nat) : ofInt n = ofNat n := by
  have hsign : decide ((n : Int) < 0) = false := decide_eq_false (Int.not_lt.2 (Int.natCast_nonneg n))
  rw [ofInt, hsign, Int.natAbs_natCast, ofNat]

end OpticalBench.Binary64
