import OpticalBench.Proofs.Binary64.Range

/-!
# The total order of numbers

`rank` reads the place of a number in the total order off its bits. Here this order is described by
what the numbers are: negative NaN, negative infinity, negative numbers and `-0.0`, `0.0` and positive
numbers, infinity, positive NaN. Finite numbers are ordered by their values, NaN by their payloads.

- `Tier`, `tier`: the six kinds of numbers in the total order.
- `Before`: strictly before another number, by tiers, values and payloads.
- `before_iff`: this is the order of ranks, in which no two numbers tie (`eq_of_rank_eq`).
- `magnitude_lt_iff`, `magnitude_le_iff`: absolute values are compared bit by bit.
- `unsignedWord_le_nearest`, `nearest_unsignedWord_le`: rounding does not pass a number.
- `rank_le_add_one`: no number that is at most `x` in value is after `x + 1`, rounded.
-/

namespace OpticalBench.Binary64

variable {x y : Binary64} {num den e e' m m' : Nat} {negative : Bool}

/-! ## Values and bits -/

/-- The lower bits are exponent and significand, added up. -/
theorem unsignedWord_eq (x : Binary64) :
    x.unsignedWord = x.unitExponent * 0x10000000000000 + x.significand := by
  rw [unitExponent, significand, fraction_eq, exponentField]
  split_ifs <;> omega

/-- The significand has 53 bits, unless the exponent is the least. -/
theorem significand_shape (x : Binary64) :
    x.significand ≤ 2 ^ 53 ∧ (x.unitExponent = 0 ∨ 2 ^ 52 ≤ x.significand) := by
  refine ⟨Nat.le_of_lt x.significand_lt, ?_⟩
  rw [unitExponent, significand]
  split_ifs <;> omega

/-- What is at most as large in value is at most as large in its bits. -/
theorem lower_le_of_value_le (hm : m ≤ 2 ^ 53 ∧ (e = 0 ∨ 2 ^ 52 ≤ m))
    (hm' : m' ≤ 2 ^ 53 ∧ (e' = 0 ∨ 2 ^ 52 ≤ m')) (h : m * 2 ^ e ≤ m' * 2 ^ e') :
    e * 0x10000000000000 + m ≤ e' * 0x10000000000000 + m' := by
  rcases Nat.lt_trichotomy e e' with hlt | rfl | hgt
  · omega
  · have := Nat.le_of_mul_le_mul_right h (Nat.two_pow_pos e)
    omega
  · -- a significand with 53 bits has as much weight only one exponent below, and only if rounded up
    obtain ⟨d, rfl⟩ := Nat.exists_eq_add_of_lt hgt
    have hpower : 2 ^ (e' + d + 1) = 2 ^ (d + 1) * 2 ^ e' := by rw [← Nat.pow_add]; congr 1; omega
    rw [hpower, ← Nat.mul_assoc] at h
    have hvalue := Nat.le_of_mul_le_mul_right h (Nat.two_pow_pos e')
    cases d with
    | zero => omega
    | succ d =>
      have hfour : m * 2 ^ 2 ≤ m * 2 ^ (d + 1 + 1) :=
        Nat.mul_le_mul_left m (Nat.pow_le_pow_right (by decide) (by omega))
      omega

theorem unsignedWord_le_of_magnitude_le (h : x.magnitude ≤ y.magnitude) :
    x.unsignedWord ≤ y.unsignedWord := by
  rw [unsignedWord_eq, unsignedWord_eq]
  exact lower_le_of_value_le x.significand_shape y.significand_shape h

/-- Absolute values are compared bit by bit. -/
theorem magnitude_lt_iff : x.magnitude < y.magnitude ↔ x.unsignedWord < y.unsignedWord := by
  constructor
  · intro h
    refine Nat.lt_of_le_of_ne (unsignedWord_le_of_magnitude_le (Nat.le_of_lt h)) fun heq => ?_
    have hsame : x.magnitude = y.magnitude := by
      rw [magnitude, magnitude, significand, significand, unitExponent, unitExponent, fraction_eq,
        fraction_eq, exponentField, exponentField, heq]
    exact absurd hsame (Nat.ne_of_lt h)
  · intro h
    by_contra hle
    exact absurd (unsignedWord_le_of_magnitude_le (Nat.le_of_not_lt hle)) (Nat.not_le.2 h)

theorem magnitude_le_iff : x.magnitude ≤ y.magnitude ↔ x.unsignedWord ≤ y.unsignedWord := by
  rw [← Nat.not_lt, ← Nat.not_lt, magnitude_lt_iff]

theorem magnitude_eq_zero (h : x.unsignedWord = 0) : x.magnitude = 0 := by
  have hsignificand : x.significand = 0 := by
    have := x.unsignedWord_eq
    omega
  rw [magnitude, hsignificand, Nat.zero_mul]

/-! ## Tiers -/

/-- The kinds of numbers, from the first to the last in the total order. The negative ones have
`-0.0` among them, the positive ones `0.0`. -/
inductive Tier
  | negativeNaN
  | negativeInfinity
  | negative
  | positive
  | infinity
  | positiveNaN
  deriving DecidableEq, Repr

/-- The place of a kind. -/
def Tier.place : Tier → Nat
  | .negativeNaN => 0
  | .negativeInfinity => 1
  | .negative => 2
  | .positive => 3
  | .infinity => 4
  | .positiveNaN => 5

/-- The kind of a number. -/
def tier (x : Binary64) : Tier :=
  if x.isNaN then if x.isNegative then .negativeNaN else .positiveNaN
  else if x.isInfinite then if x.isNegative then .negativeInfinity else .infinity
  else if x.isNegative then .negative else .positive

/-- Strictly before another number: of an earlier kind, or of the same and smaller in value; of two NaN
with the same sign, the positive one with the smaller payload, or the negative one with the larger. -/
def Before (x y : Binary64) : Prop :=
  x.tier.place < y.tier.place ∨ x.tier = y.tier ∧
    match x.tier with
    | .negativeNaN => y.fraction < x.fraction
    | .negativeInfinity | .infinity => False
    | .negative | .positive => x.scaled < y.scaled
    | .positiveNaN => x.fraction < y.fraction

/-- What the kind of a number says about its rank. -/
def Tier.Holds (x : Binary64) : Tier → Prop
  | .negativeNaN => x.rank = -0x7ff0000000000001 - (x.fraction : Int) ∧ 0 < x.fraction
  | .negativeInfinity => x.rank = -0x7ff0000000000001
  | .negative => x.rank = -(x.unsignedWord : Int) - 1 ∧ x.unsignedWord < 0x7ff0000000000000 ∧
    x.scaled = -(x.magnitude : Int)
  | .positive => x.rank = x.unsignedWord ∧ x.unsignedWord < 0x7ff0000000000000 ∧
    x.scaled = x.magnitude
  | .infinity => x.rank = 0x7ff0000000000000
  | .positiveNaN => x.rank = 0x7ff0000000000000 + (x.fraction : Int) ∧ 0 < x.fraction

theorem holds_tier (x : Binary64) : x.tier.Holds x := by
  have hword : x.unsignedWord < 0x8000000000000000 := Nat.mod_lt _ (by decide)
  have hfraction := x.fraction_eq
  cases hsign : x.isNegative <;>
    simp only [tier, hsign, isNaN, isInfinite, exponentField, Bool.and_eq_true, beq_iff_eq,
      bne_iff_ne, if_true, Bool.false_eq_true, if_false] <;>
    split_ifs <;>
    simp only [Tier.Holds, rank, scaled, hsign, if_true, Bool.false_eq_true, if_false, and_true,
      true_and] <;>
    omega

/-- The total order is that of kinds, values and payloads. -/
theorem before_iff : x.Before y ↔ x.rank < y.rank := by
  have hx := x.holds_tier
  have hy := y.holds_tier
  have hlt : x.magnitude < y.magnitude ↔ x.unsignedWord < y.unsignedWord := magnitude_lt_iff
  have hgt : y.magnitude < x.magnitude ↔ y.unsignedWord < x.unsignedWord := magnitude_lt_iff
  rw [Before]
  cases hxt : x.tier <;> cases hyt : y.tier <;>
    simp only [hxt, hyt, Tier.Holds, Tier.place, reduceCtorEq, false_and, or_false, true_and] at hx hy ⊢ <;>
    omega

/-- Numbers at the same place of the total order have the same bits. -/
theorem eq_of_rank_eq (h : x.rank = y.rank) : x = y := by
  have hx : x.word < 2 ^ 64 := x.bits.toNat_lt
  have hy : y.word < 2 ^ 64 := y.bits.toNat_lt
  have hword : x.word = y.word := by
    simp only [rank, isNegative, unsignedWord, decide_eq_true_eq] at h
    split_ifs at h <;> omega
  rw [x.eq_ofNat_word, y.eq_ofNat_word, hword]

/-! ## Rounding does not pass a number -/

/-- A number is a whole count of the steps of any exponent up to its own. -/
theorem exists_magnitude_eq (h : e ≤ x.unitExponent) : ∃ t, x.magnitude = t * 2 ^ e := by
  refine ⟨x.significand * 2 ^ (x.unitExponent - e), ?_⟩
  rw [Nat.mul_assoc, ← Nat.pow_add, Nat.sub_add_cancel h]
  rfl

/-- It is smaller than the significands of a larger exponent. -/
theorem magnitude_lt_of_lt (h : x.unitExponent < e) : x.magnitude < 2 ^ 52 * 2 ^ e :=
  calc x.magnitude < 2 ^ 53 * 2 ^ x.unitExponent :=
        Nat.mul_lt_mul_of_pos_right x.significand_lt (Nat.two_pow_pos _)
    _ = 2 ^ 52 * 2 ^ (x.unitExponent + 1) := by rw [Nat.pow_succ 2 x.unitExponent]; omega
    _ ≤ 2 ^ 52 * 2 ^ e := Nat.mul_le_mul_left _ (Nat.pow_le_pow_right (by decide) h)

theorem Rounding.magnitude_le (h : Rounding num 1 e m) (hx : x.magnitude ≤ num) :
    x.magnitude ≤ m * 2 ^ e := by
  obtain ⟨⟨-, hshape⟩, -, hlower, -⟩ := h
  rw [Nat.one_mul] at hlower
  by_cases hle : e ≤ x.unitExponent
  · obtain ⟨t, ht⟩ := exists_magnitude_eq hle
    rw [ht] at hx ⊢
    refine Nat.mul_le_mul_right _ (Nat.le_of_not_lt fun hlt => ?_)
    have hproduct : (m + 1) * 2 ^ e ≤ t * 2 ^ e := Nat.mul_le_mul_right _ hlt
    have hstep : 0 < 2 ^ e := Nat.two_pow_pos e
    rw [Nat.succ_mul] at hproduct
    omega
  · have hm : 2 ^ 52 ≤ m := hshape.resolve_left (by omega)
    exact Nat.le_trans (Nat.le_of_lt (magnitude_lt_of_lt (Nat.lt_of_not_le hle)))
      (Nat.mul_le_mul_right _ hm)

theorem Rounding.le_magnitude (h : Rounding num den e m) (hden : 0 < den)
    (hx : num ≤ x.magnitude * den) : m * 2 ^ e ≤ x.magnitude := by
  obtain ⟨-, hupper, -, hscale⟩ := h
  have hle : e ≤ x.unitExponent := by
    by_contra hlt
    have hlarge : 2 ^ 52 * (den * 2 ^ e) ≤ num := hscale.resolve_left (by omega)
    have hproduct : 2 ^ 52 * 2 ^ e * den ≤ x.magnitude * den :=
      calc 2 ^ 52 * 2 ^ e * den = 2 ^ 52 * (den * 2 ^ e) := by ring
        _ ≤ x.magnitude * den := Nat.le_trans hlarge hx
    have := magnitude_lt_of_lt (Nat.lt_of_not_le hlt)
    exact Nat.not_le.2 this (Nat.le_of_mul_le_mul_right hproduct hden)
  obtain ⟨t, ht⟩ := exists_magnitude_eq hle
  rw [ht, Nat.mul_assoc, Nat.mul_comm (2 ^ e)] at hx
  rw [ht]
  refine Nat.mul_le_mul_right _ (Nat.le_of_not_lt fun hlt => ?_)
  have hproduct : (t + 1) * (den * 2 ^ e) ≤ m * (den * 2 ^ e) := Nat.mul_le_mul_right _ hlt
  have hstep : 0 < den * 2 ^ e := Nat.mul_pos hden (Nat.two_pow_pos e)
  rw [Nat.succ_mul] at hproduct
  omega

/-- What is at least a number is rounded to at least that number. -/
theorem unsignedWord_le_nearest (hx : x.isFinite = true) (h : x.magnitude ≤ num)
    (negative : Bool) : x.unsignedWord ≤ (nearest negative num 1).unsignedWord := by
  obtain ⟨e, m, hrounding, hnearest⟩ := exists_rounding Nat.one_pos num negative
  rw [hnearest]
  by_cases hfits : e * 0x10000000000000 + m < 0x7ff0000000000000
  · rw [if_pos hfits, unsignedWord_ofSignAndWord (by omega), unsignedWord_eq]
    exact lower_le_of_value_le x.significand_shape hrounding.shape (hrounding.magnitude_le h)
  · rw [if_neg hfits, infinity, unsignedWord_ofSignAndWord (by decide)]
    exact Nat.le_of_lt (isFinite_iff.1 hx)

/-- What is at most a number is rounded to at most that number. -/
theorem nearest_unsignedWord_le (hden : 0 < den) (hx : x.isFinite = true)
    (h : num ≤ x.magnitude * den) (negative : Bool) :
    (nearest negative num den).unsignedWord ≤ x.unsignedWord := by
  obtain ⟨e, m, hrounding, hnearest⟩ := exists_rounding hden num negative
  have hfits : e * 0x10000000000000 + m < 0x7ff0000000000000 := by
    refine hrounding.fits (Nat.lt_of_le_of_lt (Nat.mul_le_mul_left 2 h) ?_)
    rw [← Nat.mul_assoc]
    exact Nat.mul_lt_mul_of_pos_right (two_mul_magnitude_lt hx) hden
  rw [hnearest, if_pos hfits, unsignedWord_ofSignAndWord (by omega), unsignedWord_eq]
  exact lower_le_of_value_le hrounding.shape x.significand_shape (hrounding.le_magnitude hden h)

theorem isNegative_ofSignAndWord {lower : Nat} (h : lower < 0x8000000000000000) (negative : Bool) :
    (ofSignAndWord negative lower).isNegative = negative := by
  rw [isNegative, word_ofSignAndWord h]
  cases negative
  · exact decide_eq_false (by simp only [Bool.false_eq_true, if_false]; omega)
  · exact decide_eq_true (by simp only [if_true]; omega)

theorem isNegative_nearest (hden : 0 < den) (num : Nat) (negative : Bool) :
    (nearest negative num den).isNegative = negative := by
  obtain ⟨e, m, -, hnearest⟩ := exists_rounding hden num negative
  rw [hnearest]
  by_cases hfits : e * 0x10000000000000 + m < 0x7ff0000000000000
  · rw [if_pos hfits, isNegative_ofSignAndWord (by omega)]
  · rw [if_neg hfits, infinity, isNegative_ofSignAndWord (by decide)]

/-! ## One more -/

theorem isFinite_one : one.isFinite = true := by decide +kernel

theorem scaled_one : one.scaled = (unitsPerOne : Int) := by decide +kernel

theorem isNegative_one : one.isNegative = false := by decide +kernel

theorem add_one_eq (hx : x.isFinite = true) : x.add one =
    if x.scaled + (unitsPerOne : Int) = 0 then zero false
    else nearest (decide (x.scaled + (unitsPerOne : Int) < 0))
      (x.scaled + (unitsPerOne : Int)).natAbs 1 := by
  simp only [add, isNaN_eq_false hx, isInfinite_eq_false hx, isNaN_eq_false isFinite_one,
    isInfinite_eq_false isFinite_one, isNegative_one, scaled_one, Bool.or_self, Bool.and_false,
    Bool.false_eq_true, if_false]

/-- One more than a finite number is finite. -/
theorem isFinite_add_one (hx : x.isFinite = true) : (x.add one).isFinite = true := by
  rw [add_one_eq hx]
  by_cases hzero : x.scaled + (unitsPerOne : Int) = 0
  · rw [if_pos hzero]
    decide
  · have hunits : 2 * unitsPerOne < 2 ^ topExponent := by decide +kernel
    have hmagnitude := magnitude_le hx
    have hbound : 2 * (x.scaled + (unitsPerOne : Int)).natAbs < overflow * 1 := by
      have habs : (x.scaled + (unitsPerOne : Int)).natAbs ≤ x.magnitude + unitsPerOne := by
        rw [scaled]
        split_ifs <;> omega
      rw [overflow, Nat.mul_one]
      generalize 2 ^ topExponent = step at *
      omega
    obtain ⟨-, -, -, hfinite, -⟩ := nearest_of_lt Nat.one_pos hbound
      (decide (x.scaled + (unitsPerOne : Int) < 0))
    rw [if_neg hzero]
    exact hfinite

theorem rank_nearest (num : Nat) (negative : Bool) : (nearest negative num 1).rank =
    if negative then -((nearest negative num 1).unsignedWord : Int) - 1
    else (nearest negative num 1).unsignedWord := by
  rw [rank, isNegative_nearest Nat.one_pos]

/-- It is not before that number, and not negative if that number is zero of either sign. -/
theorem rank_add_one (hx : x.isFinite = true) :
    x.rank ≤ (x.add one).rank ∧ (x.unsignedWord = 0 → 0 ≤ (x.add one).rank) := by
  have hunits := unitsPerOne_pos
  rw [add_one_eq hx, rank, scaled]
  cases hsign : x.isNegative with
  | false =>
    have hsum : ((x.magnitude : Int) + unitsPerOne).natAbs = x.magnitude + unitsPerOne := by omega
    have hword := unsignedWord_le_nearest hx (Nat.le_add_right x.magnitude unitsPerOne) false
    simp only [Bool.false_eq_true, if_false]
    rw [if_neg (by omega), decide_eq_false (by omega), hsum, rank_nearest, if_neg Bool.false_ne_true]
    omega
  | true =>
    have hzero : x.unsignedWord = 0 → x.magnitude = 0 := magnitude_eq_zero
    simp only [if_true]
    rcases Nat.lt_trichotomy x.magnitude unitsPerOne with hlt | heq | hgt
    · rw [if_neg (by omega), decide_eq_false (by omega), rank_nearest, if_neg Bool.false_ne_true]
      omega
    · have hrank : (zero false).rank = 0 := by decide
      rw [if_pos (by omega), hrank]
      omega
    · have hsum : (-(x.magnitude : Int) + unitsPerOne).natAbs = x.magnitude - unitsPerOne := by omega
      have hless : x.magnitude - unitsPerOne ≤ x.magnitude * 1 := by omega
      have hword := nearest_unsignedWord_le Nat.one_pos hx hless true
      rw [if_neg (by omega), decide_eq_true (by omega), hsum, rank_nearest, if_pos rfl]
      omega

/-- No number that is at most `x` in value is after `x + 1`. -/
theorem rank_le_add_one (hx : x.isFinite = true) (h : y.numericRank ≤ x.numericRank) :
    y.rank ≤ (x.add one).rank := by
  obtain ⟨hrank, hzero⟩ := rank_add_one hx
  generalize (x.add one).rank = r at *
  -- only the zeros have one value and two places
  rw [numericRank, numericRank] at h
  rw [rank] at hrank ⊢
  split_ifs at * <;> omega

end OpticalBench.Binary64
