import OpticalBench.Json.Number
import OpticalBench.Proofs.Binary64.Range
import OpticalBench.Proofs.Binary64.Shortest

/-!
# Numbers in JSON texts are finite, and finite numbers can be read

Reading rounds twice and refuses what is out of range. So a number that was read is finite. The other
way round, a finite number is written with digits that are at most half a step above it, and two
roundings of them stay in range, except perhaps for the two largest numbers, which are looked at one
by one.

- `isFinite_of_ofNumeral?`: what was read is finite.
- `Significand.amount_le`: leading digits do not amount to more than all digits.
- `isSome_scale?`: scaling succeeds if the exact result is far enough below the range of infinity.
- `isSome_ofNumeral?_numeral`: every finite number can be read back, though perhaps not as itself.
-/

namespace OpticalBench.Json.Number

open Binary64

/-! ## Powers of ten -/

variable {e : Nat}

theorem powTen_mono {d : Nat} (h : d ≤ e) : Nat.pow 10 d ≤ Nat.pow 10 e :=
  Nat.pow_le_pow_right (by decide) h

theorem powTen_le_largestPower (h : e ≤ 308) : Nat.pow 10 e ≤ largestPower := by
  unfold largestPower
  generalize 308 = top at h ⊢
  exact powTen_mono h

theorem powerOfTen_eq_nearest (h : e ≤ 308) :
    powerOfTen e = nearest false (Nat.pow 10 e * unitsPerOne) 1 := by
  have hlength : decimalLength 1 = 1 := rfl
  unfold powerOfTen ofDecimal
  dsimp only
  rw [hlength, if_neg (by omega), if_neg (by omega)]
  show nearest false (1 * Nat.pow 10 e * unitsPerOne) 1 = _
  rw [Nat.one_mul]

theorem isFinite_powerOfTen (h : e ≤ 308) : (powerOfTen e).isFinite = true := by
  rw [powerOfTen_eq_nearest h]
  exact isFinite_nearest_units (powTen_le_largestPower h) false

/-- Powers of ten are off by at most one in `2 ^ 53`. -/
theorem magnitude_powerOfTen_bounds (h : e ≤ 308) :
    (2 ^ 53 - 1) * (Nat.pow 10 e * unitsPerOne) ≤ 2 ^ 53 * (powerOfTen e).magnitude ∧
      2 ^ 53 * (powerOfTen e).magnitude ≤ (2 ^ 53 + 1) * (Nat.pow 10 e * unitsPerOne) := by
  rw [powerOfTen_eq_nearest h]
  exact magnitude_units_bounds (Nat.pow_pos (by decide)) (powTen_le_largestPower h) false

theorem magnitude_powerOfTen_zero : (powerOfTen 0).magnitude = unitsPerOne := by decide +kernel

/-- They are at least one. -/
theorem unitsPerOne_le_magnitude_powerOfTen (h : e ≤ 308) :
    unitsPerOne ≤ (powerOfTen e).magnitude := by
  rcases Nat.eq_zero_or_pos e with rfl | hpos
  · exact Nat.le_of_eq magnitude_powerOfTen_zero.symm
  · have hlower := (magnitude_powerOfTen_bounds h).1
    have hten : 10 ≤ Nat.pow 10 e := powTen_mono hpos
    have hproduct : 10 * unitsPerOne ≤ Nat.pow 10 e * unitsPerOne := Nat.mul_le_mul_right _ hten
    generalize Nat.pow 10 e * unitsPerOne = power at hlower hproduct
    generalize unitsPerOne = units at hproduct ⊢
    omega

/-! ## What was read is finite -/

variable {fuel : Nat} {x y : Binary64} {exponent : Int}

theorem isFinite_of_scale? (hx : x.isFinite = true) (h : scale? fuel x exponent = some y) :
    y.isFinite = true := by
  induction fuel generalizing x exponent with
  | zero => exact Option.some.inj h ▸ hx
  | succ fuel ih =>
    rw [scale?] at h
    by_cases hsmall : exponent.natAbs ≤ 308
    · rw [if_pos hsmall] at h
      have hpower := isFinite_powerOfTen hsmall
      by_cases hsign : 0 ≤ exponent
      · rw [if_pos hsign] at h
        obtain ⟨hfits, h⟩ := Option.ite_none_left_eq_some.1 h
        rw [Bool.not_eq_true] at hfits
        rw [← Option.some.inj h]
        rw [mul_eq_nearest hx hpower] at hfits ⊢
        exact isFinite_of_not_isInfinite unitsPerOne_pos hfits
      · rw [if_neg hsign] at h
        rw [← Option.some.inj h]
        exact isFinite_div hx hpower (unitsPerOne_le_magnitude_powerOfTen hsmall)
    · rw [if_neg hsmall] at h
      by_cases hzero : x.unsignedWord = 0
      · rw [if_pos hzero] at h
        exact Option.some.inj h ▸ hx
      · rw [if_neg hzero] at h
        by_cases hsign : 0 ≤ exponent
        · rw [if_pos hsign] at h
          exact nomatch h
        · rw [if_neg hsign] at h
          exact ih (isFinite_div hx (isFinite_powerOfTen (Nat.le_refl _))
            (unitsPerOne_le_magnitude_powerOfTen (Nat.le_refl _))) h

/-- Digits are taken only while they fit 64 bits. -/
theorem foldl_value_le {push : Significand → Char → Significand}
    (hpush : ∀ s c, s.value ≤ Text.max64 → (push s c).value ≤ Text.max64) {s : Significand}
    (hs : s.value ≤ Text.max64) (cs : List Char) : (cs.foldl push s).value ≤ Text.max64 := by
  induction cs generalizing s with
  | nil => exact hs
  | cons c cs ih => exact ih (hpush s c hs)

theorem value_pushWhole_le (s : Significand) (c : Char) (hs : s.value ≤ Text.max64) :
    (s.pushWhole c).value ≤ Text.max64 := by
  simp only [Significand.pushWhole]
  split
  case isTrue h => exact of_decide_eq_true (Bool.and_eq_true_iff.1 h).2
  case isFalse => exact hs

theorem value_pushFraction_le (s : Significand) (c : Char) (hs : s.value ≤ Text.max64) :
    (s.pushFraction c).value ≤ Text.max64 := by
  simp only [Significand.pushFraction]
  split
  case isTrue h => exact of_decide_eq_true (Bool.and_eq_true_iff.1 h).2
  case isFalse => exact hs

theorem value_significand_le (whole fraction : List Char) :
    (significand whole fraction).value ≤ Text.max64 := by
  have hwhole := foldl_value_le value_pushWhole_le (s := ⟨0, 0, true⟩) (Nat.zero_le _) whole
  exact foldl_value_le value_pushFraction_le (s := ⟨_, _, true⟩) hwhole fraction

theorem max64_le_largestPower : Text.max64 ≤ largestPower := by decide +kernel

theorem isFinite_ofNat {v : Nat} (h : v ≤ Text.max64) : (ofNat v).isFinite = true :=
  isFinite_nearest_units (Nat.le_trans h max64_le_largestPower) false

/-- What was read is finite. -/
theorem isFinite_of_ofNumeral? {n : Numeral} {number : Number} (h : ofNumeral? n = some number) :
    number.toBinary64.isFinite = true := by
  have hvalue := value_significand_le n.whole n.fraction
  simp only [ofNumeral?] at h
  split at h
  · -- an integer is rounded, whatever its sign
    obtain rfl := Option.some.inj h
    refine isFinite_nearest_units (Nat.le_trans ?_ max64_le_largestPower) _
    split
    · rwa [Int.natAbs_neg, Int.natAbs_natCast]
    · rwa [Int.natAbs_natCast]
  · obtain ⟨x, hscale, rfl⟩ := Option.map_eq_some_iff.1 h
    have hx := isFinite_of_scale? (isFinite_ofNat hvalue) hscale
    cases n.negative with
    | false => exact hx
    | true => exact isFinite_neg hx

/-! ## The leading digits -/

theorem foldl_pushWhole {cs : List Char} (h : digitsValue cs ≤ Text.max64) :
    cs.foldl Significand.pushWhole ⟨0, 0, true⟩ = ⟨digitsValue cs, 0, true⟩ := by
  induction cs using List.reverseRecOn with
  | nil => rfl
  | append_singleton cs c ih =>
    rw [digitsValue_concat] at h ⊢
    rw [List.foldl_concat, ih (by omega), Significand.pushWhole]
    exact if_pos (by simpa using h)

/-- The number that the leading digits stand for. -/
def Significand.amount (s : Significand) : ℚ := s.value * 10 ^ s.exponent

/-- Leading digits do not amount to more than all digits, and to just as much if all were taken. -/
structure Significand.Leads (s : Significand) (digits : List Char) (places : Nat) : Prop where
  amount_le : s.amount ≤ digitsValue digits * 10 ^ (-(places : Int))
  complete_eq : s.complete = true → s.value = digitsValue digits ∧ s.exponent = -(places : Int)

theorem Significand.Leads.pushFraction {s : Significand} {digits : List Char} {places : Nat}
    (h : s.Leads digits places) (c : Char) :
    (s.pushFraction c).Leads (digits ++ [c]) (places + 1) := by
  have hpower : (10 : ℚ) ^ (-(places : Int)) = 10 * 10 ^ (-((places + 1 : Nat) : Int)) := by
    rw [← zpow_one_add₀ (by norm_num)]
    congr 1
    omega
  simp only [Significand.pushFraction]
  split
  case isTrue htaken =>
    obtain ⟨hvalue, hexponent⟩ := h.complete_eq (Bool.and_eq_true_iff.1 htaken).1
    have hnext : s.value * 10 + digitValue c = digitsValue (digits ++ [c]) := by
      rw [digitsValue_concat, hvalue]
    have hplaces : s.exponent - 1 = -((places + 1 : Nat) : Int) := by omega
    refine ⟨?_, fun _ => ⟨hnext, hplaces⟩⟩
    rw [Significand.amount, hnext, hplaces]
  case isFalse =>
    refine ⟨?_, fun hcomplete => nomatch hcomplete⟩
    have hdigits : (digitsValue digits * 10 : ℚ) ≤ digitsValue (digits ++ [c]) := by
      rw [digitsValue_concat]
      push_cast
      linarith [(Nat.cast_nonneg (digitValue c) : (0 : ℚ) ≤ digitValue c)]
    calc Significand.amount ⟨s.value, s.exponent, false⟩
        ≤ digitsValue digits * 10 ^ (-(places : Int)) := h.amount_le
      _ = digitsValue digits * 10 * 10 ^ (-((places + 1 : Nat) : Int)) := by rw [hpower, mul_assoc]
      _ ≤ digitsValue (digits ++ [c]) * 10 ^ (-((places + 1 : Nat) : Int)) :=
        mul_le_mul_of_nonneg_right hdigits (by positivity)

theorem leads_significand {whole : List Char} (h : digitsValue whole ≤ Text.max64)
    (fraction : List Char) :
    (significand whole fraction).Leads (whole ++ fraction) fraction.length := by
  rw [significand, foldl_pushWhole h]
  induction fraction using List.reverseRecOn with
  | nil =>
    rw [List.append_nil]
    exact ⟨le_of_eq rfl, fun _ => ⟨rfl, rfl⟩⟩
  | append_singleton cs c ih =>
    rw [List.foldl_concat, ← List.append_assoc, List.length_append]
    exact ih.pushFraction c

/-- What is scaled does not exceed what the numeral stands for. -/
theorem amount_le_value {n : Numeral} (h : digitsValue n.whole ≤ Text.max64) :
    ((significand n.whole n.fraction).value : ℚ) *
        10 ^ ((significand n.whole n.fraction).exponent + n.exponent.getD 0) ≤ n.value := by
  have hamount := (leads_significand h n.fraction).amount_le
  rw [Significand.amount] at hamount
  rw [zpow_add₀ (by norm_num), ← mul_assoc, Numeral.value, sub_eq_neg_add,
    zpow_add₀ (by norm_num), ← mul_assoc]
  exact mul_le_mul_of_nonneg_right hamount (by positivity)

/-! ## Scaling succeeds -/

/-- Scaling down is never refused. -/
theorem isSome_scale?_of_neg (fuel : Nat) (x : Binary64) (h : exponent < 0) :
    (scale? fuel x exponent).isSome = true := by
  induction fuel generalizing x exponent with
  | zero => rfl
  | succ fuel ih =>
    have hsign : ¬0 ≤ exponent := by omega
    rw [scale?]
    by_cases hsmall : exponent.natAbs ≤ 308
    · rw [if_pos hsmall, if_neg hsign]
      rfl
    · rw [if_neg hsmall]
      by_cases hzero : x.unsignedWord = 0
      · rw [if_pos hzero]
        rfl
      · rw [if_neg hzero, if_neg hsign]
        exact ih _ (by omega)

/-- A number of quarters of a unit that is far enough below the range of infinity for two roundings. -/
def Scalable (quarters : Nat) : Prop := (2 ^ 53 + 1) ^ 2 * quarters < 2 ^ 107 * overflow

theorem not_scalable : ¬Scalable (Nat.pow 10 309 * (4 * unitsPerOne)) := by
  unfold Scalable
  decide +kernel

theorem Scalable.mono {m n : Nat} (h : m ≤ n) (hn : Scalable n) : Scalable m :=
  Nat.lt_of_le_of_lt (Nat.mul_le_mul_left _ h) hn

/-- The product of two rounded numbers stays in range if the product of the exact ones is far enough
below it. -/
theorem two_mul_lt_of_scaled {a b p q units range : Nat}
    (ha : 2 ^ 53 * a ≤ (2 ^ 53 + 1) * (p * units)) (hb : 2 ^ 53 * b ≤ (2 ^ 53 + 1) * (q * units))
    (hunits : 0 < units)
    (h : (2 ^ 53 + 1) ^ 2 * (p * q * (4 * units)) < 2 ^ 107 * range) :
    2 * (a * b) < range * units := by
  have hscaled : 2 ^ 107 * (2 * (a * b)) < 2 ^ 107 * (range * units) :=
    calc 2 ^ 107 * (2 * (a * b)) = 4 * (2 ^ 53 * a * (2 ^ 53 * b)) := by ring
      _ ≤ 4 * ((2 ^ 53 + 1) * (p * units) * ((2 ^ 53 + 1) * (q * units))) :=
        Nat.mul_le_mul_left 4 (Nat.mul_le_mul ha hb)
      _ = (2 ^ 53 + 1) ^ 2 * (p * q * (4 * units)) * units := by ring
      _ < 2 ^ 107 * range * units := Nat.mul_lt_mul_of_pos_right h hunits
      _ = 2 ^ 107 * (range * units) := by ring
  exact Nat.lt_of_mul_lt_mul_left hscaled

variable {v : Nat}

theorem magnitude_ofNat_zero : (ofNat 0).magnitude = 0 := by decide +kernel

theorem magnitude_ofNat_le (hv : v ≤ Text.max64) :
    2 ^ 53 * (ofNat v).magnitude ≤ (2 ^ 53 + 1) * (v * unitsPerOne) := by
  rcases Nat.eq_zero_or_pos v with rfl | hpos
  · rw [magnitude_ofNat_zero]
    exact Nat.zero_le _
  · exact (magnitude_units_bounds hpos (Nat.le_trans hv max64_le_largestPower) false).2

theorem powTen_le_mul {d : Nat} (hv : 0 < v) (h : d ≤ e) : Nat.pow 10 d ≤ v * Nat.pow 10 e :=
  Nat.le_trans (powTen_mono h) (Nat.le_mul_of_pos_left _ hv)

/-- A number below that range can be multiplied by a power of ten. -/
theorem isFinite_mul_powerOfTen (hv : v ≤ Text.max64) (he : e ≤ 308)
    (h : Scalable (v * Nat.pow 10 e * (4 * unitsPerOne))) :
    ((ofNat v).mul (powerOfTen e)).isFinite = true :=
  isFinite_mul (isFinite_ofNat hv) (isFinite_powerOfTen he)
    (two_mul_lt_of_scaled (magnitude_ofNat_le hv) (magnitude_powerOfTen_bounds he).2
      unitsPerOne_pos h)

/-- Scaling up succeeds if the exact result is far enough below the range of infinity. -/
theorem isSome_scale?_of_scalable (fuel : Nat) (hv : v ≤ Text.max64)
    (h : Scalable (v * Nat.pow 10 e * (4 * unitsPerOne))) :
    (scale? (fuel + 1) (ofNat v) e).isSome = true := by
  have hsign : 0 ≤ (e : Int) := Int.natCast_nonneg e
  rw [scale?, Int.natAbs_natCast, if_pos hsign]
  by_cases he : e ≤ 308
  · rw [if_pos he]
    show Option.isSome (if ((ofNat v).mul (powerOfTen e)).isInfinite = true then none else _) = true
    rw [isInfinite_eq_false (isFinite_mul_powerOfTen hv he h)]
    rfl
  · rw [if_neg he]
    by_cases hzero : (ofNat v).unsignedWord = 0
    · rw [if_pos hzero]
      rfl
    · -- a positive number times such a power is not below that range
      refine absurd (h.mono (Nat.mul_le_mul_right _ ?_)) not_scalable
      have hpos : 0 < v := by
        refine Nat.pos_of_ne_zero ?_
        rintro rfl
        exact hzero (by decide +kernel)
      have hlarge : 309 ≤ e := Nat.lt_of_not_le he
      generalize 309 = beyond at hlarge ⊢
      exact powTen_le_mul hpos hlarge

/-- A numeral can be read if what it stands for is far enough below the range of infinity. -/
theorem isSome_ofNumeral? {n : Numeral} {high : Nat} (hwhole : digitsValue n.whole ≤ Text.max64)
    (hhigh : n.value * (4 * unitsPerOne : Nat) ≤ high) (h : Scalable high) :
    (ofNumeral? n).isSome = true := by
  have hv := value_significand_le n.whole n.fraction
  have hamount := amount_le_value hwhole
  simp only [ofNumeral?]
  split
  · rfl
  · rw [Option.isSome_map]
    generalize significand n.whole n.fraction = s at hv hamount ⊢
    generalize s.exponent + n.exponent.getD 0 = exponent at hamount ⊢
    cases exponent with
    | negSucc e => exact isSome_scale?_of_neg _ _ (Int.negSucc_lt_zero e)
    | ofNat e =>
      refine isSome_scale?_of_scalable _ hv (h.mono ?_)
      generalize 4 * unitsPerOne = units at hhigh ⊢
      have hcast : ((s.value * Nat.pow 10 e * units : Nat) : ℚ) ≤ high :=
        calc ((s.value * Nat.pow 10 e * units : Nat) : ℚ)
            = s.value * 10 ^ Int.ofNat e * units := by
              rw [Nat.cast_mul, Nat.cast_mul, cast_powTen, Int.ofNat_eq_natCast, zpow_natCast]
          _ ≤ n.value * units := mul_le_mul_of_nonneg_right hamount (Nat.cast_nonneg _)
          _ ≤ high := hhigh
      exact_mod_cast hcast

/-! ## Finite numbers can be read back -/

/-- The interval of a number that is not one of the two largest is far enough below the range of
infinity. -/
theorem scalable_high (h : x.unsignedWord < 0x7feffffffffffffe) :
    Scalable x.roundingInterval.high := by
  have hsignificand := x.significand_lt
  have hexponent := unitExponent_le (isFinite_iff.2 (by omega : x.unsignedWord < _))
  have hstep : 0 < 2 ^ x.unitExponent := Nat.two_pow_pos _
  rw [Scalable, overflow, high_roundingInterval]
  rcases Nat.lt_or_eq_of_le hexponent with hless | hequal
  · -- a step is at most half as long as the longest
    have hdouble : 2 ^ x.unitExponent * 2 ≤ 2 ^ topExponent := by
      rw [← Nat.pow_succ]
      exact Nat.pow_le_pow_right (by decide) hless
    have hproduct : (4 * x.significand + 2) * 2 ^ x.unitExponent ≤
        (2 ^ 55 - 2) * 2 ^ x.unitExponent := Nat.mul_le_mul_right _ (by omega)
    generalize (4 * x.significand + 2) * 2 ^ x.unitExponent = high at hproduct ⊢
    generalize 2 ^ x.unitExponent = step at hstep hdouble hproduct
    generalize 2 ^ topExponent = top at hdouble ⊢
    omega
  · have hlargest := significand_le_of_lt h hequal
    have hproduct : (4 * x.significand + 2) * 2 ^ x.unitExponent ≤
        (2 ^ 55 - 10) * 2 ^ x.unitExponent := Nat.mul_le_mul_right _ (by omega)
    generalize (4 * x.significand + 2) * 2 ^ x.unitExponent = high at hproduct ⊢
    rw [hequal] at hstep hproduct
    generalize 2 ^ topExponent = top at hstep hproduct ⊢
    omega

/-- The two largest numbers of either sign are read back, as the computation shows. -/
theorem isSome_ofNumeral?_largest : ∀ word ∈ [0x7fefffffffffffff, 0x7feffffffffffffe,
    0xffefffffffffffff, 0xffeffffffffffffe], (ofNumeral?
      ((⟨UInt64.ofNat word⟩ : Binary64).numeral .json)).isSome = true := by
  decide +kernel

/-- Every finite number can be read back, though perhaps not as itself. -/
theorem isSome_ofNumeral?_numeral (h : x.isFinite = true) :
    (ofNumeral? (x.numeral .json)).isSome = true := by
  by_cases hbelow : x.unsignedWord < 0x7feffffffffffffe
  · have hdenotes := Layout.denotes_json x.isNegative (x.shortest .even)
    have hwhole : digitsValue (x.numeral .json).whole ≤ Text.max64 := by
      have hlt := digitsValue_lt (Layout.wellFormed_json x.isNegative (x.shortest .even)).whole
      have hlength : 10 ^ (x.numeral .json).whole.length ≤ 10 ^ 16 :=
        Nat.pow_le_pow_right (by decide) hdenotes.length_whole_le
      have hmax : 10 ^ 16 ≤ Text.max64 := by decide
      exact Nat.le_trans (Nat.le_of_lt hlt) (Nat.le_trans hlength hmax)
    refine isSome_ofNumeral? hwhole ?_ (scalable_high hbelow)
    have hvalue : (x.numeral .json).value = (x.shortest .even).value := hdenotes.value_eq
    rw [hvalue]
    exact value_shortest_le .even x
  · rw [isFinite_iff] at h
    have hbits : x.word < 2 ^ 64 := x.bits.toNat_lt
    have hword : x.word ∈ [0x7fefffffffffffff, 0x7feffffffffffffe, 0xffefffffffffffff,
        0xffeffffffffffffe] := by
      simp only [List.mem_cons, List.not_mem_nil, or_false]
      rw [unsignedWord] at h hbelow
      omega
    rw [eq_ofNat_word x]
    exact isSome_ofNumeral?_largest _ hword

/-! ## Integers -/

theorem significand_digits {n : Nat} (h : n ≤ Text.max64) :
    significand (Numeral.digits n) [] = ⟨n, 0, true⟩ := by
  rw [significand, foldl_pushWhole (by rwa [digitsValue_digits]), digitsValue_digits]
  rfl

/-- Integers of 64 bits, signed or not, are read back as themselves. -/
theorem ofNumeral?_ofInt {n : Int} (hlow : -0x8000000000000000 ≤ n) (hhigh : n ≤ Text.max64) :
    ofNumeral? (.ofInt n) = some (.integer n) := by
  have hmax : 0x8000000000000000 ≤ Text.max64 := by decide
  have hdigits : significand (Numeral.digits n.natAbs) [] = ⟨n.natAbs, 0, true⟩ :=
    significand_digits (by omega)
  by_cases h : n < 0
  · have hsign : decide (n < 0) = true := decide_eq_true h
    have hrange : decide (0 < n.natAbs ∧ n.natAbs ≤ 0x8000000000000000) = true :=
      decide_eq_true (by omega)
    have habs : -(n.natAbs : Int) = n := by omega
    simp only [ofNumeral?, Numeral.ofInt, hdigits, hsign, hrange]
    exact congrArg (fun m => some (integer m)) habs
  · have hsign : decide (n < 0) = false := decide_eq_false h
    have habs : (n.natAbs : Int) = n := by omega
    simp only [ofNumeral?, Numeral.ofInt, hdigits, hsign]
    exact congrArg (fun m => some (integer m)) habs

/-- Integers of 64 bits that are not negative are read back as themselves. -/
theorem ofNumeral?_natural {n : Nat} (h : n ≤ Text.max64) :
    ofNumeral? (.ofInt n) = some (.integer n) :=
  ofNumeral?_ofInt (by omega) (by exact_mod_cast h)

end OpticalBench.Json.Number
