import Mathlib.Algebra.Order.Field.Power
import Mathlib.Data.List.Basic
import Mathlib.Data.List.Induction
import Mathlib.Tactic.IntervalCases
import Mathlib.Tactic.Linarith
import Mathlib.Tactic.Ring
import OpticalBench.Binary64.Layout

/-!
# What numerals stand for

A numeral stands for a rational number, and so does a decimal. Writing a decimal in the layout of JSON
texts changes nothing about it.

- `digitsValue_append`, `digitsValue_digits`: the number that digits stand for.
- `head?_digits`: a positive number has no leading zero.
- `Numeral.IsDecimal`: the digits of a numeral are decimal digits; `Layout.numeral_isDecimal` shows it
  of every number in a layout.
- `Numeral.IsDecimal.mem_characters`: a numeral is written in digits, a point, an exponent mark and signs.
- `Numeral.WellFormed`: numerals that may stand in a text.
- `Numeral.Denotes`: a numeral has the value of a decimal.
- `Layout.denotes_json`, `Layout.wellFormed_json`: so has what is written, and it is well formed.
-/

namespace OpticalBench

/-- What is said of the characters of a list is decided on these, not on all characters. -/
instance decidableForallMem {cs : List Char} {p : Char → Prop} [DecidablePred p] :
    Decidable (∀ c ∈ cs, p c) :=
  List.decidableBAll p cs

/-! ## Digits -/

theorem digitsValue_eq_ofDigitChars (cs : List Char) :
    digitsValue cs = Nat.ofDigitChars 10 cs 0 := by
  have hstep : (fun n c => n * 10 + digitValue c) =
      fun (n : Nat) (c : Char) => 10 * n + (c.toNat - '0'.toNat) := by
    funext n c
    rw [Nat.mul_comm]
    rfl
  rw [digitsValue, hstep, Nat.ofDigitChars_eq_foldl]

theorem digitsValue_append (xs ys : List Char) :
    digitsValue (xs ++ ys) = digitsValue xs * 10 ^ ys.length + digitsValue ys := by
  rw [digitsValue_eq_ofDigitChars, digitsValue_eq_ofDigitChars, digitsValue_eq_ofDigitChars,
    Nat.ofDigitChars_append, Nat.ofDigitChars_eq_ofDigitChars_zero, Nat.mul_comm]

theorem digitsValue_digits (n : Nat) : digitsValue (Numeral.digits n) = n := by
  rw [digitsValue_eq_ofDigitChars, Numeral.digits, Nat.ofDigitChars_ten_toDigits]

theorem digitsValue_zeros (n : Nat) : digitsValue (List.replicate n '0') = 0 := by
  rw [digitsValue_eq_ofDigitChars, Nat.ofDigitChars_replicate_zero, Nat.mul_zero]

theorem digitsValue_concat (cs : List Char) (c : Char) :
    digitsValue (cs ++ [c]) = digitsValue cs * 10 + digitValue c := by
  rw [digitsValue, List.foldl_concat, digitsValue]

theorem digitValue_lt {c : Char} (h : c.isDigit = true) : digitValue c < 10 := by
  simp only [Char.isDigit, Bool.and_eq_true, decide_eq_true_eq, UInt32.le_iff_toNat_le] at h
  show c.toNat - 48 < 10
  have : c.toNat ≤ 57 := h.2
  omega

theorem digitsValue_lt {cs : List Char} (h : ∀ c ∈ cs, c.isDigit = true) :
    digitsValue cs < 10 ^ cs.length := by
  induction cs using List.reverseRecOn with
  | nil => exact Nat.one_pos
  | append_singleton cs c ih =>
    have hcs := ih fun d hd => h d (List.mem_append_left _ hd)
    have hc := digitValue_lt (h c (List.mem_append_right _ List.mem_cons_self))
    rw [digitsValue_concat, List.length_append, List.length_singleton, Nat.pow_succ]
    omega

namespace Numeral

theorem isDigit_of_mem_digits {n : Nat} {c : Char} (h : c ∈ digits n) : c.isDigit = true :=
  Nat.isDigit_of_mem_toDigits (by decide) (by decide) h

theorem digits_ne_nil (n : Nat) : digits n ≠ [] := Nat.toDigits_ne_nil

theorem length_digits_pos (n : Nat) : 0 < (digits n).length := Nat.length_toDigits_pos

/-- A positive number has no leading zero. -/
theorem head?_digits {n : Nat} (h : 0 < n) : (digits n).head? ≠ some '0' := by
  induction n using Nat.strongRecOn with
  | ind n ih =>
    rw [digits, Nat.toDigits_eq_if (by decide)]
    by_cases hn : n < 10
    · rw [if_pos hn, List.head?_cons]
      clear ih
      interval_cases n <;> decide
    · rw [if_neg hn, List.head?_append_of_ne_nil _ Nat.toDigits_ne_nil]
      exact ih (n / 10) (by omega) (by omega)

/-! ## Numerals -/

/-- The digits before and after the point are decimal digits. -/
structure IsDecimal (n : Numeral) : Prop where
  whole : ∀ c ∈ n.whole, c.isDigit = true
  fraction : ∀ c ∈ n.fraction, c.isDigit = true

/-- The characters of a numeral that are no digits. -/
def marks : List Char := ['-', '+', '.', 'e']

theorem mem_exponentCharacters {plus : Bool} {e : Int} {c : Char}
    (h : c ∈ exponentCharacters plus e) : c.isDigit = true ∨ c ∈ marks := by
  cases e with
  | ofNat e =>
    rw [exponentCharacters] at h
    rcases List.mem_cons.1 h with rfl | h
    · exact .inr (by decide)
    · rcases List.mem_append.1 h with h | h
      · cases plus with
        | false => exact absurd h List.not_mem_nil
        | true =>
          obtain rfl := List.mem_singleton.1 h
          exact .inr (by decide)
      · exact .inl (isDigit_of_mem_digits h)
  | negSucc e =>
    rw [exponentCharacters] at h
    rcases List.mem_cons.1 h with rfl | h
    · exact .inr (by decide)
    · rcases List.mem_cons.1 h with rfl | h
      · exact .inr (by decide)
      · exact .inl (isDigit_of_mem_digits h)

/-- A numeral is written in digits and marks. -/
theorem IsDecimal.mem_characters {n : Numeral} (hn : n.IsDecimal) {plus : Bool} {c : Char}
    (h : c ∈ n.characters plus) : c.isDigit = true ∨ c ∈ marks := by
  rw [characters, List.mem_append, List.mem_append, List.mem_append] at h
  rcases h with ((hsign | hwhole) | hfraction) | hexponent
  · cases hnegative : n.negative with
    | false => simp [hnegative] at hsign
    | true =>
      rw [hnegative] at hsign
      obtain rfl := List.mem_singleton.1 hsign
      exact .inr (by decide)
  · exact .inl (hn.whole c hwhole)
  · cases hempty : n.fraction.isEmpty with
    | true => simp [hempty] at hfraction
    | false =>
      rw [hempty] at hfraction
      rcases List.mem_cons.1 hfraction with rfl | hfraction
      · exact .inr (by decide)
      · exact .inl (hn.fraction c hfraction)
  · cases hexp : n.exponent with
    | none => simp [hexp] at hexponent
    | some e =>
      rw [hexp] at hexponent
      exact mem_exponentCharacters hexponent

/-- A numeral that may stand in a text: there are digits, and a leading zero stands alone. -/
structure WellFormed (n : Numeral) : Prop extends n.IsDecimal where
  whole_ne_nil : n.whole ≠ []
  leading_zero : n.whole.head? = some '0' → n.whole = ['0']

/-- The absolute value of the number that a numeral stands for. -/
def value (n : Numeral) : ℚ :=
  digitsValue (n.whole ++ n.fraction) * 10 ^ (n.exponent.getD 0 - n.fraction.length)

end Numeral

/-- The number that a decimal is. -/
def Decimal.value (d : Decimal) : ℚ := d.coefficient * 10 ^ d.exponent

/-- A numeral that stands for a decimal. The digits before the point are few enough for 64 bits, and
a leading zero stands alone. -/
structure Numeral.Denotes (n : Numeral) (d : Decimal) : Prop where
  whole_ne_nil : n.whole ≠ []
  leading_zero : n.whole.head? = some '0' → n.whole = ['0']
  value_eq : n.value = d.value
  length_whole_le : n.whole.length ≤ 16

/-- A numeral has the value of a decimal if its digits are those of the decimal and zeros, as many as
the exponents differ. -/
theorem Numeral.value_eq_of_digits {n : Numeral} {d : Decimal} {k : Nat}
    (hdigits : digitsValue (n.whole ++ n.fraction) = d.coefficient * 10 ^ k)
    (hexponent : n.exponent.getD 0 - n.fraction.length + k = d.exponent) : n.value = d.value := by
  rw [value, hdigits, Decimal.value, ← hexponent, zpow_add₀ (by norm_num), zpow_natCast]
  push_cast
  ring

/-! ## Writing a decimal -/

namespace Layout

open Numeral (IsDecimal digits isDigit_of_mem_digits Denotes)

variable {layout : Layout} {c e : Nat}

theorem positionalNumeral_isDecimal (hwhole : ∀ c ∈ layout.wholeFraction, c.isDigit = true)
    (negative : Bool) (d : Decimal) : (layout.positionalNumeral negative d).IsDecimal := by
  have hzeros : ∀ k, ∀ c ∈ List.replicate k '0', c.isDigit = true := by
    intro k c hc
    rw [List.eq_of_mem_replicate hc]
    rfl
  have hdigits : ∀ c ∈ digits d.coefficient, c.isDigit = true := fun c => isDigit_of_mem_digits
  rw [positionalNumeral]
  cases d.exponent with
  | ofNat e =>
    refine ⟨fun c hc => ?_, hwhole⟩
    rcases List.mem_append.1 hc with hc | hc
    · exact hdigits c hc
    · by_cases hzero : d.coefficient = 0
      · rw [if_pos hzero] at hc
        exact absurd hc List.not_mem_nil
      · rw [if_neg hzero] at hc
        exact hzeros e c hc
  | negSucc e =>
    by_cases hplaces : e + 1 < (digits d.coefficient).length
    · simp only [hplaces, if_true]
      exact ⟨fun c hc => hdigits c (List.mem_of_mem_take hc),
        fun c hc => hdigits c (List.mem_of_mem_drop hc)⟩
    · simp only [hplaces, if_false]
      refine ⟨fun c hc => ?_, fun c hc => ?_⟩
      · obtain rfl := List.mem_singleton.1 hc
        rfl
      · rcases List.mem_append.1 hc with hc | hc
        · exact hzeros _ c hc
        · exact hdigits c hc

/-- Every number in a layout has decimal digits. -/
theorem numeral_isDecimal (hwhole : ∀ c ∈ layout.wholeFraction, c.isDigit = true)
    (negative : Bool) (d : Decimal) : (layout.numeral negative d).IsDecimal := by
  have hdigits : ∀ c ∈ digits d.coefficient, c.isDigit = true := fun c => isDigit_of_mem_digits
  rw [numeral]
  by_cases hpositional : d.coefficient = 0 ∨
      layout.positional (d.exponent + (digits d.coefficient).length - 1) = true
  · rw [if_pos hpositional]
    exact positionalNumeral_isDecimal hwhole negative d
  · rw [if_neg hpositional]
    exact ⟨fun c hc => hdigits c (List.mem_of_mem_take hc),
      fun c hc => hdigits c (List.mem_of_mem_drop hc)⟩

/-- A whole number, with its zeros. -/
theorem denotes_whole (negative : Bool) (h : c = 0 ∨ (digits c).length + e ≤ 16) :
    Denotes (json.positionalNumeral negative ⟨c, .ofNat e⟩) ⟨c, .ofNat e⟩ := by
  show Denotes ⟨negative, digits c ++ (if c = 0 then [] else List.replicate e '0'), ['0'], none⟩ _
  have hexponent : (0 : Int) - (1 : Nat) + (e + 1 : Nat) = e := by omega
  by_cases hc : c = 0
  · subst hc
    refine ⟨List.cons_ne_nil _ _, fun _ => rfl, ?_, Nat.le_add_left 1 15⟩
    exact Numeral.value_eq_of_digits (k := e + 1) (Nat.zero_mul _).symm hexponent
  · rw [if_neg hc]
    refine ⟨List.append_ne_nil_of_left_ne_nil (Numeral.digits_ne_nil c) _, ?_, ?_, ?_⟩
    · intro hzero
      rw [List.head?_append_of_ne_nil _ (Numeral.digits_ne_nil c)] at hzero
      exact absurd hzero (Numeral.head?_digits (Nat.pos_of_ne_zero hc))
    · refine Numeral.value_eq_of_digits (k := e + 1) ?_ hexponent
      rw [digitsValue_append, digitsValue_append, digitsValue_digits, digitsValue_zeros,
        List.length_replicate]
      show (c * 10 ^ e + 0) * 10 + 0 = c * 10 ^ (e + 1)
      ring
    · rw [List.length_append, List.length_replicate]
      exact h.resolve_left hc

theorem positionalNumeral_negSucc (layout : Layout) (negative : Bool) (c e : Nat) :
    layout.positionalNumeral negative ⟨c, .negSucc e⟩ =
      if e + 1 < (digits c).length then
        ⟨negative, (digits c).take ((digits c).length - (e + 1)),
          (digits c).drop ((digits c).length - (e + 1)), none⟩
      else
        ⟨negative, ['0'], List.replicate (e + 1 - (digits c).length) '0' ++ digits c, none⟩ := rfl

/-- A number with digits on both sides of the point. -/
theorem denotes_mixed (negative : Bool) (hplaces : e + 1 < (digits c).length)
    (h : (digits c).length - (e + 1) ≤ 16) :
    Denotes (json.positionalNumeral negative ⟨c, .negSucc e⟩) ⟨c, .negSucc e⟩ := by
  have hc : 0 < c := by
    refine Nat.pos_of_ne_zero fun hzero => ?_
    subst hzero
    exact absurd hplaces (by simp [digits])
  have hcut : (digits c).length - (e + 1) ≠ 0 := by omega
  rw [positionalNumeral_negSucc, if_pos hplaces]
  refine ⟨?_, ?_, ?_, (List.length_take_le _ _).trans h⟩
  · exact fun hnil => (List.take_eq_nil_iff.1 hnil).elim hcut (Numeral.digits_ne_nil c)
  · intro hzero
    rw [List.head?_take, if_neg hcut] at hzero
    exact absurd hzero (Numeral.head?_digits hc)
  · refine Numeral.value_eq_of_digits (k := 0) ?_ ?_
    · show digitsValue (_ ++ _) = c * 1
      rw [List.take_append_drop, digitsValue_digits, Nat.mul_one]
    · show (0 : Int) - ((digits c).drop _).length + (0 : Nat) = .negSucc e
      rw [List.length_drop]
      omega

/-- A number below one. -/
theorem denotes_small (negative : Bool) (hplaces : ¬e + 1 < (digits c).length) :
    Denotes (json.positionalNumeral negative ⟨c, .negSucc e⟩) ⟨c, .negSucc e⟩ := by
  rw [positionalNumeral_negSucc, if_neg hplaces]
  refine ⟨List.cons_ne_nil _ _, fun _ => rfl, ?_, Nat.le_add_left 1 15⟩
  refine Numeral.value_eq_of_digits (k := 0) ?_ ?_
  · show digitsValue (['0'] ++ (_ ++ _)) = c * 1
    rw [digitsValue_append, digitsValue_append, digitsValue_digits, digitsValue_zeros]
    show 0 * _ + (0 * _ + c) = _
    omega
  · show (0 : Int) - (_ ++ digits c).length + (0 : Nat) = .negSucc e
    rw [List.length_append, List.length_replicate]
    omega

/-- One digit before the point, and an exponent. -/
theorem denotes_scientific (negative : Bool) (hc : 0 < c) (e : Int) :
    Denotes ⟨negative, (digits c).take 1, (digits c).drop 1, some (e + (digits c).length - 1)⟩
      ⟨c, e⟩ where
  whole_ne_nil := fun hnil =>
    (List.take_eq_nil_iff.1 hnil).elim (by simp) (Numeral.digits_ne_nil c)
  leading_zero := by
    intro hzero
    rw [List.head?_take, if_neg (by simp)] at hzero
    exact absurd hzero (Numeral.head?_digits hc)
  value_eq := by
    have hpos := Numeral.length_digits_pos c
    refine Numeral.value_eq_of_digits (k := 0) ?_ ?_
    · show digitsValue (_ ++ _) = c * 1
      rw [List.take_append_drop, digitsValue_digits, Nat.mul_one]
    · show e + (digits c).length - 1 - ((digits c).drop 1).length + (0 : Nat) = e
      rw [List.length_drop]
      omega
  length_whole_le := (List.length_take_le _ _).trans (Nat.le_add_left 1 15)

/-- A decimal as it stands in JSON texts. -/
theorem denotes_json (negative : Bool) (d : Decimal) : Denotes (json.numeral negative d) d := by
  obtain ⟨c, e⟩ := d
  show Denotes (if c = 0 ∨ json.positional (e + (digits c).length - 1) = true then _ else _) _
  by_cases hpositional : c = 0 ∨ json.positional (e + (digits c).length - 1) = true
  · rw [if_pos hpositional]
    have hlength : c = 0 ∨ e + (digits c).length ≤ 16 := by
      refine hpositional.imp_right fun h => ?_
      have hrange : -5 ≤ e + (digits c).length - 1 ∧ e + (digits c).length - 1 < 16 :=
        of_decide_eq_true h
      omega
    cases e with
    | ofNat e =>
      refine denotes_whole negative (hlength.imp_right fun h => ?_)
      have : (e : Int) + (digits c).length ≤ 16 := h
      omega
    | negSucc e =>
      by_cases hplaces : e + 1 < (digits c).length
      · refine denotes_mixed negative hplaces ?_
        rcases hlength with rfl | h
        · exact absurd hplaces (by simp [digits])
        · omega
      · exact denotes_small negative hplaces
  · rw [if_neg hpositional]
    exact denotes_scientific negative (Nat.pos_of_ne_zero fun h => hpositional (.inl h)) e

theorem wellFormed_json (negative : Bool) (d : Decimal) :
    (json.numeral negative d).WellFormed where
  toIsDecimal := numeral_isDecimal (by decide) negative d
  whole_ne_nil := (denotes_json negative d).whole_ne_nil
  leading_zero := (denotes_json negative d).leading_zero

end Layout

end OpticalBench
