import Mathlib.Algebra.Order.BigOperators.Group.List
import OpticalBench.Proofs.Binary64.Part
import OpticalBench.Proofs.TextMap
import OpticalBench.Results.Basic

/-!
# The sum of the counts

Counts are added up one after another in 64 bits. The sum is exact as long as it fits, and only then is
there one: a service can report counts that do not add up to 64 bits.

- `addCount`: one step of adding up (`foldl_addCount`: all steps).
- `totalCounts?_eq_foldl`: the sum of the counts is what the steps come to.
- `totalCounts?_eq_some_iff`, `totalCounts?_eq_none_iff`: when there is a sum.
- `countSum_le`: a bound from the number of outcomes and the largest count.
- `toNat_le_of_synthesize`: how large derived counts are.
- `totalCounts?_interpret`: the sum of the counts that a payload reports.
-/

namespace OpticalBench.Results

open Json

/-! ## Adding up -/

/-- Add a count to a sum, if the result fits 64 bits. -/
def addCount (sum : Option UInt64) (c : UInt64) : Option UInt64 :=
  sum.bind fun s => if s.toNat + c.toNat ≤ Text.max64 then some (s + c) else none

/-- The sum of some counts as a natural number. -/
def exactSum (cs : List UInt64) : Nat := (cs.map UInt64.toNat).sum

@[simp] theorem exactSum_nil : exactSum [] = 0 := rfl

@[simp] theorem exactSum_cons (c : UInt64) (cs : List UInt64) :
    exactSum (c :: cs) = c.toNat + exactSum cs := List.sum_cons

variable {r : Results}

theorem countSum_eq (r : Results) : r.countSum = exactSum r.counts.values := by
  rw [countSum]
  induction r.counts.values with
  | nil => rfl
  | cons c cs ih => rw [List.foldr_cons, ih, exactSum_cons]

theorem foldl_addCount_none (cs : List UInt64) : cs.foldl addCount none = none := by
  induction cs with
  | nil => rfl
  | cons c cs ih => exact ih

/-- No step leaves 64 bits if the sum does not. -/
theorem foldl_addCount (s : UInt64) (cs : List UInt64) : cs.foldl addCount (some s) =
    if s.toNat + exactSum cs ≤ Text.max64 then some (.ofNat (s.toNat + exactSum cs)) else none := by
  induction cs generalizing s with
  | nil =>
    have hfits : s.toNat + exactSum [] ≤ Text.max64 := Nat.le_of_lt_succ s.toNat_lt
    rw [if_pos hfits, exactSum_nil, Nat.add_zero, UInt64.ofNat_toNat]
    rfl
  | cons c cs ih =>
    rw [List.foldl_cons, addCount, Option.bind_some, exactSum_cons, ← Nat.add_assoc]
    by_cases hfits : s.toNat + c.toNat ≤ Text.max64
    · have hstep : (s + c).toNat = s.toNat + c.toNat := by
        rw [UInt64.toNat_add, Nat.mod_eq_of_lt (Nat.lt_of_le_of_lt hfits (by decide))]
      rw [if_pos hfits, ih, hstep]
    · rw [if_neg hfits, foldl_addCount_none, if_neg (by omega)]

/-- The sum of the counts is found by adding them up one after another. -/
theorem totalCounts?_eq_foldl (r : Results) :
    r.totalCounts? = r.counts.values.foldl addCount (some 0) := by
  rw [foldl_addCount, UInt64.toNat_zero, Nat.zero_add, totalCounts?, countSum_eq]

/-! ## When there is a sum -/

theorem totalCounts?_eq_some_iff {total : UInt64} :
    r.totalCounts? = some total ↔ total.toNat = exactSum r.counts.values := by
  rw [totalCounts?, countSum_eq]
  constructor
  · intro h
    obtain ⟨hfits, htotal⟩ := Option.ite_none_right_eq_some.1 h
    rw [← Option.some.inj htotal]
    exact UInt64.toNat_ofNat_of_lt' (Nat.lt_of_le_of_lt hfits (by decide))
  · intro h
    have hfits : exactSum r.counts.values ≤ Text.max64 := h ▸ Nat.le_of_lt_succ total.toNat_lt
    rw [if_pos hfits, ← h, UInt64.ofNat_toNat]

theorem totalCounts?_eq_none_iff :
    r.totalCounts? = none ↔ 2 ^ 64 ≤ exactSum r.counts.values := by
  have hmax : Text.max64 + 1 = 2 ^ 64 := by decide
  rw [totalCounts?, countSum_eq, ite_eq_right_iff, ← hmax]
  constructor
  · intro h
    exact Nat.lt_of_not_le fun hfits => nomatch h hfits
  · intro h hfits
    omega

/-- The number of outcomes times the largest count is a bound. -/
theorem countSum_le {bound : Nat} (h : ∀ c ∈ r.counts.values, c.toNat ≤ bound) :
    exactSum r.counts.values ≤ r.counts.size * bound := by
  have hcounts : ∀ n ∈ r.counts.values.map UInt64.toNat, n ≤ bound := by
    intro n hn
    obtain ⟨c, hc, rfl⟩ := List.mem_map.1 hn
    exact h c hc
  have hsize : (r.counts.values.map UInt64.toNat).length = r.counts.size := by
    rw [List.length_map, TextMap.values, List.length_map, TextMap.size]
  exact hsize ▸ List.sum_le_card_nsmul _ bound hcounts

/-! ## Derived counts -/

theorem toNat_le_of_count? {x : Binary64} {c : UInt64} (h : count? x = some c) :
    x.isFinite = true ∧ 0 ≤ x.numericRank ∧ c.toNat ≤ x.wholePart := by
  rw [count?] at h
  obtain ⟨hcount, hc⟩ := Option.ite_none_right_eq_some.1 h
  obtain ⟨hfinite, hsign⟩ := Bool.and_eq_true_iff.1 hcount
  refine ⟨hfinite, of_decide_eq_true hsign, ?_⟩
  rw [← Option.some.inj hc,
    UInt64.toNat_ofNat_of_lt' (Nat.lt_of_le_of_lt (Nat.min_le_right ..) (by decide))]
  exact Nat.min_le_left ..

/-- A probability of at most one makes at most as many counts as there are shots. -/
theorem toNat_le_of_synthesize {probabilities : TextMap Binary64} {c : UInt64}
    (h : ∀ p ∈ probabilities.values, Binary64.one.numericLt p = false)
    (hc : c ∈ (synthesize probabilities).values) : c.toNat ≤ 1000 := by
  obtain ⟨label, hget⟩ := TextMap.mem_values_iff.1 hc
  rw [synthesize, TextMap.get?_filterMap, Option.bind_eq_some_iff] at hget
  obtain ⟨p, hp, hcount⟩ := hget
  obtain ⟨hfinite, hsign, hle⟩ := toNat_le_of_count? (Option.filter_eq_some_iff.1 hcount).1
  have hone := h p (TextMap.mem_values_iff.2 ⟨label, hp⟩)
  exact Nat.le_trans hle (Binary64.wholePart_mul_ofNat_le (by decide) hone hfinite hsign)

theorem counts_of_countsSynthesized {raw : Value}
    (h : (interpret raw).countsSynthesized = true) :
    (interpret raw).counts = synthesize (interpret raw).probabilities := by
  have hnone : (((field? raw "counts").bind numberMap?).map
      (TextMap.filterMap fun _ x => count? x)).isNone = true := (Bool.and_eq_true_iff.1 h).1
  have hcounts : (interpret raw).counts = (((field? raw "counts").bind numberMap?).map
      (TextMap.filterMap fun _ x => count? x)).getD (synthesize (interpret raw).probabilities) := rfl
  rw [hcounts, Option.isNone_iff_eq_none.1 hnone, Option.getD_none]

/-! ## Payloads -/

/-- **The sum of the counts is exact or there is none.** Counts are added up one after another, and this
comes to their exact sum if that fits 64 bits; otherwise some step does not. It fits if the number of
outcomes times the largest count does; counts that were derived from probabilities of at most one are
at most as large as the number of shots. -/
theorem totalCounts?_interpret (raw : Value) :
    (interpret raw).totalCounts? = (interpret raw).counts.values.foldl addCount (some 0) ∧
    (∀ total, (interpret raw).totalCounts? = some total ↔
      total.toNat = exactSum (interpret raw).counts.values) ∧
    ((interpret raw).totalCounts? = none ↔ 2 ^ 64 ≤ exactSum (interpret raw).counts.values) ∧
    (∀ bound, (∀ c ∈ (interpret raw).counts.values, c.toNat ≤ bound) →
      (interpret raw).counts.size * bound < 2 ^ 64 → (interpret raw).totalCounts?.isSome = true) ∧
    ((interpret raw).countsSynthesized = true →
      (∀ p ∈ (interpret raw).probabilities.values, Binary64.one.numericLt p = false) →
      ∀ c ∈ (interpret raw).counts.values, c.toNat ≤ 1000) := by
  refine ⟨totalCounts?_eq_foldl _, fun total => totalCounts?_eq_some_iff, totalCounts?_eq_none_iff,
    fun bound hbound hfits => ?_, fun hderived hone c hc => ?_⟩
  · refine Option.isSome_iff_ne_none.2 fun hnone => ?_
    have hlarge := totalCounts?_eq_none_iff.1 hnone
    have hsmall := countSum_le hbound
    omega
  · rw [counts_of_countsSynthesized hderived] at hc
    exact toNat_le_of_synthesize hone hc

/-- A payload without counts, with probabilities of a quarter and one. -/
def uncountedPayload : Value :=
  .object [("probabilities", .object
    [("0", .number (.float ⟨0x3fd0000000000000⟩)), ("1", .number (.float ⟨0x3ff0000000000000⟩))])]

theorem totalCounts?_interpret_uncountedPayload :
    (interpret uncountedPayload).countsSynthesized = true ∧
      (∀ p ∈ (interpret uncountedPayload).probabilities.values, Binary64.one.numericLt p = false) ∧
      (interpret uncountedPayload).totalCounts?.isSome = true ∧
      (interpret uncountedPayload).totalCounts? = some 1250 := by
  have hderived : (interpret uncountedPayload).countsSynthesized = true := by decide +kernel
  have hone : ∀ p ∈ (interpret uncountedPayload).probabilities.values,
      Binary64.one.numericLt p = false := by decide +kernel
  obtain ⟨-, htotal, -, hfits, hbound⟩ := totalCounts?_interpret uncountedPayload
  refine ⟨hderived, hone, hfits 1000 (hbound hderived hone) (by decide +kernel), (htotal _).2 ?_⟩
  decide +kernel

/-- A payload with two counts of `2 ^ 63`. -/
def overfullPayload : Value :=
  .object [("counts", .object [("0", .ofNat 0x8000000000000000), ("1", .ofNat 0x8000000000000000)])]

/-- Two counts can be too much for 64 bits. -/
theorem not_forall_exists_totalCounts? :
    ¬∀ raw, ∃ total, (interpret raw).totalCounts? = some total ∧
      total.toNat = exactSum (interpret raw).counts.values := by
  intro h
  obtain ⟨total, htotal, -⟩ := h overfullPayload
  have hnone : (interpret overfullPayload).totalCounts? = none := by decide +kernel
  exact nomatch hnone.symm.trans htotal

end OpticalBench.Results
