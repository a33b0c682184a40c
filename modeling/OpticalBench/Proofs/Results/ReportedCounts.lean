import OpticalBench.Proofs.Results.NormalForm
import OpticalBench.Proofs.Results.Shapes

/-!
# What becomes of reported counts

Maps of counts are read like all maps of numbers, so a count that a service reports as an integer
passes through a floating-point number. It comes back as it was if it has at most 53 bits and trailing
zeros; others are rounded. The largest count is rounded up, out of range, and cut back to itself.

- `rounded`: what a reported count comes back as.
- `IsExact`: the counts that come back as they were (`rounded_eq_iff`).
- `rounded_bounds`: how far off the others are.
- `Reports`: a payload with a map of counts as an object of integers.
- `counts_of_reports`: the counts that such a payload is read as.
-/

namespace OpticalBench.Results

open Json

/-! ## Single counts -/

/-- What a count comes back as. -/
def rounded (c : UInt64) : UInt64 :=
  .ofNat (min (Binary64.ofNat c.toNat).wholePart Text.max64)

/-- The largest count, and counts of at most 53 bits and trailing zeros. -/
def IsExact (c : UInt64) : Prop :=
  c.toNat = Text.max64 ∨ ∃ s k, s < 2 ^ 53 ∧ c.toNat = s * 2 ^ k

theorem toNat_le_max64 (c : UInt64) : c.toNat ≤ Text.max64 := Nat.le_of_lt_succ c.toNat_lt

theorem count?_ofNat_toNat (c : UInt64) : count? (.ofNat c.toNat) = some (rounded c) :=
  count?_ofNat_eq (toNat_le_max64 c)

theorem toNat_rounded (c : UInt64) :
    (rounded c).toNat = min (Binary64.ofNat c.toNat).wholePart Text.max64 :=
  UInt64.toNat_ofNat_of_lt' (Nat.lt_of_le_of_lt (Nat.min_le_right ..) (by decide))

theorem toNat_le_largestPower (c : UInt64) : c.toNat ≤ Binary64.largestPower :=
  (toNat_le_max64 c).trans Number.max64_le_largestPower

/-- A count comes back as it was if it is exact, and only then. -/
theorem rounded_eq_iff {c : UInt64} : rounded c = c ↔ IsExact c := by
  have hwhole := Binary64.wholePart_ofNat_eq_iff (toNat_le_largestPower c)
  have hmax := toNat_le_max64 c
  rw [IsExact, ← hwhole, ← UInt64.toNat_inj, toNat_rounded]
  constructor
  · omega
  · rintro (hlargest | hsame)
    · have hcount := (count?_ofNat_toNat c).symm
      rw [hlargest, count?_ofNat_max64] at hcount
      rw [← toNat_rounded, Option.some.inj hcount, hlargest]
      decide
    · omega

/-- Counts of at most 53 bits are exact, and so is the next power of two. -/
theorem isExact_of_le {c : UInt64} (h : c.toNat ≤ 2 ^ 53) : IsExact c := by
  rcases Nat.lt_or_eq_of_le h with hlt | heq
  · exact .inr ⟨c.toNat, 0, hlt, (Nat.mul_one _).symm⟩
  · exact .inr ⟨1, 53, by decide, heq⟩

/-- A count is off by at most one in `2 ^ 53`. -/
theorem rounded_bounds (c : UInt64) :
    (2 ^ 53 - 1) * c.toNat ≤ 2 ^ 53 * (rounded c).toNat ∧
      2 ^ 53 * (rounded c).toNat ≤ (2 ^ 53 + 1) * c.toNat := by
  obtain ⟨hlower, hupper⟩ := Binary64.wholePart_ofNat_bounds (toNat_le_largestPower c)
  have hmax := toNat_le_max64 c
  rw [toNat_rounded]
  omega

/-! ## Payloads -/

/-- A payload has the counts of a map as an object of integers, at the top level or one level deeper. -/
def Reports (raw : Value) (m : TextMap UInt64) : Prop :=
  ∃ fields, Holds "counts" (.object fields) raw ∧
    TextMap.ofList fields = m.mapValues fun c => .ofNat c.toNat

variable {raw : Value} {m : TextMap UInt64}

theorem numberMap?_of_reports (h : Reports raw m) :
    (field? raw "counts").bind numberMap? = some (m.mapValues fun c => Binary64.ofNat c.toNat) := by
  obtain ⟨fields, hholds, hfields⟩ := h
  rw [field?_of_holds hholds, Option.bind_some, ← filterMap_number?_ofNat,
    ← TextMap.filterMap_mapValues, ← hfields]
  rfl

/-- **Reported counts come back rounded.** They are not taken for derived ones, and every label keeps
its count, changed by at most one part in `2 ^ 53`. The map is the one that was reported if all counts
are exact, and only then; counts of up to `2 ^ 53` are. -/
theorem counts_of_reports (raw : Value) (m : TextMap UInt64) (h : Reports raw m) :
    (interpret raw).countsSynthesized = false ∧
    (∀ label, (interpret raw).counts.get? label = (m.get? label).map rounded) ∧
    (∀ c, (2 ^ 53 - 1) * c.toNat ≤ 2 ^ 53 * (rounded c).toNat ∧
      2 ^ 53 * (rounded c).toNat ≤ (2 ^ 53 + 1) * c.toNat) ∧
    ((interpret raw).counts = m ↔ ∀ c ∈ m.values, IsExact c) ∧
    ((∀ c ∈ m.values, c.toNat ≤ 2 ^ 53) → (interpret raw).counts = m) := by
  have hreported := numberMap?_of_reports h
  have hcounts : (interpret raw).counts = m.mapValues rounded := by
    have hrounded : (m.mapValues fun c => Binary64.ofNat c.toNat).filterMap (fun _ x => count? x) =
        m.mapValues rounded := by
      rw [TextMap.filterMap_mapValues]
      refine congrArg (fun f => m.filterMap f) (funext fun _ => funext fun c => ?_)
      exact count?_ofNat_toNat c
    simp only [interpret, hreported, Option.map_some, Option.getD_some, hrounded]
  have hexact : (interpret raw).counts = m ↔ ∀ c ∈ m.values, IsExact c := by
    rw [hcounts, TextMap.mapValues_eq_self_iff]
    exact forall₂_congr fun c _ => rounded_eq_iff
  refine ⟨?_, fun label => ?_, rounded_bounds, hexact, fun hsmall => ?_⟩
  · simp only [interpret, hreported, Option.map_some, Option.isNone_some, Bool.false_and]
  · rw [hcounts, TextMap.get?_mapValues]
  · exact hexact.2 fun c hc => isExact_of_le (hsmall c hc)

/-- A count of `2 ^ 53 + 1`, and one that is a power of two. -/
def unevenCounts : TextMap UInt64 := .ofList [("0", 0x20000000000001), ("1", 0x8000000000000000)]

/-- A service reports them under `"results"`. -/
def unevenPayload : Value :=
  .object [("results", .object [("counts", .ofTextMap (fun c => .ofNat c.toNat) unevenCounts)])]

theorem reports_unevenPayload : Reports unevenPayload unevenCounts :=
  ⟨_, .nested _ rfl rfl rfl, TextMap.ofList_map_entries (fun c => Value.ofNat c.toNat) unevenCounts⟩

theorem counts_of_reports_unevenPayload :
    Reports unevenPayload unevenCounts ∧
      (interpret unevenPayload).counts.get? "0" = some 0x20000000000000 ∧
      (interpret unevenPayload).counts.get? "1" = some 0x8000000000000000 := by
  obtain ⟨-, hget, -⟩ := counts_of_reports unevenPayload unevenCounts reports_unevenPayload
  refine ⟨reports_unevenPayload, ?_, ?_⟩
  · rw [hget]
    decide +kernel
  · rw [hget]
    decide +kernel

/-- A count of `2 ^ 53 + 1` does not come back as it was. -/
theorem not_forall_counts_eq :
    ¬∀ raw m, Reports raw m → (interpret raw).counts = m ∧
      (interpret raw).countsSynthesized = false := by
  intro h
  have hsame := (h unevenPayload unevenCounts reports_unevenPayload).1
  have hdiffer : (interpret unevenPayload).counts ≠ unevenCounts := by decide +kernel
  exact hdiffer hsame

end OpticalBench.Results
