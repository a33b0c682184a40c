import OpticalBench.Proofs.Binary64.Whole
import OpticalBench.Proofs.Gateway.HiddenFailure
import OpticalBench.Proofs.Json.NumberRange
import OpticalBench.Proofs.TextMap
import OpticalBench.Results.Codec

/-!
# Interpretation is a normal form

Services report results in many shapes; written down they have one. What is written is read as the
results that it was written from, whatever payload these came from. Only that the counts were derived
is forgotten, because by then they are reported.

- `count?_ofNat_eq`: the count of a whole number.
- `count?_ofNat`: a count survives being written as a number, also the largest one.
- `IsFinite`: results whose numbers can be written.
- `IsInterpreted`: what is true of all results that were interpreted (`isInterpreted_interpret`).
- `field?_encode`: the fields of written results.
- `interpret_encode`: reading what was written.
- `interpret_encode_interpret`: interpreting a payload, writing the results and interpreting those.
-/

namespace OpticalBench

open Json

namespace TextMap

variable {α β γ : Type}

/-- Nothing changes if every value is kept. -/
theorem filterMap_eq_self {m : TextMap α} {f : String → α → Option α}
    (h : ∀ key a, m.get? key = some a → f key a = some a) : m.filterMap f = m := by
  refine eq_of_get?_eq fun key => ?_
  rw [get?_filterMap]
  cases hget : m.get? key with
  | none => rfl
  | some a => exact h key a hget

/-- Values that are changed and then changed again or dropped. -/
theorem filterMap_mapValues (f : α → β) (g : String → β → Option γ) (m : TextMap α) :
    (m.mapValues f).filterMap g = m.filterMap fun key a => g key (f a) := by
  refine eq_of_get?_eq fun key => ?_
  rw [get?_filterMap, get?_mapValues, get?_filterMap]
  cases m.get? key <;> rfl

/-- A map with other values is made from its entries. -/
theorem ofList_map_entries (f : α → β) (m : TextMap α) :
    ofList (m.entries.map fun e => (e.1, f e.2)) = m.mapValues f := by
  have hentries : (m.mapValues f).entries = m.entries.map fun e => (e.1, f e.2) :=
    congrFun List.filterMap_eq_map m.entries
  rw [← hentries, ofList_entries]

end TextMap

namespace Results

/-! ## Counts -/

/-- The largest count is written as the next power of two, which is out of range again. -/
theorem count?_ofNat_max64 : count? (.ofNat Text.max64) = some (.ofNat Text.max64) := by
  decide +kernel

/-- The count of a whole number is what it is rounded to, at most the largest count. -/
theorem count?_ofNat_eq {n : Nat} (h : n ≤ Text.max64) :
    count? (.ofNat n) = some (.ofNat (min (Binary64.ofNat n).wholePart Text.max64)) := by
  rw [count?, Number.isFinite_ofNat h, decide_eq_true (Binary64.numericRank_ofNat_nonneg _)]
  rfl

/-- A count survives being written as a number. -/
theorem count?_ofNat {x : Binary64} {c : UInt64} (h : count? x = some c) :
    count? (.ofNat c.toNat) = some c := by
  rw [count?] at h
  obtain ⟨-, h⟩ := Option.ite_none_right_eq_some.1 h
  obtain rfl := Option.some.inj h
  have hlt : Text.max64 < 2 ^ 64 := by decide
  by_cases hle : x.wholePart ≤ Text.max64
  · -- the count is the whole part of `x`, which is a number again without any rounding
    rw [Nat.min_eq_left hle, UInt64.toNat_ofNat_of_lt' (Nat.lt_of_le_of_lt hle hlt),
      count?_ofNat_eq hle, Binary64.wholePart_ofNat_wholePart (hle.trans Number.max64_le_largestPower),
      Nat.min_eq_left hle]
  · rw [Nat.min_eq_right (Nat.le_of_not_le hle), UInt64.toNat_ofNat_of_lt' hlt]
    exact count?_ofNat_max64

/-! ## Results that can be written and read -/

/-- Results whose numbers can all be written. -/
structure IsFinite (r : Results) : Prop where
  probabilities : ∀ p ∈ r.probabilities.values, p.isFinite = true
  photonDetections : ∀ p ∈ r.photonDetections.values, p.isFinite = true
  simulationTime : ∀ t ∈ r.simulationTime, t.isFinite = true

/-- What is true of all results that were interpreted: a count is that of some number, and an error has
a text. -/
structure IsInterpreted (r : Results) : Prop where
  counts : ∀ label c, r.counts.get? label = some c → ∃ x, count? x = some c
  error : ∀ e ∈ r.error, e ≠ ""

theorem isInterpreted_interpret (raw : Value) : (interpret raw).IsInterpreted where
  counts := by
    intro label c hget
    have hcounts : (interpret raw).counts =
        (((field? raw "counts").bind numberMap?).map
          (TextMap.filterMap fun _ x => count? x)).getD (synthesize (interpret raw).probabilities) :=
      rfl
    rw [hcounts] at hget
    cases hreported : (field? raw "counts").bind numberMap? with
    | some reported =>
      rw [hreported, Option.map_some, Option.getD_some, TextMap.get?_filterMap,
        Option.bind_eq_some_iff] at hget
      obtain ⟨x, -, hx⟩ := hget
      exact ⟨x, hx⟩
    | none =>
      -- derived counts are those of scaled probabilities
      rw [hreported, Option.map_none, Option.getD_none, synthesize, TextMap.get?_filterMap,
        Option.bind_eq_some_iff] at hget
      obtain ⟨p, -, hp⟩ := hget
      exact ⟨p.mul syntheticShots, (Option.filter_eq_some_iff.1 hp).1⟩
  error := by
    intro e he
    have herror : (interpret raw).error = (field? raw "error").bind errorText? := rfl
    rw [Option.mem_def, herror, Option.bind_eq_some_iff] at he
    obtain ⟨v, -, htext⟩ := he
    exact (Payload.errorText?_eq_some_iff.1 htext).2

/-! ## Fields of written results -/

/-- Every field is found where it was written, and an absent one is not found elsewhere. -/
theorem field?_encode (r : Results) :
    field? r.encode "success" = some (.boolean r.success) ∧
    field? r.encode "probabilities" = some (.ofTextMap .ofBinary64 r.probabilities) ∧
    field? r.encode "counts" = some (.ofTextMap (fun c => .ofNat c.toNat) r.counts) ∧
    field? r.encode "photon_detections" = some (.ofTextMap .ofBinary64 r.photonDetections) ∧
    field? r.encode "simulation_time" = r.simulationTime.map .ofBinary64 ∧
    field? r.encode "probabilities_fallback" = some (.boolean r.probabilitiesFallback) ∧
    field? r.encode "error" = r.error.map .text := by
  obtain ⟨success, probabilities, counts, detections, time, fallback, synthesized, error⟩ := r
  cases time <;> cases error <;> simp [field?, encode, Value.get?, TextMap.lookup?]

/-- A map is read as its numbers. -/
theorem numberMap?_ofTextMap {α : Type} (f : α → Value) (m : TextMap α) :
    numberMap? (.ofTextMap f m) = some (m.filterMap fun _ a => number? (f a)) := by
  show some ((TextMap.ofList (m.entries.map fun e => (e.1, f e.2))).filterMap
    fun _ v => number? v) = _
  rw [TextMap.ofList_map_entries, TextMap.filterMap_mapValues]

theorem number?_ofBinary64 {x : Binary64} (h : x.isFinite = true) :
    number? (.ofBinary64 x) = some x := by
  rw [Value.ofBinary64, if_pos h]
  rfl

/-- Finite numbers are read as they were written. -/
theorem numberMap?_ofBinary64 {m : TextMap Binary64} (h : ∀ x ∈ m.values, x.isFinite = true) :
    numberMap? (.ofTextMap .ofBinary64 m) = some m := by
  rw [numberMap?_ofTextMap, TextMap.filterMap_eq_self fun label x hget => number?_ofBinary64 (h x ?_)]
  exact List.mem_map.2 ⟨(label, x), TextMap.mem_entries_iff.2 hget, rfl⟩

/-- Counts are read as numbers. -/
theorem filterMap_number?_ofNat (m : TextMap UInt64) :
    (m.filterMap fun _ c => number? (.ofNat c.toNat)) =
      m.mapValues fun c => Binary64.ofNat c.toNat := by
  refine congrArg (fun f => m.filterMap f) (funext fun _ => funext fun c => ?_)
  exact congrArg some (Binary64.ofInt_natCast c.toNat)

/-- Counts that numbers had are read as they were written. -/
theorem filterMap_count? {m : TextMap UInt64}
    (h : ∀ label c, m.get? label = some c → ∃ x, count? x = some c) :
    (m.filterMap fun _ c => number? (.ofNat c.toNat)).filterMap (fun _ x => count? x) = m := by
  rw [filterMap_number?_ofNat, TextMap.filterMap_mapValues,
    TextMap.filterMap_eq_self fun label c hget => ?_]
  obtain ⟨x, hx⟩ := h label c hget
  exact count?_ofNat hx

/-! ## Reading what was written -/

variable {r : Results}

/-- Written results are read as they were, but for the mark that counts were derived. -/
theorem interpret_encode (finite : r.IsFinite) (interpreted : r.IsInterpreted) :
    interpret r.encode = { r with countsSynthesized := false } := by
  obtain ⟨hsuccess, hprobabilities, hcounts, hdetections, htime, hfallback, herror⟩ :=
    field?_encode r
  have hreadTime : (r.simulationTime.map Value.ofBinary64).bind number? = r.simulationTime := by
    cases ht : r.simulationTime with
    | none => rfl
    | some t => exact number?_ofBinary64 (finite.simulationTime t ht)
  have hreadError : (r.error.map Value.text).bind errorText? = r.error := by
    cases he : r.error with
    | none => rfl
    | some e => exact Payload.errorText?_eq_some_iff.2 ⟨rfl, interpreted.error e he⟩
  simp only [interpret, hsuccess, hprobabilities, hcounts, hdetections, htime, hfallback, herror,
    Option.bind_some, numberMap?_ofBinary64 finite.probabilities, numberMap?_ofTextMap,
    numberMap?_ofBinary64 finite.photonDetections, hreadTime, hreadError, Option.map_some,
    Option.getD_some, filterMap_count? interpreted.counts, truth?, Option.isNone_some,
    Bool.false_and]

/-- **Interpretation is a normal form**: whatever a service reported, results whose numbers are finite
are read again from what they are written as. Only the mark that counts were derived is gone. -/
theorem interpret_encode_interpret (raw : Value) (finite : (interpret raw).IsFinite) :
    interpret (interpret raw).encode = { interpret raw with countsSynthesized := false } :=
  interpret_encode finite (isInterpreted_interpret raw)

/-- A payload with a count that does not fit 64 bits. -/
def vastPayload : Value :=
  .object [
    ("results", .object [
      ("probabilities", .object [("0", .number (.float .one)), ("1", .text " 5e-1 ")]),
      ("counts", .object [("1", .number (.float ⟨0x7fe0000000000000⟩))])]),
    ("error", .text "lost photon")]

theorem interpret_encode_interpret_vastPayload :
    (interpret vastPayload).counts.get? "1" = some 0xffffffffffffffff ∧
      (interpret vastPayload).IsFinite ∧
      interpret (interpret vastPayload).encode =
        { interpret vastPayload with countsSynthesized := false } := by
  have finite : (interpret vastPayload).IsFinite :=
    ⟨by decide +kernel, by decide +kernel, by decide +kernel⟩
  exact ⟨by decide +kernel, finite, interpret_encode_interpret vastPayload finite⟩

end Results

end OpticalBench
