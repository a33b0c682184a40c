import OpticalBench.Proofs.Json.Record
import OpticalBench.Proofs.Results.NormalForm

/-!
# Results are read back

Results are written as one object, with the simulation time and the error only if there are any, and
read field by field. A number that is not finite is written as `null`. Where a simulation time may be
missing this is accepted, where a map needs a number it is not.

- `Results.decode?_encode`: what results are decoded to after they were encoded.
- `Results.RereadAs`: how what is read back is related to what was written.
- `Results.reads_back`: results with finite numbers are read back, an infinite time is lost, and results
  with another number that is not finite are not read back.
-/

namespace OpticalBench

open Json

namespace Results

variable {r s : Results}

/-! ## Fields -/

/-- The fields that results are written as. -/
def fields (r : Results) : List (String × Value) :=
  [("success", .boolean r.success),
    ("probabilities", .ofTextMap .ofBinary64 r.probabilities),
    ("counts", .ofTextMap (fun c => .ofNat c.toNat) r.counts),
    ("photon_detections", .ofTextMap .ofBinary64 r.photonDetections)] ++
  (r.simulationTime.toList.map fun t => ("simulation_time", Value.ofBinary64 t)) ++
  [("probabilities_fallback", .boolean r.probabilitiesFallback),
    ("counts_synthesized", .boolean r.countsSynthesized)] ++
  r.error.toList.map fun e => ("error", Value.text e)

/-- Optional fields are left out, the others keep their order. -/
theorem keys_fields_sublist (r : Results) : (r.fields.map (·.1)).Sublist fieldNames := by
  -- a closed list of keys for each choice of the optional fields
  cases htime : r.simulationTime <;> cases herror : r.error <;>
    simp [fields, fieldNames, htime, herror]

theorem nodup_fields (r : Results) : (r.fields.map (·.1)).Nodup :=
  r.keys_fields_sublist.nodup (by decide)

theorem record?_encode (r : Results) :
    r.encode.document.record? fieldNames = some (Document.recordOf r.fields) :=
  Document.record?_object_of_declared r.nodup_fields fun _ he =>
    r.keys_fields_sublist.subset (List.mem_map_of_mem he)

theorem lookup?_simulationTime (r : Results) :
    TextMap.lookup? "simulation_time" r.fields = r.simulationTime.map Value.ofBinary64 := by
  cases htime : r.simulationTime <;> cases herror : r.error <;>
    simp [fields, TextMap.lookup?, htime, herror]

theorem lookup?_error (r : Results) :
    TextMap.lookup? "error" r.fields = r.error.map Value.text := by
  cases htime : r.simulationTime <;> cases herror : r.error <;>
    simp [fields, TextMap.lookup?, htime, herror]

/-! ## Decoding what was encoded -/

/-- A count is read back, also the largest one. -/
theorem decodeCount?_ofNat (c : UInt64) : decodeCount? (Value.ofNat c.toNat).document = some c := by
  have hmax : c.toNat ≤ Text.max64 := Nat.le_of_lt_succ c.toNat_lt
  rw [decodeCount?, Document.natural?_ofNat hmax hmax, Option.map_some, UInt64.ofNat_toNat]

theorem textMap?_counts (m : TextMap UInt64) :
    (Value.ofTextMap (fun c => .ofNat c.toNat) m).document.textMap? decodeCount? = some m := by
  rw [Document.textMap?_ofTextMap]
  exact TextMap.traverse?_eq_self fun c _ => decodeCount?_ofNat c

/-- The numbers of both maps decide whether results are read back; a simulation time without a JSON
text is lost. -/
theorem decode?_encode (r : Results) : decode? r.encode.document =
    (r.probabilities.traverse? Binary64.reread?).bind fun probabilities =>
      (r.photonDetections.traverse? Binary64.reread?).bind fun photonDetections =>
        some { r with
          probabilities
          photonDetections
          simulationTime := r.simulationTime.bind Binary64.reread? } := by
  have hrequired : ∀ {α : Type} {field : String} (v : Value), (field, v) ∈ r.fields →
      ∀ decode : Document → Option α,
        (Document.recordOf r.fields).required? field decode = decode v.document :=
    fun _ hmem => Document.required?_recordOf r.nodup_fields hmem
  have hsuccess : (Document.recordOf r.fields).required? "success" Document.boolean? =
      some r.success := hrequired (.boolean r.success) (by simp [fields]) _
  have hprobabilities : (Document.recordOf r.fields).required? "probabilities"
      (Document.textMap? Document.binary64?) = r.probabilities.traverse? Binary64.reread? :=
    (hrequired (.ofTextMap .ofBinary64 r.probabilities) (by simp [fields]) _).trans
      (Document.textMap?_ofBinary64 _)
  have hcounts : (Document.recordOf r.fields).required? "counts"
      (Document.textMap? decodeCount?) = some r.counts :=
    (hrequired (.ofTextMap (fun c => .ofNat c.toNat) r.counts) (by simp [fields]) _).trans
      (textMap?_counts _)
  have hdetections : (Document.recordOf r.fields).required? "photon_detections"
      (Document.textMap? Document.binary64?) = r.photonDetections.traverse? Binary64.reread? :=
    (hrequired (.ofTextMap .ofBinary64 r.photonDetections) (by simp [fields]) _).trans
      (Document.textMap?_ofBinary64 _)
  have htime : (Document.recordOf r.fields).optional? "simulation_time"
      (Document.nullable? Document.binary64?) = some (r.simulationTime.bind Binary64.reread?) := by
    rw [Document.optional?_recordOf r.lookup?_simulationTime]
    cases r.simulationTime with
    | none => rfl
    -- a time that is not finite was written as `null`, which is no time again
    | some t => exact Document.nullable?_ofBinary64 t
  have hfallback : (Document.recordOf r.fields).required? "probabilities_fallback"
      Document.boolean? = some r.probabilitiesFallback :=
    hrequired (.boolean r.probabilitiesFallback) (by simp [fields]) _
  have hsynthesized : (Document.recordOf r.fields).required? "counts_synthesized"
      Document.boolean? = some r.countsSynthesized :=
    hrequired (.boolean r.countsSynthesized) (by simp [fields]) _
  have herror : (Document.recordOf r.fields).optional? "error"
      (Document.nullable? Document.text?) = some r.error := by
    rw [Document.optional?_recordOf r.lookup?_error]
    cases r.error <;> rfl
  rw [decode?, record?_encode]
  simp only [Option.bind_eq_bind, Option.bind_some, hsuccess, hprobabilities, hcounts, hdetections,
    htime, hfallback, hsynthesized, herror]

theorem read?_render (r : Results) : read? r.render = decode? r.encode.document := by
  rw [read?, render, Document.read?_render, Option.bind_some]

/-! ## Reading back -/

/-- Results are the same as others up to the numbers, and each number is what the other's number is read
back as. In particular a number that is read back as itself is the same. -/
structure RereadAs (r s : Results) : Prop where
  success_eq : s.success = r.success
  probabilities : r.probabilities.ReadAs Binary64.reread? s.probabilities
  counts_eq : s.counts = r.counts
  photonDetections : r.photonDetections.ReadAs Binary64.reread? s.photonDetections
  simulationTime_eq : s.simulationTime = r.simulationTime.bind Binary64.reread?
  probabilitiesFallback_eq : s.probabilitiesFallback = r.probabilitiesFallback
  countsSynthesized_eq : s.countsSynthesized = r.countsSynthesized
  error_eq : s.error = r.error

/-- Results whose numbers are all read back as themselves. -/
structure IsReread (r : Results) : Prop where
  probabilities : ∀ p ∈ r.probabilities.values, p.reread? = some p
  photonDetections : ∀ p ∈ r.photonDetections.values, p.reread? = some p
  simulationTime : ∀ t ∈ r.simulationTime, t.reread? = some t

/-- Where every number is read back as itself, the results are the same. -/
theorem RereadAs.eq (h : r.RereadAs s) (same : r.IsReread) : s = r := by
  have hprobabilities := h.probabilities.eq same.probabilities
  have hdetections := h.photonDetections.eq same.photonDetections
  have htime : s.simulationTime = r.simulationTime := by
    rw [h.simulationTime_eq]
    cases ht : r.simulationTime with
    | none => rfl
    | some t => exact same.simulationTime t ht
  obtain ⟨hsuccess, -, hcounts, -, -, hfallback, hsynthesized, herror⟩ := h
  cases r
  cases s
  simp_all

/-- Results whose maps have finite numbers are read back. -/
theorem exists_rereadAs (hprobabilities : ∀ p ∈ r.probabilities.values, p.isFinite = true)
    (hdetections : ∀ p ∈ r.photonDetections.values, p.isFinite = true) :
    ∃ s, read? r.render = some s ∧ r.RereadAs s := by
  obtain ⟨probabilities, hp, hpread⟩ :=
    TextMap.exists_readAs fun p hmem => Binary64.exists_reread? (hprobabilities p hmem)
  obtain ⟨photonDetections, hd, hdread⟩ :=
    TextMap.exists_readAs fun p hmem => Binary64.exists_reread? (hdetections p hmem)
  refine ⟨{ r with
    probabilities
    photonDetections
    simulationTime := r.simulationTime.bind Binary64.reread? }, ?_,
    rfl, hpread, rfl, hdread, rfl, rfl, rfl, rfl⟩
  rw [read?_render, decode?_encode, hp, Option.bind_some, hd, Option.bind_some]

/-- Results with a number in a map that is not finite are not read back. -/
theorem read?_render_eq_none {p : Binary64}
    (hmem : p ∈ r.probabilities.values ∨ p ∈ r.photonDetections.values)
    (h : p.isFinite = false) : read? r.render = none := by
  rw [read?_render, decode?_encode]
  rcases hmem with hmem | hmem
  · rw [TextMap.traverse?_eq_none hmem (Binary64.reread?_eq_none h), Option.bind_none]
  · rw [TextMap.traverse?_eq_none hmem (Binary64.reread?_eq_none h)]
    exact Option.bind_eq_none_iff.2 fun _ _ => rfl

/-- Results without the time are those that an infinite time leaves. -/
theorem RereadAs.of_infinite_time {t : Binary64} (h : r.RereadAs s)
    (htime : r.simulationTime = some t) (hinfinite : t.isFinite = false) :
    RereadAs { r with simulationTime := none } s := by
  have hnone : s.simulationTime = none := by
    rw [h.simulationTime_eq, htime, Option.bind_some, Binary64.reread?_eq_none hinfinite]
  exact { h with simulationTime_eq := hnone }

/-- Results with finite numbers are read back, up to numbers whose JSON text is not read as the number
itself. If only the simulation time is not finite, it is read back as absent. If another number is not
finite, the results are not read back. -/
theorem reads_back (r : Results) :
    (r.IsFinite → ∃ s, read? r.render = some s ∧ r.RereadAs s ∧ (r.IsReread → s = r)) ∧
      (∀ t, r.simulationTime = some t → t.isFinite = false →
        ({ r with simulationTime := none } : Results).IsFinite →
          ∃ s, read? r.render = some s ∧ s.simulationTime = none ∧
            RereadAs { r with simulationTime := none } s ∧
            (({ r with simulationTime := none } : Results).IsReread →
              s = { r with simulationTime := none })) ∧
      ∀ p, p ∈ r.probabilities.values ∨ p ∈ r.photonDetections.values → p.isFinite = false →
        read? r.render = none := by
  refine ⟨fun h => ?_, fun t htime hinfinite h => ?_, fun p => read?_render_eq_none⟩
  · obtain ⟨s, hs, hrelated⟩ := exists_rereadAs h.probabilities h.photonDetections
    exact ⟨s, hs, hrelated, hrelated.eq⟩
  · obtain ⟨s, hs, hrelated⟩ := exists_rereadAs (r := r) h.probabilities h.photonDetections
    have hwithout := hrelated.of_infinite_time htime hinfinite
    exact ⟨s, hs, hwithout.simulationTime_eq, hwithout, hwithout.eq⟩

/-- Results with labels that have to be escaped, the largest count, and these numbers. -/
def sample (p : Binary64) (t : Option Binary64) : Results where
  success := true
  probabilities := .ofList [("|1,0⟩", p), ("\"\\\u0001", .zero true)]
  counts := .ofList [("|1,0⟩", .ofNat Text.max64), ("", 0)]
  photonDetections := .ofList [("mode_0", .one)]
  simulationTime := t
  probabilitiesFallback := false
  countsSynthesized := true
  error := some ""

/-- Finite results are read back as they are, also without the infinite time; with an infinite
probability they are not. -/
theorem reads_back_sample :
    read? (sample .one (some .one)).render = some (sample .one (some .one)) ∧
      read? (sample .one (some (.infinity true))).render = some (sample .one none) ∧
      read? (sample (.infinity false) none).render = none := by
  have hprobabilities : ∀ p ∈ (sample .one none).probabilities.values,
      p.isFinite = true ∧ p.reread? = some p := by decide +kernel
  have hdetections : ∀ p ∈ (sample .one none).photonDetections.values,
      p.isFinite = true ∧ p.reread? = some p := by decide +kernel
  have hone : Binary64.one.isFinite = true ∧ Binary64.one.reread? = some .one := by decide +kernel
  have hfinite : ∀ t, (∀ x ∈ t, x = .one) → (sample .one t).IsFinite := fun _ ht =>
    ⟨fun p hp => (hprobabilities p hp).1, fun p hp => (hdetections p hp).1,
      fun x hx => ht x hx ▸ hone.1⟩
  have hreread : ∀ t, (∀ x ∈ t, x = .one) → (sample .one t).IsReread := fun _ ht =>
    ⟨fun p hp => (hprobabilities p hp).2, fun p hp => (hdetections p hp).2,
      fun x hx => ht x hx ▸ hone.2⟩
  have habsent : ∀ x ∈ (none : Option Binary64), x = .one := fun _ hx => nomatch hx
  have hpresent : ∀ x ∈ some Binary64.one, x = .one := fun _ hx => (Option.some.inj hx).symm
  refine ⟨?_, ?_, ?_⟩
  · obtain ⟨s, hs, -, heq⟩ := (reads_back (sample .one (some .one))).1 (hfinite _ hpresent)
    rw [hs, heq (hreread _ hpresent)]
  · obtain ⟨s, hs, -, -, heq⟩ := (reads_back (sample .one (some (.infinity true)))).2.1
      (.infinity true) rfl (by decide) (hfinite none habsent)
    rw [hs, heq (hreread none habsent)]
    rfl
  · exact (reads_back (sample (.infinity false) none)).2.2 (.infinity false) (by decide +kernel)
      (by decide)

end Results

end OpticalBench
