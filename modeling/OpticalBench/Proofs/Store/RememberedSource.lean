import OpticalBench.Program.Generate
import OpticalBench.Proofs.Store.Edits

/-!
# A remembered source is never stale

The source that a circuit remembers belongs to the circuit as it is: whatever has happened since it
was recorded, nothing that a program could depend on is different.

- `Edit.IsLastRecording`: where edits record a source for the last time.
- `Edit.exists_lastRecording`: a circuit that remembers a source is the circuit right after the last
  recording.
- `Edit.source_is_current`: what this says about edits of a circuit and of a store, in particular
  about recordings of generated programs.
-/

namespace OpticalBench

open Program (generate)

namespace Edit

/-- The source `source` is recorded after `before`, and none is recorded in what comes `after`. -/
structure IsLastRecording (edits before : List Edit) (framework : Framework) (source : String)
    (after : List Edit) : Prop where
  edits_eq : edits = before ++ .remember framework source :: after
  last : ∀ framework source, .remember framework source ∉ after

variable {c : Circuit} {edits before after : List Edit} {framework : Framework} {source : String}

/-- What comes next may be anything but a recording. -/
theorem IsLastRecording.concat (h : IsLastRecording edits before framework source after) {e : Edit}
    (he : ∀ framework source, e ≠ .remember framework source) :
    IsLastRecording (edits ++ [e]) before framework source (after ++ [e]) where
  edits_eq := by rw [h.edits_eq, List.append_assoc, List.cons_append]
  last framework source hmem := by
    rcases List.mem_append.1 hmem with hmem | hmem
    · exact h.last framework source hmem
    · exact he framework source (List.mem_singleton.1 hmem).symm

/-- Right after a recording the source is the one that was given. -/
theorem source_recorded (before : List Edit) (framework : Framework) (source : String)
    (c : Circuit) : (runAll (before ++ [.remember framework source]) c).source = source := by
  rw [runAll_concat]
  rfl

/-- Recording changes no program. -/
theorem generate_recorded (before : List Edit) (framework : Framework) (source : String)
    (c : Circuit) (f : Framework) (shots : Nat) :
    generate (runAll (before ++ [.remember framework source]) c) f shots =
      generate (runAll before c) f shots := by
  rw [runAll_concat]
  rfl

/-- A circuit that remembers a source, and did not at first, is the circuit right after the last
recording. -/
theorem exists_lastRecording (hfirst : c.source = "") (h : (runAll edits c).source ≠ "") :
    ∃ before framework source after, IsLastRecording edits before framework source after ∧
      runAll edits c = runAll (before ++ [.remember framework source]) c := by
  induction edits using List.reverseRecOn with
  | nil => exact absurd hfirst h
  | append_singleton edits e ih =>
    rw [runAll_concat] at h ⊢
    rcases run_cases e (runAll edits c) with hidle | ⟨framework, source, rfl⟩ | hforgets
    · -- nothing happened, so the last recording is the one before
      rw [hidle.run_eq] at h ⊢
      obtain ⟨before, framework, source, after, hlast, heq⟩ := ih h
      refine ⟨before, framework, source, after ++ [e], hlast.concat ?_, heq⟩
      rintro framework source rfl
      exact hidle
    · exact ⟨edits, framework, source, [], ⟨rfl, fun _ _ => List.not_mem_nil⟩,
        (runAll_concat ..).symm⟩
    · exact absurd hforgets h

/-- What a circuit that was edited knows of sources. -/
structure SourceIsCurrent (c : Circuit) (edits : List Edit) : Prop where
  /-- If it remembers a source, the source was given at the last recording, and the circuit is
  exactly what it was right after that. -/
  recorded : (runAll edits c).source ≠ "" → ∃ before framework source after,
    IsLastRecording edits before framework source after ∧ (runAll edits c).source = source ∧
      (runAll edits c).modeCount = (runAll (before ++ [.remember framework source]) c).modeCount ∧
      (runAll edits c).operations = (runAll (before ++ [.remember framework source]) c).operations
  /-- If every source was generated when it was recorded, a source that it remembers is the program
  that would be generated now, for the framework and the shots of the last recording. -/
  generated : ∀ (frameworks : List Edit → Framework) (shots : List Edit → Nat),
    (∀ before framework source after, edits = before ++ .remember framework source :: after →
      source = generate (runAll before c) (frameworks before) (shots before)) →
    (runAll edits c).source ≠ "" → ∃ before framework source after,
      IsLastRecording edits before framework source after ∧
        (runAll edits c).source = generate (runAll edits c) (frameworks before) (shots before)
  /-- Recording a source changes nothing else. -/
  recording : ∀ framework source,
    runAll (edits ++ [.remember framework source]) c = { runAll edits c with source }
  /-- An edit that has nothing to do leaves everything as it is, the source too. -/
  kept : ∀ e : Edit, e.IsIdle (runAll edits c) → runAll (edits ++ [e]) c = runAll edits c
  /-- A store that holds the circuit holds the same one after the same edits. -/
  stored : ∀ feed, (Store.applyAll ⟨c, feed⟩ edits).circuit = runAll edits c

/-- **A remembered source is never stale**, however a circuit was created or read, and whatever
edits and recordings there were. -/
theorem source_is_current (h : c.Begins) (edits : List Edit) : SourceIsCurrent c edits where
  recorded hsource := by
    obtain ⟨before, framework, source, after, hlast, heq⟩ :=
      exists_lastRecording h.source_eq hsource
    refine ⟨before, framework, source, after, hlast, ?_, ?_, ?_⟩
    · rw [heq, source_recorded]
    · rw [heq]
    · rw [heq]
  generated frameworks shots hgenerated hsource := by
    obtain ⟨before, framework, source, after, hlast, heq⟩ :=
      exists_lastRecording h.source_eq hsource
    refine ⟨before, framework, source, after, hlast, ?_⟩
    have hgiven : source = generate (runAll before c) (frameworks before) (shots before) :=
      hgenerated before framework source after hlast.edits_eq
    rw [heq, source_recorded, generate_recorded]
    exact hgiven
  recording framework source := runAll_concat ..
  kept e hidle := by
    rw [runAll_concat]
    exact hidle.run_eq
  stored feed := Store.circuit_applyAll ⟨c, feed⟩ edits

/-- Two recordings: there are edits after the first, and none that has anything to do after the
second. -/
def recordings : List Edit :=
  [.add default .laser .first none, .remember .perceval "p", .addMode, .removeMode,
    .remember .perceval "q", .setModeCount 3, .remove ⟨1, by decide⟩]

/-- A circuit that was read with three modes remembers the second source. -/
theorem source_is_current_read : ∃ c, Circuit.read? "\x7b\"mode_count\": 3\x7d" = some c ∧
    (runAll recordings c).source = "q" ∧ SourceIsCurrent c recordings := by
  have hread : Circuit.read? "\x7b\"mode_count\": 3\x7d" = some (.withModes 3) := by decide +kernel
  exact ⟨.withModes 3, hread, by decide +kernel, source_is_current (.read hread) recordings⟩

end Edit

end OpticalBench
