import Mathlib.Data.List.Induction
import OpticalBench.Circuit.Codec
import OpticalBench.Proofs.Store.ChangeLog

/-!
# Edits in a row

What one edit can do to a circuit, said once for all edits, and what becomes of a circuit that is
edited again and again.

- `Circuit.ids`: the identifiers of the operations; an operation is addressed by one of them.
- `Circuit.Begins`: the circuits that there are before any edit.
- `Edit.IsIdle`: an edit that addresses no operation, or asks for the number of modes that there is.
- `Edit.run_cases`: an edit is idle, remembers a source, or leaves none.
- `Edit.runAll`: a circuit after edits, whether a store holds it or not.
-/

namespace OpticalBench

namespace Circuit

variable {c : Circuit} {id : Uuid}

/-- The identifiers of the operations, in the order in which they were placed. -/
def ids (c : Circuit) : List Uuid := c.operations.map (·.id)

theorem holds_iff : c.holds id = true ↔ id ∈ c.ids := by
  rw [holds, List.any_eq_true, ids, List.mem_map]
  constructor
  · rintro ⟨op, hop, heq⟩
    exact ⟨op, hop, beq_iff_eq.1 heq⟩
  · rintro ⟨op, hop, heq⟩
    exact ⟨op, hop, beq_iff_eq.2 heq⟩

theorem holds_eq_false (h : id ∉ c.ids) : c.holds id = false :=
  Bool.eq_false_iff.2 fun hholds => h (holds_iff.1 hholds)

/-- The circuits that there are before any edit: they were created, or read from a text. -/
inductive Begins : Circuit → Prop
  | created (n : Nat) : Begins (withModes n)
  | interferometer (laser splitter : Uuid) : Begins (interferometer laser splitter)
  | machZehnder (laser first shifter second : Uuid) (phase : Binary64) :
    Begins (machZehnder laser first shifter second phase)
  | read {s : String} {c : Circuit} (h : read? s = some c) : Begins c

/-- A text holds no source. -/
theorem source_of_read? {s : String} (h : read? s = some c) : c.source = "" := by
  obtain ⟨d, -, h⟩ := Option.bind_eq_some_iff.1 h
  obtain ⟨r, -, h⟩ := Option.bind_eq_some_iff.1 h
  obtain ⟨modes, -, h⟩ := Option.bind_eq_some_iff.1 h
  obtain ⟨operations, -, h⟩ := Option.bind_eq_some_iff.1 h
  rw [← Option.some.inj h]

theorem Begins.source_eq (h : c.Begins) : c.source = "" := by
  cases h with
  | created => rfl
  | interferometer => rfl
  | machZehnder => rfl
  | read h => exact source_of_read? h

end Circuit

namespace Edit

/-! ## One edit -/

/-- An edit that has nothing to do: no operation has the identifier that it names, or there are as
many modes as it would set. -/
def IsIdle (c : Circuit) : Edit → Prop
  | remove id | updateParameters id _ | move id _ _ => id ∉ c.ids
  | setModeCount n => c.modeCount = .clamp n
  | addMode => c.modeCount.toNat = 8
  | removeMode => c.modeCount.toNat = 1
  | add .. | addAt .. | clear | remember .. => False

variable {c : Circuit} {e : Edit}

theorem setModeCount_of_eq {n : Nat} (h : c.modeCount = .clamp n) : c.setModeCount n = c := if_pos h

/-- Nothing comes of an idle edit. -/
theorem IsIdle.run_eq (h : e.IsIdle c) : e.run c = c := by
  cases e with
  | add => exact h.elim
  | addAt => exact h.elim
  | clear => exact h.elim
  | remember => exact h.elim
  | remove id => exact if_neg (Bool.eq_false_iff.1 (Circuit.holds_eq_false h))
  | updateParameters id => exact if_neg (Bool.eq_false_iff.1 (Circuit.holds_eq_false h))
  | move id => exact if_neg (Bool.eq_false_iff.1 (Circuit.holds_eq_false h))
  | setModeCount n => exact setModeCount_of_eq h
  | addMode =>
    refine setModeCount_of_eq (ModeCount.ext ?_)
    replace h : c.modeCount.toNat = 8 := h
    rw [ModeCount.toNat_clamp]
    omega
  | removeMode =>
    refine setModeCount_of_eq (ModeCount.ext ?_)
    replace h : c.modeCount.toNat = 1 := h
    rw [ModeCount.toNat_clamp]
    omega

/-- Another number of modes leaves no source. -/
theorem source_setModeCount {n : Nat} (h : c.modeCount ≠ .clamp n) :
    (c.setModeCount n).source = "" := by
  rw [Circuit.setModeCount, if_neg h]

/-- A change of an operation leaves no source. -/
theorem source_change {id : Uuid} (h : id ∈ c.ids) (f : Operation → Operation) :
    (c.change id f).source = "" := by
  rw [Circuit.change, if_pos (Circuit.holds_iff.2 h)]

/-- An edit is idle, remembers a source, or leaves none. -/
theorem run_cases (e : Edit) (c : Circuit) :
    e.IsIdle c ∨ (∃ framework source, e = .remember framework source) ∨ (e.run c).source = "" := by
  by_cases hidle : e.IsIdle c
  · exact .inl hidle
  refine .inr ?_
  cases e with
  | add => exact .inr rfl
  | addAt => exact .inr rfl
  | clear => exact .inr rfl
  | remember framework source => exact .inl ⟨framework, source, rfl⟩
  | remove id =>
    refine .inr ?_
    show (c.remove id).source = ""
    rw [Circuit.remove, if_pos (Circuit.holds_iff.2 (not_not.1 hidle))]
  | updateParameters id => exact .inr (source_change (not_not.1 hidle) _)
  | move id => exact .inr (source_change (not_not.1 hidle) _)
  | setModeCount n => exact .inr (source_setModeCount hidle)
  | addMode =>
    refine .inr (source_setModeCount fun heq => hidle ?_)
    -- one mode more is as many modes only at the upper limit
    have hclamped := congrArg ModeCount.toNat heq
    have hle := c.modeCount.le_eight
    rw [ModeCount.toNat_clamp] at hclamped
    show c.modeCount.toNat = 8
    omega
  | removeMode =>
    refine .inr (source_setModeCount fun heq => hidle ?_)
    -- one mode less is as many modes only at the lower limit
    have hclamped := congrArg ModeCount.toNat heq
    have hle := c.modeCount.one_le
    rw [ModeCount.toNat_clamp] at hclamped
    show c.modeCount.toNat = 1
    omega

/-! ## Edits in a row -/

/-- A circuit after edits. -/
def runAll (edits : List Edit) (c : Circuit) : Circuit := edits.foldl (fun c e => e.run c) c

theorem runAll_append (edits more : List Edit) (c : Circuit) :
    runAll (edits ++ more) c = runAll more (runAll edits c) := List.foldl_append

theorem runAll_concat (edits : List Edit) (e : Edit) (c : Circuit) :
    runAll (edits ++ [e]) c = e.run (runAll edits c) := runAll_append ..

end Edit

/-- A store edits its circuit as the circuit is edited by itself. -/
theorem Store.circuit_applyAll (s : Store) (edits : List Edit) :
    (s.applyAll edits).circuit = Edit.runAll edits s.circuit := by
  induction edits generalizing s with
  | nil => rfl
  | cons e edits ih => rw [applyAll_cons, ih, circuit_apply, Edit.runAll, Edit.runAll,
      List.foldl_cons]

end OpticalBench
