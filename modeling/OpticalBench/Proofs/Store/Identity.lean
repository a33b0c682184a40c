import OpticalBench.Proofs.Store.Edits

/-!
# Identifiers identify

Every operation is addressed by its identifier. Edits that place operations under new identifiers
never repeat one, so in a circuit that began with different identifiers each of them stands for one
operation, whichever way the operation is addressed. A circuit that was read can begin otherwise: a
text may give one identifier to several operations, and then removing and changing do not address
the same operations.

- `Circuit.Addresses`: the one operation that an identifier stands for, and what is done to it.
- `Circuit.Identifies`: each identifier stands for one operation; `identifies_of_nodup` is the
  reason.
- `Edit.AreFresh`: every operation is placed under an identifier that no operation has.
- `Edit.count_ids_runAll_le`: edits do not repeat identifiers.
- `Edit.runAll_identifies`: a circuit that begins with different identifiers keeps them so.
- `Circuit.not_forall_nodup_of_read`: a circuit can begin with one identifier twice.
-/

namespace OpticalBench

namespace Circuit

variable {c : Circuit} {id : Uuid}

/-! ## Addressing an operation -/

/-- The identifier `id` stands for the operation `op`, which stands between `before` and `after`: it
is found, removed, given parameters and moved, and nothing else is. -/
structure Addresses (c : Circuit) (id : Uuid) (before : List Operation) (op : Operation)
    (after : List Operation) : Prop where
  operations_eq : c.operations = before ++ op :: after
  id_eq : op.id = id
  alone : ∀ other ∈ before ++ after, other.id ≠ id
  found : c.operation? id = some op
  removed : (c.remove id).operations = before ++ after
  updated : ∀ parameters, (c.updateParameters id parameters).operations =
    before ++ { op with parameters } :: after
  moved : ∀ mode position, (c.move id mode position).operations =
    before ++ { op with mode, position } :: after

/-- Each identifier stands for one operation, and to address any other identifier does nothing. -/
structure Identifies (c : Circuit) : Prop where
  nodup : c.ids.Nodup
  addressed : ∀ id, c.holds id = true → ∃ before op after, c.Addresses id before op after
  /-- One operation less is left if one is removed. -/
  removed_one : ∀ id, c.holds id = true →
    (c.remove id).operations.length + 1 = c.operations.length
  absent : ∀ id, c.holds id = false → c.operation? id = none ∧ c.remove id = c ∧
    (∀ parameters, c.updateParameters id parameters = c) ∧
      ∀ mode position, c.move id mode position = c

/-- The first element that satisfies a condition is the one before which there is none. -/
theorem changeFirst_append {α : Type} {p : α → Bool} {x : α} {before : List α}
    (hbefore : ∀ y ∈ before, p y = false) (hx : p x = true) (f : α → α) (after : List α) :
    changeFirst p f (before ++ x :: after) = before ++ f x :: after := by
  induction before with
  | nil => exact if_pos hx
  | cons y before ih =>
    have hy : p y = false := hbefore y List.mem_cons_self
    rw [List.cons_append, changeFirst, hy, if_neg Bool.false_ne_true,
      ih fun z hz => hbefore z (List.mem_cons_of_mem y hz), List.cons_append]

section Alone

variable {before after : List Operation} {op : Operation}
  (hoperations : c.operations = before ++ op :: after) (hid : op.id = id)

include hoperations hid

theorem holds_of_operations : c.holds id = true := by
  refine List.any_eq_true.2 ⟨op, ?_, beq_iff_eq.2 hid⟩
  rw [hoperations]
  exact List.mem_append_right before List.mem_cons_self

variable (halone : ∀ other ∈ before ++ after, other.id ≠ id)

include halone

theorem operations_change (f : Operation → Operation) :
    (c.change id f).operations = before ++ f op :: after := by
  have hbefore : ∀ other ∈ before, (other.id == id) = false := by
    intro other hmem
    exact beq_eq_false_iff_ne.2 (halone other (List.mem_append_left after hmem))
  rw [change, if_pos (holds_of_operations hoperations hid)]
  show changeFirst (fun other => other.id == id) f c.operations = _
  rw [hoperations]
  exact changeFirst_append hbefore (beq_iff_eq.2 hid) f after

theorem operation?_eq_some : c.operation? id = some op := by
  have hnone : before.find? (fun other => other.id == id) = none := by
    refine List.find?_eq_none.2 fun other hmem hmatch => ?_
    exact halone other (List.mem_append_left after hmem) (beq_iff_eq.1 hmatch)
  rw [operation?, hoperations, List.find?_append, hnone, Option.none_or]
  exact List.find?_cons_of_pos (beq_iff_eq.2 hid)

theorem operations_remove : (c.remove id).operations = before ++ after := by
  have hothers : (before ++ after).filter (fun other => other.id != id) = before ++ after :=
    List.filter_eq_self.2 fun other hmem => bne_iff_ne.2 (halone other hmem)
  have hdropped : (op :: after).filter (fun other => other.id != id) =
      after.filter fun other => other.id != id :=
    List.filter_cons_of_neg fun hkept => bne_iff_ne.1 hkept hid
  rw [remove, if_pos (holds_of_operations hoperations hid)]
  show c.operations.filter (fun other => other.id != id) = before ++ after
  rw [hoperations, List.filter_append, hdropped, ← List.filter_append, hothers]

/-- An operation whose identifier no other has is addressed by it. -/
theorem addresses_of_alone : c.Addresses id before op after where
  operations_eq := hoperations
  id_eq := hid
  alone := halone
  found := operation?_eq_some hoperations hid halone
  removed := operations_remove hoperations hid halone
  updated _ := operations_change hoperations hid halone _
  moved _ _ := operations_change hoperations hid halone _

end Alone

/-- In a list without repetitions what is looked at is different for all others. -/
theorem ne_of_nodup_map {α β : Type} {f : α → β} {before after : List α} {x : α}
    (h : ((before ++ x :: after).map f).Nodup) : ∀ y ∈ before ++ after, f y ≠ f x := by
  have hperm : (before ++ x :: after).Perm (x :: (before ++ after)) := List.perm_middle
  have hnodup := (hperm.map f).nodup_iff.1 h
  rw [List.map_cons, List.nodup_cons] at hnodup
  intro y hy heq
  exact hnodup.1 (heq ▸ List.mem_map_of_mem hy)

/-- Different identifiers identify. -/
theorem identifies_of_nodup (h : c.ids.Nodup) : Identifies c := by
  have haddressed : ∀ id, c.holds id = true →
      ∃ before op after, c.Addresses id before op after := by
    intro id hholds
    obtain ⟨op, hop, hid⟩ := List.mem_map.1 (holds_iff.1 hholds)
    obtain ⟨before, after, hoperations⟩ := List.append_of_mem hop
    refine ⟨before, op, after, addresses_of_alone hoperations hid ?_⟩
    rw [ids, hoperations] at h
    intro other hother
    rw [← hid]
    exact ne_of_nodup_map h other hother
  refine ⟨h, haddressed, ?_, ?_⟩
  · intro id hholds
    obtain ⟨before, op, after, haddresses⟩ := haddressed id hholds
    rw [haddresses.removed, haddresses.operations_eq, List.length_append, List.length_append,
      List.length_cons]
    omega
  · intro id habsent
    have hnot : ¬c.holds id = true := Bool.eq_false_iff.1 habsent
    refine ⟨?_, if_neg hnot, fun parameters => if_neg hnot, fun mode position => if_neg hnot⟩
    refine List.find?_eq_none.2 fun op hop hmatch => hnot ?_
    exact List.any_eq_true.2 ⟨op, hop, hmatch⟩

end Circuit

namespace Edit

variable {c : Circuit}

/-! ## Edits do not repeat identifiers -/

/-- An operation is placed under an identifier that no operation has. -/
def IsFresh (c : Circuit) : Edit → Prop
  | add id .. | addAt id .. => id ∉ c.ids
  | _ => True

/-- Whenever an operation is placed, no operation has its identifier. -/
def AreFresh (c : Circuit) : List Edit → Prop
  | [] => True
  | e :: edits => e.IsFresh c ∧ AreFresh (e.run c) edits

instance (c : Circuit) (e : Edit) : Decidable (e.IsFresh c) := by
  unfold IsFresh
  cases e <;> infer_instance

instance decidableAreFresh : ∀ (c : Circuit) (edits : List Edit), Decidable (AreFresh c edits)
  | _, [] => isTrue trivial
  | c, e :: edits =>
    have := decidableAreFresh (e.run c) edits
    inferInstanceAs (Decidable (_ ∧ _))

theorem ids_addAt (c : Circuit) (id : Uuid) (element : Element) (mode : Mode)
    (position : Binary64) (parameters : Option Parameters) :
    (c.addAt id element mode position parameters).ids = c.ids ++ [id] := by
  rw [Circuit.addAt, Circuit.ids, List.map_append]
  rfl

theorem ids_change (c : Circuit) (id : Uuid) {f : Operation → Operation}
    (keeps : ∀ op, (f op).id = op.id) : (c.change id f).ids = c.ids := by
  rw [Circuit.change]
  by_cases hholds : c.holds id = true
  · rw [if_pos hholds]
    exact Circuit.map_changeFirst keeps c.operations
  · rw [if_neg hholds]

theorem ids_remove_sublist (c : Circuit) (id : Uuid) : (c.remove id).ids.Sublist c.ids := by
  unfold Circuit.remove
  split
  · exact List.filter_sublist.map _
  · exact List.Sublist.refl _

theorem ids_setModeCount (c : Circuit) (n : Nat) : (c.setModeCount n).ids = c.ids := by
  rw [Circuit.setModeCount]
  by_cases hsame : c.modeCount = .clamp n
  · rw [if_pos hsame]
  · rw [if_neg hsame]
    rfl

/-- An edit adds a new identifier at the end, or no identifier. -/
theorem ids_run {e : Edit} (h : e.IsFresh c) :
    (∃ id ∉ c.ids, (e.run c).ids = c.ids ++ [id]) ∨ (e.run c).ids.Sublist c.ids := by
  have hkept : (e.run c).ids = c.ids →
      (∃ id ∉ c.ids, (e.run c).ids = c.ids ++ [id]) ∨ (e.run c).ids.Sublist c.ids := by
    intro hids
    rw [hids]
    exact .inr (List.Sublist.refl _)
  cases e with
  | add id => exact .inl ⟨id, h, ids_addAt ..⟩
  | addAt id => exact .inl ⟨id, h, ids_addAt ..⟩
  | remove id => exact .inr (ids_remove_sublist c id)
  | updateParameters id => exact hkept (ids_change c id fun _ => rfl)
  | move id => exact hkept (ids_change c id fun _ => rfl)
  | setModeCount n => exact hkept (ids_setModeCount c n)
  | addMode => exact hkept (ids_setModeCount c _)
  | removeMode => exact hkept (ids_setModeCount c _)
  | clear => exact .inr (List.nil_sublist _)
  | remember => exact hkept rfl

/-- An edit gives an identifier to one operation at most, if it gives it to one more at all. -/
theorem count_ids_run_le {e : Edit} (h : e.IsFresh c) (id : Uuid) :
    (e.run c).ids.count id ≤ max 1 (c.ids.count id) := by
  rcases ids_run h with ⟨new, hnew, hids⟩ | hids
  · rw [hids, List.count_append]
    by_cases heq : new = id
    · subst heq
      have hzero : c.ids.count new = 0 := List.count_eq_zero.2 hnew
      have hone : [new].count new = 1 := List.count_singleton_self
      omega
    · have hzero : [new].count id = 0 := List.count_eq_zero.2 fun hmem =>
        heq (List.mem_singleton.1 hmem).symm
      omega
  · have hle := hids.count_le id
    omega

/-- Edits do not repeat identifiers: only one that was there several times can be there several
times afterwards. -/
theorem count_ids_runAll_le {edits : List Edit} (h : AreFresh c edits) (id : Uuid) :
    (runAll edits c).ids.count id ≤ max 1 (c.ids.count id) := by
  induction edits generalizing c with
  | nil => exact Nat.le_max_right 1 _
  | cons e edits ih =>
    obtain ⟨hfresh, hrest⟩ := h
    have hstep := count_ids_run_le hfresh id
    have hrun : (runAll edits (e.run c)).ids.count id ≤ max 1 ((e.run c).ids.count id) := ih hrest
    show (runAll edits (e.run c)).ids.count id ≤ _
    omega

/-- **Identifiers identify**, whatever edits there are, if and only if they were different at first:
in a circuit without operations, or read from a text that gives each operation its own. In every
other circuit no identifier is repeated that was not repeated at first. -/
theorem runAll_identifies (c : Circuit) :
    ((∀ edits, AreFresh c edits → (runAll edits c).Identifies) ↔ c.ids.Nodup) ∧
      ∀ edits, AreFresh c edits → ∀ id, (runAll edits c).ids.count id ≤ max 1 (c.ids.count id) := by
  refine ⟨⟨fun h => (h [] trivial).nodup, ?_⟩, fun _ => count_ids_runAll_le⟩
  intro hnodup edits hfresh
  refine Circuit.identifies_of_nodup ?_
  rw [List.nodup_iff_count] at hnodup ⊢
  intro id
  have hfirst := hnodup id
  have hrun := count_ids_runAll_le hfresh id
  omega

/-- An interferometer and its two identifiers. -/
def twoIdentifiers : Circuit := .interferometer default ⟨2, by decide⟩

/-- An operation is removed, and its identifier is given anew. -/
def givingAnew : List Edit := [.remove default, .add default .kerrGate .first none, .addMode]

theorem runAll_identifies_interferometer :
    AreFresh twoIdentifiers givingAnew ∧ (runAll givingAnew twoIdentifiers).Identifies := by
  have hfresh : AreFresh twoIdentifiers givingAnew := by decide +kernel
  have hnodup : twoIdentifiers.ids.Nodup := by decide +kernel
  exact ⟨hfresh, (runAll_identifies twoIdentifiers).1.2 hnodup givingAnew hfresh⟩

end Edit

namespace Circuit

/-- Two lasers under one identifier. -/
def repeatedText : String :=
  "[2,[[\"00000000000000000000000000000000\",\"laser\",0,0,\x7b\x7d]," ++
    "[\"00000000000000000000000000000000\",\"laser\",0,0,\x7b\x7d]]]"

/-- A text is read that repeats an identifier: then removing by it removes two operations, and
changing by it changes one. -/
theorem not_forall_nodup_of_read : ∃ c, read? repeatedText = some c ∧ ¬c.ids.Nodup ∧
    (c.remove default).operations.length + 2 = c.operations.length ∧
      ∃ first second, c.operations = [first, second] ∧ ∀ parameters,
        (c.updateParameters default parameters).operations =
          [{ first with parameters }, second] := by
  let laser : Operation := ⟨default, .laser, .first, .zero false, .ofList []⟩
  have hread : read? repeatedText = some ⟨.clamp 2, [laser, laser], ""⟩ := by decide +kernel
  exact ⟨_, hread, by decide, rfl, laser, laser, rfl, fun _ => rfl⟩

end Circuit

end OpticalBench
