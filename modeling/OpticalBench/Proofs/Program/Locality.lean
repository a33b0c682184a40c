import OpticalBench.Proofs.Program.Engine
import OpticalBench.Proofs.Program.Meaning
import OpticalBench.Proofs.Program.StatementOrder
import OpticalBench.Proofs.Store.Identity

/-!
# Edits are local

Who places one operation more finds its rows in the program and all others as they were: nothing that
is written for an operation depends on its neighbours, on their number or on how many there are. Only
the engine can change besides, when the first Kerr gate comes. New parameters change the statement of
their operation and nothing else.

- `Circuit.insertAll`, `Circuit.insertAt`: a circuit with operations inserted somewhere.
- `Operation.Alike`: operations that differ in identifiers and parameters only.
- `firstLines`, `secondLines`: what each pass writes for an operation.
- `exists_onMode_insertAll`: operations that are alike and come together stand together on their mode.
- `exists_plan_slot`: so does what is written for them, and the lines around do not depend on them.
- `account_of_alike`: operations that are alike are written as the same remark.
- `Written`, `Restated`: the rows of an operation, and what new parameters make of them.
- `Inserts`, `InsertsAndSwitches`, `Replaces`: what an edit does to the rows of a program.
- `LocalEdits`: what it means that edits are local; `generate_localEdits` shows that they are.
-/

namespace OpticalBench

/-! ## Insertion -/

/-- Operations that differ in identifiers and parameters only. -/
structure Operation.Alike (a b : Operation) : Prop where
  element : a.element = b.element
  mode : a.mode = b.mode
  position : a.position = b.position

theorem Operation.Alike.refl (op : Operation) : op.Alike op := ⟨rfl, rfl, rfl⟩

/-- New parameters do not make an operation unlike. -/
theorem Operation.alike_with (op : Operation) (parameters : Parameters) :
    Operation.Alike { op with parameters } op := ⟨rfl, rfl, rfl⟩

namespace Circuit

variable {c : Circuit} {i m : Nat} {op : Operation} {ops : List Operation}

/-- A circuit with operations inserted at an index, or at the end if there is no such index. -/
def insertAll (c : Circuit) (i : Nat) (ops : List Operation) : Circuit :=
  { c with operations := c.operations.take i ++ ops ++ c.operations.drop i, source := "" }

/-- A circuit with an operation inserted at an index, or at the end if there is no such index. -/
def insertAt (c : Circuit) (i : Nat) (op : Operation) : Circuit := c.insertAll i [op]

theorem insertAll_nil (c : Circuit) (i : Nat) : c.insertAll i [] = { c with source := "" } := by
  rw [insertAll, List.append_nil, List.take_append_drop]

/-- Removing the operation again leaves the circuit as it was. -/
theorem remove_insertAt (h : c.holds op.id = false) (i : Nat) :
    (c.insertAt i op).remove op.id = { c with source := "" } := by
  have hothers : ∀ other ∈ c.operations.take i ++ c.operations.drop i, other.id ≠ op.id := by
    intro other hother
    rw [List.take_append_drop] at hother
    simpa using List.any_eq_false.1 h other hother
  have hoperations : (c.insertAt i op).operations =
      c.operations.take i ++ op :: c.operations.drop i := by
    rw [insertAt, insertAll, List.append_assoc]
    rfl
  have hremoved := operations_remove hoperations rfl hothers
  rw [List.take_append_drop] at hremoved
  have hholds := holds_of_operations hoperations rfl
  rw [remove, if_pos hholds] at hremoved ⊢
  exact congrArg (fun ops => { c with operations := ops, source := "" }) hremoved

/-- Other modes do not see the operations. -/
theorem onMode_insertAll_of_ne (hops : ∀ o ∈ ops, o.Alike op) (hm : m ≠ op.mode.index) (i : Nat) :
    (c.insertAll i ops).onMode m = c.onMode m := by
  have hnone : (ops.filter fun o => o.mode.index == m) = [] := by
    refine List.filter_eq_nil_iff.2 fun o ho hmode => hm ?_
    rw [← (hops o ho).mode, beq_iff_eq.1 hmode]
  rw [onMode, insertAll, List.filter_append, List.filter_append, hnone, List.append_nil,
    ← List.filter_append, List.take_append_drop]
  rfl

/-- On their mode they stand together, and what stands around them does not depend on them. -/
theorem exists_onMode_insertAll (c : Circuit) (i : Nat) (op : Operation) :
    ∃ before after, ∀ ops : List Operation, (∀ o ∈ ops, o.Alike op) →
      (c.insertAll i ops).onMode op.mode.index = before ++ ops ++ after := by
  obtain ⟨before, after, hsort⟩ := exists_stableSort_append (fun o => o.position.rank)
    op.position.rank ((c.operations.take i).filter fun o => o.mode.index == op.mode.index)
    ((c.operations.drop i).filter fun o => o.mode.index == op.mode.index)
  refine ⟨before, after, fun ops hops => ?_⟩
  have hall : (ops.filter fun o => o.mode.index == op.mode.index) = ops :=
    List.filter_eq_self.2 fun o ho => by rw [(hops o ho).mode, beq_self_eq_true]
  rw [onMode, insertAll, List.filter_append, List.filter_append, hall]
  exact hsort ops fun o ho => by rw [(hops o ho).position]

end Circuit

/-! ## What is written for inserted operations -/

namespace Program

open Line

variable {f : Framework} {c : Circuit} {i : Nat} {op : Operation}

/-- What a pass makes of operations that come together stands together. -/
theorem exists_pass_slot (pass : Nat → Operation → Option Item) (i : Nat)
    (hlive : c.containsMode op.mode = true) :
    ∃ front back, ∀ ops : List Operation, (∀ o ∈ ops, o.Alike op) →
      (c.modeCount.modes.flatMap fun m => ((c.insertAll i ops).onMode m).filterMap (pass m)) =
        front ++ ops.filterMap (fun o => pass o.mode.index o) ++ back := by
  obtain ⟨before, after, honMode⟩ := c.exists_onMode_insertAll i op
  have hmode : op.mode.index ∈ c.modeCount.modes := List.mem_range.2 (of_decide_eq_true hlive)
  obtain ⟨lower, upper, hmodes⟩ := List.append_of_mem hmode
  have hnodup : (lower ++ op.mode.index :: upper).Nodup := hmodes ▸ List.nodup_range
  obtain ⟨hlower, hupper⟩ := not_or.1 (mt List.mem_append.2 (List.nodup_middle.1 hnodup).notMem)
  -- the modes to the left and to the right do not see the operations
  refine ⟨(lower.flatMap fun m => (c.onMode m).filterMap (pass m)) ++
      before.filterMap (pass op.mode.index),
    after.filterMap (pass op.mode.index) ++ upper.flatMap fun m => (c.onMode m).filterMap (pass m),
    fun ops hops => ?_⟩
  have hothers : ∀ modes : List Nat, op.mode.index ∉ modes →
      (modes.flatMap fun m => ((c.insertAll i ops).onMode m).filterMap (pass m)) =
        modes.flatMap fun m => (c.onMode m).filterMap (pass m) := by
    intro modes hmodes
    refine List.flatMap_congr fun m hm => ?_
    rw [Circuit.onMode_insertAll_of_ne hops (ne_of_mem_of_not_mem hm hmodes)]
  have hown : ops.filterMap (pass op.mode.index) = ops.filterMap fun o => pass o.mode.index o :=
    List.filterMap_congr fun o ho => by rw [(hops o ho).mode]
  rw [hmodes, List.flatMap_append, List.flatMap_cons, hothers lower hlower, hothers upper hupper,
    honMode ops hops, List.filterMap_append, List.filterMap_append, hown]
  simp only [List.append_assoc]

/-- What the first pass writes for an operation. -/
def firstLines (f : Framework) (op : Operation) : List Line :=
  (Item.firstPass? f op.mode.index op).toList.flatMap (Item.lines f)

/-- What the second pass writes for an operation. -/
def secondLines (f : Framework) (count : Nat) (op : Operation) : List Line :=
  (Item.secondPass? f count op.mode.index op).toList.flatMap (Item.lines f)

theorem account_eq_append (f : Framework) (count : Nat) (op : Operation) :
    account f count op = firstLines f op ++ secondLines f count op := List.flatMap_append ..

/-- Which pass handles an operation is seen from its element. -/
theorem firstLines_eq_nil (supported : op.element.supportedBy f = true)
    (arity : op.element.arity = .dual) : firstLines f op = [] := by
  have hnone : Item.firstPass? f op.mode.index op = none := by
    rw [← Option.not_isSome_iff_eq_none, firstPass?_isSome_iff, supported, arity]
    simp
  rw [firstLines, hnone]
  rfl

theorem secondLines_eq_nil
    (h : ¬(op.element.supportedBy f = true ∧ op.element.arity = .dual)) (count : Nat) :
    secondLines f count op = [] := by
  have hnone : Item.secondPass? f count op.mode.index op = none := by
    rw [← Option.not_isSome_iff_eq_none, secondPass?_isSome_iff]
    exact h
  rw [secondLines, hnone]
  rfl

/-- The lines of collected items, one element after the other. -/
theorem flatMap_lines_filterMap (item? : Operation → Option Item) (ops : List Operation) :
    (ops.filterMap item?).flatMap (Item.lines f) =
      ops.flatMap fun o => (item? o).toList.flatMap (Item.lines f) := by
  rw [List.filterMap_eq_flatMap_toList, List.flatMap_assoc]

/-- Each pass writes what it makes of them in one place. -/
theorem exists_passes_slot (f : Framework) (i : Nat) (hlive : c.containsMode op.mode = true) :
    ∃ front middle back : List Line, ∀ ops : List Operation, (∀ o ∈ ops, o.Alike op) →
      (Item.plan f (c.insertAll i ops)).flatMap (Item.lines f) =
        front ++ ops.flatMap (firstLines f) ++ middle ++
          ops.flatMap (secondLines f c.modeCount.toNat) ++ back := by
  obtain ⟨front, middle, hfirst⟩ := exists_pass_slot (Item.firstPass? f) i hlive
  obtain ⟨middle', back, hsecond⟩ :=
    exists_pass_slot (Item.secondPass? f c.modeCount.toNat) i hlive
  refine ⟨front.flatMap (Item.lines f), (middle ++ middle').flatMap (Item.lines f),
    back.flatMap (Item.lines f), fun ops hops => ?_⟩
  have hplan : Item.plan f (c.insertAll i ops) = _ :=
    congrArg₂ (· ++ ·) (hfirst ops hops) (hsecond ops hops)
  rw [hplan]
  simp only [List.flatMap_append, flatMap_lines_filterMap, List.append_assoc]
  rfl

/-- What is written for operations that are alike and come together stands together, and the lines
around them do not depend on them. -/
theorem exists_plan_slot (f : Framework) (i : Nat) (hlive : c.containsMode op.mode = true) :
    ∃ front back : List Line, ∀ ops : List Operation, (∀ o ∈ ops, o.Alike op) →
      (Item.plan f (c.insertAll i ops)).flatMap (Item.lines f) =
        front ++ ops.flatMap (account f c.modeCount.toNat) ++ back := by
  obtain ⟨front, middle, back, hplan⟩ := exists_passes_slot f i hlive
  by_cases hdual : op.element.supportedBy f = true ∧ op.element.arity = .dual
  · refine ⟨front ++ middle, back, fun ops hops => ?_⟩
    have hfirst : ∀ o ∈ ops, firstLines f o = [] := fun o ho =>
      firstLines_eq_nil ((hops o ho).element ▸ hdual.1) ((hops o ho).element ▸ hdual.2)
    have haccount : ops.flatMap (account f c.modeCount.toNat) =
        ops.flatMap (secondLines f c.modeCount.toNat) :=
      List.flatMap_congr fun o ho => by rw [account_eq_append, hfirst o ho, List.nil_append]
    rw [hplan ops hops, haccount, List.flatMap_eq_nil_iff.2 hfirst, List.append_nil]
  · refine ⟨front, middle ++ back, fun ops hops => ?_⟩
    have hsecond : ∀ o ∈ ops, secondLines f c.modeCount.toNat o = [] := fun o ho =>
      secondLines_eq_nil ((hops o ho).element ▸ hdual) _
    have haccount : ops.flatMap (account f c.modeCount.toNat) = ops.flatMap (firstLines f) :=
      List.flatMap_congr fun o ho => by rw [account_eq_append, hsecond o ho, List.append_nil]
    rw [hplan ops hops, haccount, List.flatMap_eq_nil_iff.2 hsecond, List.append_nil,
      List.append_assoc]

/-! ## What edits do to a program -/

/-- The rows that are written for an operation: those of what has to be said about it if it is on a mode
of the circuit, and none if it is dormant. -/
inductive Written (f : Framework) (c : Circuit) (op : Operation) : List (List Char) → Prop
  | live {ls : List Line} (live : c.containsMode op.mode = true)
    (accounts : Accounts f c.modeCount.toNat op ls) : Written f c op (ls.map (row (bodyDepth f)))
  | dormant (dormant : c.containsMode op.mode = false) : Written f c op []

/-- What new parameters make of the rows of an operation: at most the statement is another. -/
inductive Restated (f : Framework) (count : Nat) (op op' : Operation) :
    List (List Char) → List (List Char) → Prop
  | unchanged (block : List (List Char)) : Restated f count op op' block block
  | statement {remark s s' : String} (old : statement? f count op = some s)
    (new : statement? f count op' = some s') : Restated f count op op'
      [row (bodyDepth f) (.comment remark), row (bodyDepth f) (.statement s)]
      [row (bodyDepth f) (.comment remark), row (bodyDepth f) (.statement s')]

/-- The operation is the first Kerr gate on the modes of the circuit. -/
structure SwitchesEngine (c : Circuit) (op : Operation) : Prop where
  element : op.element = .kerrGate
  live : c.containsMode op.mode = true
  first : ∀ other ∈ c.operations, c.containsMode other.mode = true → other.element ≠ .kerrGate

/-- The rows that create the engine. -/
def engineRows (fock : Bool) : List (List Char) := (StrawberryFields.engine fock).map characters

/-- A block of rows is inserted, and the other rows stay as they are. -/
def Inserts (block : List (List Char)) (s t : String) : Prop :=
  ∃ above below, Text.rows s = above ++ below ∧ Text.rows t = above ++ block ++ below

/-- A block of rows is inserted, and above it the Gaussian engine becomes the Fock engine. -/
def InsertsAndSwitches (block : List (List Char)) (s t : String) : Prop :=
  ∃ head above below, Text.rows s = head ++ engineRows false ++ (above ++ below) ∧
    Text.rows t = head ++ engineRows true ++ (above ++ block ++ below)

/-- A block of rows takes the place of another, and the other rows stay as they are. -/
def Replaces (block block' : List (List Char)) (s t : String) : Prop :=
  ∃ above below, Text.rows s = above ++ block ++ below ∧ Text.rows t = above ++ block' ++ below

/-- What it means that edits of a circuit are local in its programs. -/
structure LocalEdits (f : Framework) (c : Circuit) (shots : Nat) : Prop where
  /-- The circuit is what is left when an inserted operation is removed. -/
  removed : ∀ i op, c.holds op.id = false →
    (c.insertAt i op).remove op.id = { c with source := "" }
  inserted : ∀ i op, ¬(f = .strawberryFields ∧ SwitchesEngine c op) →
    ∃ block, Written f c op block ∧
      Inserts block (generate c f shots) (generate (c.insertAt i op) f shots)
  switched : ∀ i op, f = .strawberryFields ∧ SwitchesEngine c op →
    ∃ block, Written f c op block ∧
      InsertsAndSwitches block (generate c f shots) (generate (c.insertAt i op) f shots)
  updated : ∀ id parameters,
    c.operation? id = none ∧ c.updateParameters id parameters = c ∨
    ∃ op, c.operation? id = some op ∧ ∃ block block', Written f c op block ∧
      Written f c { op with parameters } block' ∧
      Restated f c.modeCount.toNat op { op with parameters } block block' ∧
      Replaces block block' (generate c f shots)
        (generate (c.updateParameters id parameters) f shots)

/-! ## Rows of a program -/

/-- The rows of operations that are alike and come together stand together, and apart from the
preamble the rows around them do not depend on them. -/
theorem exists_rows_slot (f : Framework) (i shots : Nat) (hlive : c.containsMode op.mode = true) :
    ∃ above below, ∀ ops : List Operation, (∀ o ∈ ops, o.Alike op) →
      Text.rows (generate (c.insertAll i ops) f shots) =
        (preamble f c.modeCount.toNat (hasKerr (c.insertAll i ops))).map characters ++
          (above ++ (ops.flatMap (account f c.modeCount.toNat)).map (row (bodyDepth f)) ++ below) := by
  obtain ⟨front, back, hplan⟩ := exists_plan_slot f i hlive
  refine ⟨front.map (row (bodyDepth f)), back.map (row (bodyDepth f)) ++
    (row (bodyDepth f) (.comment "Measurements") ::
      (List.range c.modeCount.toNat).map (fun mode => (measurementRow f mode).toList) ++
        rowsAfter f c.modeCount.toNat shots), fun ops hops => ?_⟩
  rw [rows_generate, rowsBefore, hplan ops hops, List.map_append, List.map_append]
  simp only [List.append_assoc, List.cons_append, List.nil_append]
  rfl

/-- So do the rows of one operation. -/
theorem exists_insertAt_slot (f : Framework) (i shots : Nat) (hlive : c.containsMode op.mode = true) :
    ∃ above below,
      Text.rows (generate c f shots) =
        (preamble f c.modeCount.toNat (hasKerr c)).map characters ++ (above ++ below) ∧
      ∀ o : Operation, o.Alike op → Text.rows (generate (c.insertAt i o) f shots) =
        (preamble f c.modeCount.toNat (hasKerr (c.insertAt i o))).map characters ++
          (above ++ (account f c.modeCount.toNat o).map (row (bodyDepth f)) ++ below) := by
  obtain ⟨above, below, hrows⟩ := exists_rows_slot f i shots hlive
  refine ⟨above, below, ?_, fun o ho => ?_⟩
  · have hnone := hrows [] (List.forall_mem_nil _)
    rw [c.insertAll_nil i, List.flatMap_nil, List.map_nil, List.append_nil] at hnone
    exact hnone
  · have hone := hrows [o] (List.forall_mem_singleton.2 ho)
    rw [List.flatMap_singleton] at hone
    exact hone

theorem written_account (hlive : c.containsMode op.mode = true) :
    Written f c op ((account f c.modeCount.toNat op).map (row (bodyDepth f))) :=
  .live hlive (accounts_account f _ op)

/-! ## Engines and dormant operations -/

theorem mem_insertAll {ops : List Operation} {o : Operation} :
    o ∈ (c.insertAll i ops).operations ↔ o ∈ c.operations ∨ o ∈ ops := by
  have hmem : o ∈ c.operations ↔ o ∈ c.operations.take i ∨ o ∈ c.operations.drop i := by
    rw [← List.mem_append, List.take_append_drop]
  rw [Circuit.insertAll, List.mem_append, List.mem_append, hmem, or_right_comm]

theorem hasKerr_insertAll {ops : List Operation} : hasKerr (c.insertAll i ops) = true ↔
    hasKerr c = true ∨ ∃ o ∈ ops, c.containsMode o.mode = true ∧ o.element = .kerrGate := by
  simp only [hasKerr_iff_exists_live, mem_insertAll, or_and_right, exists_or]
  rfl

/-- A dormant operation does not take part in a program. -/
theorem generate_insertAt_dormant (h : c.containsMode op.mode = false) (i : Nat) (f : Framework)
    (shots : Nat) : generate (c.insertAt i op) f shots = generate c f shots := by
  have hnone : [op].filter c.isActive = [] :=
    List.filter_cons_of_neg (by rw [Circuit.isActive, h]; exact Bool.false_ne_true)
  have hactive : (c.operations.take i ++ [op] ++ c.operations.drop i).filter c.isActive =
      c.operations.filter c.isActive := by
    rw [List.filter_append, List.filter_append, hnone, List.append_nil, ← List.filter_append,
      List.take_append_drop]
  have hsame : (c.insertAt i op).SameActive c := ⟨rfl, hactive⟩
  exact generate_congr hsame.sameMeaning f shots

/-- The preamble stays as it is, unless the engine is another. -/
theorem preamble_insertAt (h : ¬(f = .strawberryFields ∧ SwitchesEngine c op))
    (hlive : c.containsMode op.mode = true) (i : Nat) :
    preamble f c.modeCount.toNat (hasKerr (c.insertAt i op)) =
      preamble f c.modeCount.toNat (hasKerr c) := by
  cases f with
  | perceval => rfl
  | strawberryFields =>
    have hkerr : hasKerr (c.insertAt i op) = hasKerr c := by
      rw [Bool.eq_iff_iff, Circuit.insertAt, hasKerr_insertAll, or_iff_left_iff_imp]
      rintro ⟨o, ho, -, helement⟩
      obtain rfl := List.mem_singleton.1 ho
      by_contra hnone
      rw [hasKerr_iff_exists_live] at hnone
      refine h ⟨rfl, helement, hlive, fun other hother hlive hkerr => ?_⟩
      exact hnone ⟨other, hother, hlive, hkerr⟩
    rw [hkerr]

/-- With the first Kerr gate the engine becomes another. -/
theorem hasKerr_insertAt (h : SwitchesEngine c op) (i : Nat) :
    hasKerr c = false ∧ hasKerr (c.insertAt i op) = true := by
  constructor
  · rw [← Bool.not_eq_true, hasKerr_iff_exists_live]
    rintro ⟨other, hother, hlive, hkerr⟩
    exact h.first other hother hlive hkerr
  · rw [Circuit.insertAt, hasKerr_insertAll]
    exact .inr ⟨op, List.mem_singleton.2 rfl, h.live, h.element⟩

theorem exists_preamble_engine (count : Nat) : ∃ head tail, ∀ fock,
    (preamble .strawberryFields count fock).map characters = head ++ engineRows fock ++ tail := by
  refine ⟨((preamble .strawberryFields count false).take 9).map characters,
    ((preamble .strawberryFields count false).drop 11).map characters, fun fock => ?_⟩
  cases fock <;> rfl

/-! ## New parameters -/

/-- Operations that are alike are written alike, or as one remark with a statement each. -/
theorem account_of_alike (f : Framework) (count : Nat) (op : Operation) :
    (∀ o : Operation, o.Alike op → account f count o = account f count op) ∨
      ∃ remark, ∀ o : Operation, o.Alike op → ∃ s, statement? f count o = some s ∧
        account f count o = [.comment remark, .statement s] := by
  cases hs : op.element.supportedBy f with
  | false =>
    refine .inl fun o ho => ?_
    simp [account, Item.firstPass?, Item.secondPass?, ho.element, ho.mode, hs]
  | true =>
    cases ha : op.element.arity with
    | single =>
      have hd : op.element.isDual = false := isDual_eq_false_iff.2 ha
      by_cases hm : op.element = .measure
      · refine .inl fun o ho => ?_
        simp [account, Item.firstPass?, Item.secondPass?, ho.element, hs, hd, isMeasurement_iff.2 hm]
      · have hm' : op.element.isMeasurement = false := by simpa [Element.isMeasurement] using hm
        obtain ⟨text⟩ := exists_singleText hs ha hm
        refine .inr ⟨singleRemark f op.element, fun o ho => ⟨singleStatement f
          ⟨singleRemark f op.element, call text.function (text.pass o.arguments)⟩ o.mode.index, ?_, ?_⟩⟩
        · rw [statement?, ho.element, if_neg (by simp [hd]), text.gate, Option.map_some]
        · simp [account, Item.firstPass?, Item.secondPass?, ho.element, hs, hd, hm', Item.lines,
            text.lines]
    | dual =>
      have hd : op.element.isDual = true := isDual_iff.2 ha
      by_cases hnext : op.mode.index + 1 < count
      · obtain ⟨text⟩ := exists_dualText hs ha
        obtain ⟨remark, hgate⟩ : ∃ remark, ∀ xs,
            dualGate? f op.element xs op.mode.index (op.mode.index + 1) =
              some ⟨remark, call text.function (text.pass xs)⟩ := ⟨_, fun xs => text.gate xs _ _⟩
        refine .inr ⟨remark, fun o ho => ⟨dualStatement f
          ⟨remark, call text.function (text.pass o.arguments)⟩ op.mode.index (op.mode.index + 1),
          ?_, ?_⟩⟩
        · rw [statement?, ho.element, ho.mode, if_pos hd, if_pos hnext, hgate, Option.map_some]
        · simp [account, Item.firstPass?, Item.secondPass?, ho.element, ho.mode, hs, hd, hnext,
            Item.lines, dual, hgate]
      · refine .inl fun o ho => ?_
        simp [account, Item.firstPass?, Item.secondPass?, ho.element, ho.mode, hs, hd, hnext]

theorem restated_account {o : Operation} (h : o.Alike op) (f : Framework) (count : Nat) :
    Restated f count op o ((account f count op).map (row (bodyDepth f)))
      ((account f count o).map (row (bodyDepth f))) := by
  rcases account_of_alike f count op with hsame | ⟨remark, hstatement⟩
  · rw [hsame o h]
    exact .unchanged _
  · obtain ⟨s, hs, haccount⟩ := hstatement op ⟨rfl, rfl, rfl⟩
    obtain ⟨s', hs', haccount'⟩ := hstatement o h
    rw [haccount, haccount']
    exact .statement hs hs'

/-- In the place of an operation, one that is alike changes at most the statement. -/
theorem replaces_insertAt {o : Operation} (h : o.Alike op) (c : Circuit) (i : Nat) (f : Framework)
    (shots : Nat) : ∃ block block', Written f c op block ∧ Written f c o block' ∧
      Restated f c.modeCount.toNat op o block block' ∧
      Replaces block block' (generate (c.insertAt i op) f shots)
        (generate (c.insertAt i o) f shots) := by
  have hmode : c.containsMode o.mode = c.containsMode op.mode := by rw [h.mode]
  cases hlive : c.containsMode op.mode with
  | false =>
    rw [hlive] at hmode
    rw [generate_insertAt_dormant hlive, generate_insertAt_dormant hmode]
    exact ⟨[], [], .dormant hlive, .dormant hmode, .unchanged _, Text.rows (generate c f shots), [],
      by simp, by simp⟩
  | true =>
    rw [hlive] at hmode
    obtain ⟨above, below, -, hrows⟩ := exists_insertAt_slot f i shots hlive
    have hkerr : hasKerr (c.insertAt i o) = hasKerr (c.insertAt i op) := by
      rw [Bool.eq_iff_iff, Circuit.insertAt, Circuit.insertAt, hasKerr_insertAll, hasKerr_insertAll]
      simp only [List.mem_singleton, exists_eq_left, hmode, hlive, h.element]
    refine ⟨_, _, written_account hlive, written_account hmode, restated_account h f _,
      (preamble f c.modeCount.toNat (hasKerr (c.insertAt i op))).map characters ++ above, below, ?_, ?_⟩
    · rw [hrows op (.refl op)]
      simp only [List.append_assoc]
    · rw [hrows o h, hkerr]
      simp only [List.append_assoc]

/-- What is written for an operation does not depend on the others. -/
theorem Written.congr {d : Circuit} {block : List (List Char)} (h : Written f d op block)
    (hcount : d.modeCount = c.modeCount) : Written f c op block := by
  have hmode : d.containsMode op.mode = c.containsMode op.mode := by
    rw [Circuit.containsMode, Circuit.containsMode, hcount]
  cases h with
  | live live accounts => exact .live (hmode ▸ live) (hcount ▸ accounts)
  | dormant dormant => exact .dormant (hmode ▸ dormant)

/-- New parameters go to the first operation with the identifier, in its place among the others. -/
theorem exists_updateParameters {id : Uuid} (h : c.operation? id = some op) :
    ∃ (d : Circuit) (i : Nat), d.modeCount = c.modeCount ∧
      { c with source := "" } = d.insertAt i op ∧
      ∀ parameters, c.updateParameters id parameters = d.insertAt i { op with parameters } := by
  obtain ⟨hid, before, after, hoperations, hbefore⟩ := List.find?_eq_some_iff_append.1 h
  have hinsert : ∀ o : Operation,
      ({ c with operations := before ++ after } : Circuit).insertAt before.length o =
        { c with operations := before ++ o :: after, source := "" } := by
    intro o
    rw [Circuit.insertAt, Circuit.insertAll, List.take_left, List.drop_left, List.append_assoc]
    rfl
  refine ⟨{ c with operations := before ++ after }, before.length, rfl, ?_, fun parameters => ?_⟩
  · rw [hinsert, ← hoperations]
  · have hfirst : ∀ o ∈ before, (o.id == id) = false := fun o ho => by simpa using hbefore o ho
    rw [hinsert, Circuit.updateParameters, Circuit.change,
      if_pos (Circuit.holds_of_operations hoperations (beq_iff_eq.1 hid)), hoperations,
      Circuit.changeFirst_append hfirst hid]

theorem updateParameters_eq_self {id : Uuid} (h : c.operation? id = none) (parameters : Parameters) :
    c.updateParameters id parameters = c := by
  have habsent : ¬c.holds id = true := by
    rw [Circuit.holds, List.any_eq_true]
    rintro ⟨op, hop, hid⟩
    exact List.find?_eq_none.1 h op hop hid
  rw [Circuit.updateParameters, Circuit.change, if_neg habsent]

/-- **Edits are local**: one operation more adds its rows, and changes the engine if it is the first
Kerr gate; new parameters change the statement of their operation. All other rows stay. -/
theorem generate_localEdits (f : Framework) (c : Circuit) (shots : Nat) : LocalEdits f c shots where
  removed i op h := Circuit.remove_insertAt h i
  inserted i op h := by
    cases hlive : c.containsMode op.mode with
    | false =>
      rw [generate_insertAt_dormant hlive]
      exact ⟨[], .dormant hlive, Text.rows (generate c f shots), [], by simp, by simp⟩
    | true =>
      obtain ⟨above, below, hwithout, hwith⟩ := exists_insertAt_slot f i shots hlive
      refine ⟨_, written_account hlive,
        (preamble f c.modeCount.toNat (hasKerr c)).map characters ++ above, below, ?_, ?_⟩
      · rw [hwithout, List.append_assoc]
      · rw [hwith op (.refl op), preamble_insertAt h hlive]
        simp only [List.append_assoc]
  switched i op h := by
    obtain ⟨rfl, hswitches⟩ := h
    obtain ⟨above, below, hwithout, hwith⟩ :=
      exists_insertAt_slot .strawberryFields i shots hswitches.live
    obtain ⟨head, tail, hpreamble⟩ := exists_preamble_engine c.modeCount.toNat
    obtain ⟨hgaussian, hfock⟩ := hasKerr_insertAt hswitches i
    refine ⟨_, written_account hswitches.live, head, tail ++ above, below, ?_, ?_⟩
    · rw [hwithout, hgaussian, hpreamble]
      simp only [List.append_assoc]
    · rw [hwith op (.refl op), hfock, hpreamble]
      simp only [List.append_assoc]
  updated id parameters := by
    cases hop : c.operation? id with
    | none => exact .inl ⟨rfl, updateParameters_eq_self hop parameters⟩
    | some op =>
      obtain ⟨d, i, hcount, hc, hupdate⟩ := exists_updateParameters hop
      obtain ⟨block, block', hblock, hblock', hrestated, hreplaces⟩ :=
        replaces_insertAt (op.alike_with parameters) d i f shots
      rw [← hc, ← hupdate] at hreplaces
      exact .inr ⟨op, rfl, block, block', hblock.congr hcount, hblock'.congr hcount,
        hcount ▸ hrestated, hreplaces⟩

end Program

end OpticalBench
