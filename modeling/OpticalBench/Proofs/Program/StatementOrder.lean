import OpticalBench.Proofs.Program.Accounting

/-!
# The order of statements

Positions order the operations on a mode, but a program is written in two passes, and the statements
on one mode all stand before those on two. Here is how far the order of a mode survives.

- `statement?`: the statement of an operation, if it gets one.
- `order`: the places of the operations in the order in which the program speaks of them.
- `pair_sublist_order`: within a pass, statements on one mode keep the order of that mode.
- `generate_order`: the order of the statements of any two operations.
- `not_forall_sublist_order`: the order of a mode is not kept in general. A phase shift between two
  beam splitters is written before both.
-/

namespace OpticalBench.Program

/-- The statement of an operation in a circuit of `count` modes, if it gets one. -/
def statement? (f : Framework) (count : Nat) (op : Operation) : Option String :=
  if op.element.isDual then
    if op.mode.index + 1 < count then
      (dualGate? f op.element op.arguments op.mode.index (op.mode.index + 1)).map fun g =>
        dualStatement f g op.mode.index (op.mode.index + 1)
    else none
  else (singleGate? f op.element op.arguments).map fun g => singleStatement f g op.mode.index

/-- The statement of the operation at a place, if that is on a mode of the circuit. -/
def statementAt? (f : Framework) (c : Circuit) (p : c.Place) : Option String :=
  if c.isLiveAt p then statement? f c.modeCount.toNat (c.operationAt p) else none

/-- The places of the operations that a program speaks of, in its order. -/
def order (f : Framework) (c : Circuit) : List c.Place := firstPlaces f c ++ secondPlaces f c

/-! ## Operations with a statement -/

/-- Only what is supported has a gate on one mode. -/
theorem supportedBy_of_singleGate? {f : Framework} {e : Element} {arguments : List String}
    {g : Gate} (h : singleGate? f e arguments = some g) :
    e.supportedBy f = true ∧ e.arity = .single ∧ e ≠ .measure := by
  cases f <;> cases e <;> first | decide | exact nomatch h

/-- Only what is supported has a gate on two modes. -/
theorem supportedBy_of_dualGate? {f : Framework} {e : Element} {arguments : List String}
    {mode next : Nat} {g : Gate} (h : dualGate? f e arguments mode next = some g) :
    e.supportedBy f = true ∧ e.arity = .dual := by
  cases f <;> cases e <;> first | decide | exact nomatch h

variable {f : Framework} {c : Circuit} {p q : c.Place} {s : String}

/-- An operation with a statement is written as a remark and that statement. -/
theorem account_eq_of_statement? {count : Nat} {op : Operation}
    (h : statement? f count op = some s) :
    ∃ remark, account f count op = [.comment remark, .statement s] := by
  have haccounts := accounts_account f count op
  unfold statement? at h
  by_cases hd : op.element.isDual = true
  · rw [if_pos hd] at h
    obtain ⟨hnext, h⟩ := Option.ite_none_right_eq_some.1 h
    obtain ⟨g, hg, rfl⟩ := Option.map_eq_some_iff.1 h
    obtain ⟨supported, arity⟩ := supportedBy_of_dualGate? hg
    generalize account f count op = ls at haccounts
    cases haccounts with
    | unsupported unsupported => simp [unsupported] at supported
    | single _ single _ _ => simp [single] at arity
    | @dual g' _ _ _ gate =>
      -- the two sides looked up the same gate
      obtain rfl : g' = g := Option.some.inj (gate.symm.trans hg)
      exact ⟨_, rfl⟩
    | dangling _ _ last => exact absurd hnext (Nat.not_lt.2 last)
    | deferred element => simp [element, Element.arity] at arity
  · rw [if_neg hd] at h
    obtain ⟨g, hg, rfl⟩ := Option.map_eq_some_iff.1 h
    obtain ⟨supported, arity, element⟩ := supportedBy_of_singleGate? hg
    generalize account f count op = ls at haccounts
    cases haccounts with
    | unsupported unsupported => simp [unsupported] at supported
    | @single g' _ _ _ gate =>
      obtain rfl : g' = g := Option.some.inj (gate.symm.trans hg)
      exact ⟨_, rfl⟩
    | dual _ dual _ _ => simp [dual] at arity
    | dangling _ dual _ => simp [dual] at arity
    | deferred measure => exact absurd measure element

theorem accountAt_eq_of_statementAt? (h : statementAt? f c p = some s) :
    ∃ remark, accountAt f c p = [.comment remark, .statement s] := by
  obtain ⟨-, h⟩ := Option.ite_none_right_eq_some.1 h
  exact account_eq_of_statement? h

/-- A statement on one mode is written in the first pass. -/
theorem mem_firstPlaces_of_statementAt? (h : statementAt? f c p = some s)
    (arity : (c.operationAt p).element.arity = .single) : p ∈ firstPlaces f c := by
  obtain ⟨live, h⟩ := Option.ite_none_right_eq_some.1 h
  unfold statement? at h
  rw [if_neg (Bool.eq_false_iff.1 (isDual_eq_false_iff.2 arity))] at h
  obtain ⟨g, hg, -⟩ := Option.map_eq_some_iff.1 h
  obtain ⟨-, -, element⟩ := supportedBy_of_singleGate? hg
  exact mem_firstPlaces.2 ⟨live, .inr ⟨arity, element⟩⟩

/-- A statement on two modes is written in the second pass. -/
theorem mem_secondPlaces_of_statementAt? (h : statementAt? f c p = some s)
    (arity : (c.operationAt p).element.arity = .dual) : p ∈ secondPlaces f c := by
  obtain ⟨live, h⟩ := Option.ite_none_right_eq_some.1 h
  unfold statement? at h
  rw [if_pos (isDual_iff.2 arity)] at h
  obtain ⟨-, h⟩ := Option.ite_none_right_eq_some.1 h
  obtain ⟨g, hg, -⟩ := Option.map_eq_some_iff.1 h
  exact mem_secondPlaces.2 ⟨live, supportedBy_of_dualGate? hg⟩

/-! ## Order -/

/-- In a list that runs in an order, two elements stand as the order says. -/
theorem pair_sublist_of_pairwise {α : Type} {R : α → α → Prop} (asymm : ∀ a b, R a b → ¬R b a)
    {xs : List α} (h : xs.Pairwise R) {a b : α} (ha : a ∈ xs) (hb : b ∈ xs) (hab : R a b) :
    [a, b].Sublist xs := by
  induction xs with
  | nil => exact absurd ha (by simp)
  | cons x xs ih =>
    obtain ⟨hx, hxs⟩ := List.pairwise_cons.1 h
    rcases List.mem_cons.1 ha with rfl | ha'
    · rcases List.mem_cons.1 hb with rfl | hb'
      · exact absurd hab (asymm _ _ hab)
      · exact (List.singleton_sublist.2 hb').cons_cons _
    · rcases List.mem_cons.1 hb with rfl | hb'
      · exact absurd hab (asymm _ _ (hx a ha'))
      · exact (ih hxs ha' hb').cons _

/-- Within a pass, operations are written in the order of modes, positions and insertion. -/
theorem pair_sublist_order (hpq : c.Precedes p q)
    (h : p ∈ firstPlaces f c ∧ q ∈ firstPlaces f c ∨ p ∈ secondPlaces f c ∧ q ∈ secondPlaces f c) :
    [p, q].Sublist (order f c) := by
  have asymm : ∀ p q, c.Precedes p q → ¬c.Precedes q p := fun _ _ => Circuit.Precedes.asymm
  rcases h with ⟨hp, hq⟩ | ⟨hp, hq⟩
  · exact (pair_sublist_of_pairwise asymm (c.traversal_pairwise.filter _) hp hq hpq).trans
      (List.sublist_append_left _ _)
  · exact (pair_sublist_of_pairwise asymm (c.traversal_pairwise.filter _) hp hq hpq).trans
      (List.sublist_append_right _ _)

/-- What the first pass writes stands before what the second one writes. -/
theorem pair_sublist_order_of_passes (hp : p ∈ firstPlaces f c) (hq : q ∈ secondPlaces f c) :
    [p, q].Sublist (order f c) :=
  (List.singleton_sublist.2 hp).append (List.singleton_sublist.2 hq)

/-- **The order of statements.** A program is the accounts of the operations in `order`, and each
operation is there at most once. Of two operations with a statement, the one before the other in the
order of modes, positions and insertion comes first, except that a statement on two modes comes after
every statement on one. -/
theorem generate_order (f : Framework) (c : Circuit) :
    (∀ shots, generate c f shots = Line.render (preamble f c.modeCount.toNat (hasKerr c) ++
      ((order f c).flatMap (accountAt f c) ++ measurements f c.modeCount).map
        (Line.indentBy (bodyDepth f)) ++
      epilogue f c.modeCount.toNat shots)) ∧
    (order f c).Nodup ∧
    ∀ p q s t, c.Precedes p q →
      statementAt? f c p = some s → statementAt? f c q = some t →
      (∃ remark, accountAt f c p = [.comment remark, .statement s]) ∧
      (∃ remark, accountAt f c q = [.comment remark, .statement t]) ∧
      if (c.operationAt p).element.arity = .dual ∧ (c.operationAt q).element.arity = .single
      then [q, p].Sublist (order f c) else [p, q].Sublist (order f c) := by
  refine ⟨generate_eq c f, places_nodup f c, ?_⟩
  intro p q s t hpq hs ht
  refine ⟨accountAt_eq_of_statementAt? hs, accountAt_eq_of_statementAt? ht, ?_⟩
  cases hp : (c.operationAt p).element.arity with
  | single =>
    have hp' := mem_firstPlaces_of_statementAt? hs hp
    rw [if_neg (by simp)]
    cases hq : (c.operationAt q).element.arity with
    | single => exact pair_sublist_order hpq (.inl ⟨hp', mem_firstPlaces_of_statementAt? ht hq⟩)
    | dual => exact pair_sublist_order_of_passes hp' (mem_secondPlaces_of_statementAt? ht hq)
  | dual =>
    have hp' := mem_secondPlaces_of_statementAt? hs hp
    cases hq : (c.operationAt q).element.arity with
    | single =>
      rw [if_pos ⟨rfl, rfl⟩]
      exact pair_sublist_order_of_passes (mem_firstPlaces_of_statementAt? ht hq) hp'
    | dual =>
      rw [if_neg (by simp)]
      exact pair_sublist_order hpq (.inr ⟨hp', mem_secondPlaces_of_statementAt? ht hq⟩)

/-- A Mach-Zehnder interferometer with a phase of 0.3: the phase shift, placed after the first beam
splitter, is written before it. -/
theorem generate_order_machZehnder :
    let c : Circuit := .machZehnder ⟨0, by decide⟩ ⟨1, by decide⟩ ⟨2, by decide⟩ ⟨3, by decide⟩
      (.ofDecimal false 3 (-1))
    let splitter : c.Place := ⟨1, by decide +kernel⟩
    let shifter : c.Place := ⟨2, by decide +kernel⟩
    c.Precedes splitter shifter ∧
    statementAt? .strawberryFields c splitter =
      some "BSgate(0.5, 0.7853981633974483) | (q[0], q[1])" ∧
    statementAt? .strawberryFields c shifter = some "Rgate(0.3) | q[0]" ∧
    [shifter, splitter].Sublist (order .strawberryFields c) := by
  intro c splitter shifter
  have hprecedes : c.Precedes splitter shifter := by decide +kernel
  have hsplitter : statementAt? .strawberryFields c splitter =
      some "BSgate(0.5, 0.7853981633974483) | (q[0], q[1])" := by decide +kernel
  have hshifter : statementAt? .strawberryFields c shifter = some "Rgate(0.3) | q[0]" := by
    decide +kernel
  obtain ⟨-, -, horder⟩ := generate_order .strawberryFields c
  obtain ⟨-, -, hsublist⟩ := horder splitter shifter _ _ hprecedes hsplitter hshifter
  rw [if_pos ⟨by decide +kernel, by decide +kernel⟩] at hsublist
  exact ⟨hprecedes, hsplitter, hshifter, hsublist⟩

/-- **The order of a mode is not the order of its statements.** In a Mach-Zehnder interferometer the
phase shift does not stand between the beam splitters. -/
theorem not_forall_sublist_order :
    ¬∀ (f : Framework) (c : Circuit) (p q : c.Place) (s t : String), c.modeAt p = c.modeAt q →
      c.Precedes p q → statementAt? f c p = some s → statementAt? f c q = some t →
      [p, q].Sublist (order f c) := by
  intro h
  let c : Circuit := .machZehnder ⟨0, by decide⟩ ⟨1, by decide⟩ ⟨2, by decide⟩ ⟨3, by decide⟩
    (.ofDecimal false 3 (-1))
  have hkept : [(⟨1, by decide +kernel⟩ : c.Place), ⟨2, by decide +kernel⟩].Sublist
      (order .strawberryFields c) :=
    h .strawberryFields c _ _ "BSgate(0.5, 0.7853981633974483) | (q[0], q[1])" "Rgate(0.3) | q[0]"
      (by decide +kernel) (by decide +kernel) (by decide +kernel) (by decide +kernel)
  have horder : order .strawberryFields c = [⟨0, by decide +kernel⟩, ⟨2, by decide +kernel⟩,
      ⟨1, by decide +kernel⟩, ⟨3, by decide +kernel⟩] := by decide +kernel
  rw [horder] at hkept
  exact absurd hkept (by decide +kernel)

end OpticalBench.Program
