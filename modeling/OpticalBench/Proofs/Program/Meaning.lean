import OpticalBench.Program.Generate
import OpticalBench.Proofs.Circuit.Traversal
import OpticalBench.Proofs.TextMap

/-!
# What programs depend on

A program depends on the meaning of a circuit only: for each mode, the elements in order, with the
literals of their declared parameters, measurements left out.

- `Operation.meaning`, `Circuit.meaningOn`: the meaning of an operation and of a mode.
- `SameMeaning`: circuits with as many modes and the same meaning on each.
- `Respelled`, `Rearranged`, `SameActive`: three ways in which circuits differ and mean the same.
- `generate_depends_on_meaning`: circuits that mean the same have the same programs.
-/

namespace OpticalBench

/-! ## The meaning of an operation -/

namespace Operation

/-- What a program can depend on: the element, and the literals of its declared parameters. -/
def meaning (op : Operation) : Element × TextMap String :=
  (op.element, op.resolved.mapValues Literal.number)

theorem nodup_parameterKeys (e : Element) : e.parameterKeys.Nodup := by
  cases e <;> decide

/-- A declared parameter has one value, looked up or resolved. -/
theorem get?_resolved (op : Operation) (key : String) :
    op.resolved.get? key = op.parameter? key := by
  let value : String → Binary64 → Binary64 := fun k d => (op.parameters.get? k).getD d
  have hkeys : (op.element.declared.map fun e => (e.1, value e.1 e.2)).map (·.1) =
      op.element.parameterKeys := by
    rw [List.map_map]
    rfl
  have hnodup : ((op.element.declared.map fun e => (e.1, value e.1 e.2)).map (·.1)).Nodup := by
    rw [hkeys]
    exact nodup_parameterKeys op.element
  rw [resolved, TextMap.get?_ofList, TextMap.lookup?_reverse hnodup, TextMap.lookup?_map value]
  rfl

/-- The arguments are the literals that the meaning gives for the declared parameters. -/
theorem arguments_eq (op : Operation) : op.arguments = op.meaning.1.parameterKeys.map fun key =>
    (op.meaning.2.get? key).getD (Literal.number (.zero false)) := by
  refine List.map_congr_left fun key _ => ?_
  show _ = ((op.resolved.mapValues Literal.number).get? key).getD _
  rw [TextMap.get?_mapValues, get?_resolved]
  cases op.parameter? key <;> rfl

variable {a b : Operation}

theorem arguments_congr (h : a.meaning = b.meaning) : a.arguments = b.arguments := by
  rw [arguments_eq, arguments_eq, h]

theorem element_congr (h : a.meaning = b.meaning) : a.element = b.element := congrArg (·.1) h

/-- Operations with the same element and the same values of its parameters mean the same. -/
theorem meaning_congr (element : a.element = b.element)
    (parameter : ∀ key, a.parameter? key = b.parameter? key) : a.meaning = b.meaning := by
  have hresolved : a.resolved = b.resolved := by
    refine TextMap.eq_of_get?_eq fun key => ?_
    rw [get?_resolved, get?_resolved, parameter]
  rw [meaning, meaning, element, hresolved]

end Operation

/-! ## The meaning of a circuit -/

namespace Circuit

/-- The meaning of the operations on one mode, in order. Measurements have none. -/
def meaningOn (c : Circuit) (m : Nat) : List (Element × TextMap String) :=
  ((c.onMode m).filter fun op => op.element != .measure).map Operation.meaning

/-- Circuits have the same meaning if it is the same on every mode. -/
structure SameMeaning (c d : Circuit) : Prop where
  count : c.modeCount = d.modeCount
  on_mode : ∀ m < c.modeCount.toNat, c.meaningOn m = d.meaningOn m

end Circuit

namespace Program

open Circuit

/-! ## What programs read -/

/-- What is collected depends only on what is looked at. -/
theorem filterMap_eq_of_map_eq {α β γ : Type} {look : α → β} {g : α → Option γ}
    (hg : ∀ a b, look a = look b → g a = g b) {xs ys : List α} (h : xs.map look = ys.map look) :
    xs.filterMap g = ys.filterMap g := by
  induction xs generalizing ys with
  | nil =>
    obtain rfl : ys = [] := List.map_eq_nil_iff.1 h.symm
    rfl
  | cons x xs ih =>
    cases ys with
    | nil => exact absurd h (by simp)
    | cons y ys =>
      obtain ⟨hxy, htail⟩ := List.cons.inj h
      rw [List.filterMap_cons, List.filterMap_cons, hg x y hxy, ih htail]

/-- A pass that takes no notice of measurements and looks only at meanings collects the same from
modes with the same meaning. -/
theorem filterMap_onMode_congr {γ : Type} {pass : Operation → Option γ} {c d : Circuit} {m : Nat}
    (hmeasure : ∀ op, op.element = .measure → pass op = none)
    (hpass : ∀ a b : Operation, a.meaning = b.meaning → pass a = pass b)
    (h : c.meaningOn m = d.meaningOn m) :
    (c.onMode m).filterMap pass = (d.onMode m).filterMap pass := by
  -- what is dropped from the meaning collects nothing
  have hdrop : ∀ ops : List Operation,
      ops.filterMap pass = (ops.filter fun op => op.element != .measure).filterMap pass := by
    intro ops
    rw [List.filterMap_filter]
    refine List.filterMap_congr fun op _ => ?_
    by_cases hop : op.element = .measure
    · simp [hop, hmeasure op hop]
    · simp [hop]
  rw [hdrop, hdrop (d.onMode m)]
  exact filterMap_eq_of_map_eq hpass h

variable {f : Framework} {count mode : Nat} {a b op : Operation}

theorem firstPass?_measure (h : op.element = .measure) : Item.firstPass? f mode op = none := by
  cases f <;> simp [Item.firstPass?, h, Element.supportedBy, Element.isMeasurement]

theorem secondPass?_measure (h : op.element = .measure) :
    Item.secondPass? f count mode op = none := by
  simp [Item.secondPass?, h, Element.isDual, Element.arity]

theorem firstPass?_congr (h : a.meaning = b.meaning) :
    Item.firstPass? f mode a = Item.firstPass? f mode b := by
  rw [Item.firstPass?, Item.firstPass?, Operation.element_congr h, Operation.arguments_congr h]

theorem secondPass?_congr (h : a.meaning = b.meaning) :
    Item.secondPass? f count mode a = Item.secondPass? f count mode b := by
  rw [Item.secondPass?, Item.secondPass?, Operation.element_congr h, Operation.arguments_congr h]

variable {c d : Circuit}

/-- The plan depends only on the meaning. -/
theorem plan_congr (h : SameMeaning c d) (f : Framework) : Item.plan f c = Item.plan f d := by
  have hmodes : ∀ m ∈ c.modeCount.modes, c.meaningOn m = d.meaningOn m := by
    intro m hm
    exact h.on_mode m (List.mem_range.1 hm)
  rw [Item.plan, Item.plan, ← h.count]
  refine congrArg₂ (· ++ ·) (List.flatMap_congr fun m hm => ?_) (List.flatMap_congr fun m hm => ?_)
  · exact filterMap_onMode_congr (fun _ => firstPass?_measure) (fun _ _ => firstPass?_congr)
      (hmodes m hm)
  · exact filterMap_onMode_congr (fun _ => secondPass?_measure) (fun _ _ => secondPass?_congr)
      (hmodes m hm)

/-- Whether a Kerr gate takes part is seen from the elements that are collected. -/
theorem hasKerr_eq (c : Circuit) : hasKerr c = !(c.modeCount.modes.flatMap fun m =>
    (c.onMode m).filterMap fun op => if op.element = .kerrGate then some () else none).isEmpty := by
  rw [Bool.eq_iff_iff, hasKerr, byMode]
  simp [List.any_eq_true]

theorem hasKerr_congr (h : SameMeaning c d) : hasKerr c = hasKerr d := by
  rw [hasKerr_eq, hasKerr_eq, ← h.count]
  refine congrArg (fun found : List Unit => !found.isEmpty) (List.flatMap_congr fun m hm => ?_)
  refine filterMap_onMode_congr (fun op hop => ?_) (fun a b hab => ?_)
    (h.on_mode m (List.mem_range.1 hm))
  · rw [if_neg (by simp [hop])]
  · rw [Operation.element_congr hab]

/-- Circuits that mean the same have the same programs. -/
theorem generate_congr (h : SameMeaning c d) (f : Framework) (shots : Nat) :
    generate c f shots = generate d f shots := by
  rw [generate, generate, lines, lines, plan_congr h, hasKerr_congr h, h.count]

end Program

/-! ## Circuits that mean the same -/

namespace Circuit

/-- The operations of two circuits in pairs, in the order in which they were placed. Identifiers may
differ, and so may positions if they order the operations on a mode alike, and stored parameters if
every declared one has the same value, stored or default. -/
structure Respelling (c d : Circuit) (ps : List (Operation × Operation)) : Prop where
  count : c.modeCount = d.modeCount
  left : c.operations = ps.map (·.1)
  right : d.operations = ps.map (·.2)
  element : ∀ p ∈ ps, p.1.element = p.2.element
  mode : ∀ p ∈ ps, p.1.mode = p.2.mode
  position : ∀ p ∈ ps, ∀ q ∈ ps, p.1.mode.index = q.1.mode.index →
    p.1.positionLe q.1 = p.2.positionLe q.2
  parameter : ∀ p ∈ ps, ∀ key value, p.1.element.default? key = some value →
    (p.1.parameters.get? key).getD value = (p.2.parameters.get? key).getD value

/-- Two circuits have the same operations, perhaps placed in another order, but those that tie, on
one mode and at one position, in the same order. -/
structure Rearranged (c d : Circuit) : Prop where
  count : c.modeCount = d.modeCount
  ties : ∀ m position,
    (c.operations.filter fun op => op.mode.index = m ∧ op.position = position) =
      d.operations.filter fun op => op.mode.index = m ∧ op.position = position

/-- Whether an operation is on a mode of the circuit and is not a measurement. -/
def isActive (c : Circuit) (op : Operation) : Bool :=
  c.containsMode op.mode && op.element != .measure

/-- Two circuits differ in dormant operations and measurements only. -/
structure SameActive (c d : Circuit) : Prop where
  count : c.modeCount = d.modeCount
  active : c.operations.filter c.isActive = d.operations.filter d.isActive

variable {c d : Circuit}

theorem Respelling.meaning {ps : List (Operation × Operation)} (h : Respelling c d ps)
    {p : Operation × Operation} (hp : p ∈ ps) : p.1.meaning = p.2.meaning := by
  refine Operation.meaning_congr (h.element p hp) fun key => ?_
  rw [Operation.parameter?, Operation.parameter?, ← h.element p hp]
  cases hkey : p.1.element.default? key with
  | none => rfl
  | some value => exact congrArg some (h.parameter p hp key value hkey)

theorem Respelling.sameMeaning {ps : List (Operation × Operation)} (h : Respelling c d ps) :
    SameMeaning c d := by
  refine ⟨h.count, fun m _ => ?_⟩
  -- both modes are images of one sorted list of pairs
  let sorted : List (Operation × Operation) := stableSort (fun p q => p.1.positionLe q.1)
    (ps.filter fun p => p.1.mode.index == m)
  have hmem : ∀ p ∈ sorted, p ∈ ps := fun p hp => (List.mem_filter.1 (mem_stableSort.1 hp)).1
  have hleft : c.onMode m = sorted.map (·.1) := by
    rw [onMode, h.left, List.filter_map, stableSort_map]
    rfl
  have hright : d.onMode m = sorted.map (·.2) := by
    have hfilter : (ps.filter fun p => p.1.mode.index == m) =
        ps.filter fun p => p.2.mode.index == m := by
      refine List.filter_congr fun p hp => ?_
      rw [h.mode p hp]
    have hsorted : sorted = stableSort (fun p q => p.2.positionLe q.2)
        (ps.filter fun p => p.1.mode.index == m) := by
      refine stableSort_congr fun p hp q hq => ?_
      obtain ⟨hp, hpm⟩ := List.mem_filter.1 hp
      obtain ⟨hq, hqm⟩ := List.mem_filter.1 hq
      rw [beq_iff_eq] at hpm hqm
      exact h.position p hp q hq (hpm.trans hqm.symm)
    rw [hsorted, hfilter, onMode, h.right, List.filter_map, stableSort_map]
    rfl
  rw [meaningOn, meaningOn, hleft, hright, List.filter_map, List.filter_map, List.map_map,
    List.map_map]
  have hkept : (sorted.filter fun p => p.1.element != .measure) =
      sorted.filter fun p => p.2.element != .measure := by
    refine List.filter_congr fun p hp => ?_
    rw [h.element p (hmem p hp)]
  show (sorted.filter fun p => p.1.element != .measure).map _ = _
  rw [hkept]
  refine List.map_congr_left fun p hp => ?_
  exact h.meaning (hmem p (List.mem_filter.1 hp).1)

theorem Rearranged.onMode (h : Rearranged c d) (m : Nat) : c.onMode m = d.onMode m := by
  rw [Circuit.onMode, Circuit.onMode, Operation.positionLe_eq_keyLe]
  refine stableSort_eq_of_filter_key_eq fun k => ?_
  by_cases hk : ∃ position : Binary64, position.rank = k
  · obtain ⟨position, rfl⟩ := hk
    -- operations of one rank have one position
    have hties : ∀ ops : List Operation, ((ops.filter fun op => op.mode.index == m).filter
        fun op => op.position.rank = position.rank) =
        ops.filter fun op => op.mode.index = m ∧ op.position = position := by
      intro ops
      rw [List.filter_filter]
      refine List.filter_congr fun op _ => ?_
      have hrank : op.position.rank = position.rank ↔ op.position = position :=
        ⟨Binary64.eq_of_rank_eq, congrArg _⟩
      simp only [hrank, Bool.decide_and, Bool.and_comm, beq_eq_decide]
    rw [hties, hties, h.ties m position]
  · have hnone : ∀ ops : List Operation, (ops.filter fun op => op.position.rank = k) = [] := by
      intro ops
      refine List.filter_eq_nil_iff.2 fun op _ hop => hk ⟨op.position, ?_⟩
      exact of_decide_eq_true hop
    rw [hnone, hnone]

theorem Rearranged.sameMeaning (h : Rearranged c d) : SameMeaning c d := by
  refine ⟨h.count, fun m _ => ?_⟩
  rw [meaningOn, meaningOn, h.onMode]

/-- The active operations on a mode are those of its operations that are no measurements. -/
theorem filter_onMode (c : Circuit) {m : Nat} (hm : m < c.modeCount.toNat) :
    ((c.onMode m).filter fun op => op.element != .measure) =
      stableSort Operation.positionLe
        ((c.operations.filter c.isActive).filter fun op => op.mode.index == m) := by
  rw [onMode, Operation.positionLe_eq_keyLe, filter_stableSort, List.filter_filter,
    List.filter_filter]
  refine congrArg _ (List.filter_congr fun op _ => ?_)
  by_cases hop : op.mode.index = m
  · have hlive : c.containsMode op.mode = true := decide_eq_true (hop ▸ hm)
    rw [isActive, hlive, Bool.true_and, Bool.and_comm]
  · have hother : (op.mode.index == m) = false := beq_false_of_ne hop
    rw [hother, Bool.and_false, Bool.false_and]

theorem SameActive.sameMeaning (h : SameActive c d) : SameMeaning c d := by
  refine ⟨h.count, fun m hm => ?_⟩
  rw [meaningOn, meaningOn, c.filter_onMode hm, d.filter_onMode (h.count ▸ hm), h.active]

end Circuit

/-- **Programs depend on the meaning of a circuit only.** Identifiers, positions that order alike,
parameters that are undeclared or stored with their default, the order in which operations were
placed, dormant operations and measurements do not take part in it. -/
theorem Program.generate_depends_on_meaning (c d : Circuit) :
    (c.SameMeaning d → ∀ f shots, generate c f shots = generate d f shots) ∧
    (∀ ps, c.Respelling d ps → c.SameMeaning d) ∧
    (c.Rearranged d → c.SameMeaning d) ∧
    (c.SameActive d → c.SameMeaning d) :=
  ⟨generate_congr, fun _ h => h.sameMeaning, fun h => h.sameMeaning, fun h => h.sameMeaning⟩

/-- A laser into a beam splitter, placed in the other order, with other identifiers and positions,
with a parameter that is not declared in place of the defaults, next to a measurement and an operation
on a mode that is not there. -/
theorem Program.generate_depends_on_meaning_interferometer :
    let c : Circuit := .interferometer ⟨0, by decide⟩ ⟨1, by decide⟩
    let laser : Operation := ⟨⟨2, by decide⟩, .laser, .first, .one, .empty⟩
    let splitter : Operation :=
      ⟨⟨3, by decide⟩, .beamSplitter, .first, .ofNat 4, .ofList [("gain", .one)]⟩
    let detector : Operation := ⟨⟨4, by decide⟩, .measure, .first, .ofNat 2, .empty⟩
    let dormant : Operation := ⟨⟨5, by decide⟩, .kerrGate, ⟨6, by decide⟩, .ofNat 3, .empty⟩
    let respelled : Circuit := ⟨.clamp 2, [laser, splitter], ""⟩
    let rearranged : Circuit := ⟨.clamp 2, [splitter, laser], ""⟩
    let full : Circuit := ⟨.clamp 2, [splitter, detector, dormant, laser], ""⟩
    c.SameMeaning respelled ∧ respelled.SameMeaning rearranged ∧ rearranged.SameMeaning full ∧
      generate c .strawberryFields 1000 = generate full .strawberryFields 1000 := by
  intro c laser splitter detector dormant respelled rearranged full
  have hrespelled : c.SameMeaning respelled := by
    refine (generate_depends_on_meaning c respelled).2.1 (c.operations.zip [laser, splitter]) ?_
    refine ⟨by decide +kernel, by decide +kernel, by decide +kernel, by decide +kernel,
      by decide +kernel, by decide +kernel, ?_⟩
    have hdeclared : ∀ p ∈ c.operations.zip [laser, splitter], ∀ e ∈ p.1.element.declared,
        (p.1.parameters.get? e.1).getD e.2 = (p.2.parameters.get? e.1).getD e.2 := by
      decide +kernel
    intro p hp key value hkey
    exact hdeclared p hp (key, value)
      ((TextMap.lookup?_eq_some_iff (Operation.nodup_parameterKeys _)).1 hkey)
  have hrearranged : respelled.SameMeaning rearranged := by
    refine (generate_depends_on_meaning respelled rearranged).2.2.1 ⟨rfl, fun m position => ?_⟩
    have hne : splitter.position ≠ laser.position := by decide +kernel
    show List.filter _ [laser, splitter] = List.filter _ [splitter, laser]
    by_cases hlaser : laser.position = position
    · have hsplitter : splitter.position ≠ position := hlaser ▸ hne
      simp [List.filter_cons, hsplitter]
    · simp [List.filter_cons, hlaser]
  have hfull : rearranged.SameMeaning full :=
    (generate_depends_on_meaning rearranged full).2.2.2 ⟨rfl, by decide +kernel⟩
  refine ⟨hrespelled, hrearranged, hfull, ?_⟩
  have hmeaning : c.SameMeaning full := ⟨by decide +kernel, by decide +kernel⟩
  exact (generate_depends_on_meaning c full).1 hmeaning _ _

end OpticalBench
