import OpticalBench.Program.Generate
import OpticalBench.Proofs.Circuit.Traversal

/-!
# What a program says about each operation

The plan of a program is made in two passes over the same traversal, and each pass skips what it
does not handle. Here the two passes are taken together.

- `Accounts`: what has to be said about an operation, from the tables of the catalog alone.
- `account`: what the two passes say about it; `accounts_account` shows that it is what has to be
  said, so no element gets to the fall-back of `single` or `dual`.
- `firstPlaces`, `secondPlaces`: which operations each pass handles.
- `generate_eq`: the program is the accounts of these operations, in this order, between preamble
  and measurements.
- `spelling?`: the remark and the statement of each gate, in full; `Accounts.spelled` shows that these are
  written.
- `generate_accounting`: the program accounts for every live operation once, and for no dormant one.
-/

namespace OpticalBench.Program

/-- What has to be said about an operation in a circuit of `count` modes. -/
inductive Accounts (f : Framework) (count : Nat) (op : Operation) : List Line → Prop
  /-- An element that the framework does not support becomes a comment. -/
  | unsupported (unsupported : op.element.supportedBy f = false) :
    Accounts f count op [.comment (op.element.label ++ " on mode " ++ toString op.mode.index ++
      ": unsupported in " ++ f.displayName ++ " (no native statement)")]
  /-- A supported element on one mode becomes a statement on its mode. -/
  | single {g : Gate} (supported : op.element.supportedBy f = true)
    (arity : op.element.arity = .single) (element : op.element ≠ .measure)
    (gate : singleGate? f op.element op.arguments = some g) :
    Accounts f count op [.comment g.remark, .statement (singleStatement f g op.mode.index)]
  /-- A supported element on two modes becomes a statement on its mode and the next one. -/
  | dual {g : Gate} (supported : op.element.supportedBy f = true)
    (arity : op.element.arity = .dual) (adjacent : op.mode.index + 1 < count)
    (gate : dualGate? f op.element op.arguments op.mode.index (op.mode.index + 1) = some g) :
    Accounts f count op
      [.comment g.remark, .statement (dualStatement f g op.mode.index (op.mode.index + 1))]
  /-- Without a next mode it becomes a comment. -/
  | dangling (supported : op.element.supportedBy f = true) (arity : op.element.arity = .dual)
    (last : count ≤ op.mode.index + 1) :
    Accounts f count op [.comment (op.element.label ++ " at mode " ++ toString op.mode.index ++
      " has no adjacent mode to connect to")]
  /-- A measurement is put off. -/
  | deferred (element : op.element = .measure) : Accounts f count op []

/-! ## The tables have no gaps -/

/-- Every supported element on one mode has a gate, the measurement excepted. -/
theorem exists_singleGate {f : Framework} {e : Element} (supported : e.supportedBy f = true)
    (arity : e.arity = .single) (element : e ≠ .measure) (arguments : List String) :
    ∃ g, singleGate? f e arguments = some g := by
  cases f <;> cases e <;> first | contradiction | exact ⟨_, rfl⟩

/-- Every supported element on two modes has a gate. -/
theorem exists_dualGate {f : Framework} {e : Element} (supported : e.supportedBy f = true)
    (arity : e.arity = .dual) (arguments : List String) (mode next : Nat) :
    ∃ g, dualGate? f e arguments mode next = some g := by
  cases f <;> cases e <;> first | contradiction | exact ⟨_, rfl⟩

/-- Both frameworks support the measurement, which acts on one mode. -/
theorem supportedBy_measure (f : Framework) : Element.measure.supportedBy f = true := by
  cases f <;> rfl

theorem isDual_iff {e : Element} : e.isDual = true ↔ e.arity = .dual := by
  simp [Element.isDual]

theorem isDual_eq_false_iff {e : Element} : e.isDual = false ↔ e.arity = .single := by
  rw [Element.isDual]
  cases e.arity <;> decide

theorem isMeasurement_iff {e : Element} : e.isMeasurement = true ↔ e = .measure := by
  simp [Element.isMeasurement]

/-! ## The two passes together -/

/-- What the two passes write for an operation. -/
def account (f : Framework) (count : Nat) (op : Operation) : List Line :=
  ((Item.firstPass? f op.mode.index op).toList ++
    (Item.secondPass? f count op.mode.index op).toList).flatMap (Item.lines f)

/-- The first pass handles what is unsupported, and what is on one mode. -/
theorem firstPass?_isSome_iff {f : Framework} {mode : Nat} {op : Operation} :
    (Item.firstPass? f mode op).isSome = true ↔
      op.element.supportedBy f = false ∨ op.element.arity = .single ∧ op.element ≠ .measure := by
  cases hs : op.element.supportedBy f with
  | false => simp [Item.firstPass?, hs]
  | true =>
    cases ha : op.element.arity with
    | single =>
      have hd : op.element.isDual = false := isDual_eq_false_iff.2 ha
      simp [Item.firstPass?, hs, hd, Element.isMeasurement]
    | dual =>
      have hd : op.element.isDual = true := isDual_iff.2 ha
      simp [Item.firstPass?, hs, hd]

/-- The second pass handles what is supported and on two modes. -/
theorem secondPass?_isSome_iff {f : Framework} {count mode : Nat} {op : Operation} :
    (Item.secondPass? f count mode op).isSome = true ↔
      op.element.supportedBy f = true ∧ op.element.arity = .dual := by
  rw [← isDual_iff]
  unfold Item.secondPass?
  by_cases h : (op.element.isDual && op.element.supportedBy f) = true
  · rw [if_pos h]
    by_cases hnext : mode + 1 < count
    · simpa [hnext, and_comm] using h
    · simpa [hnext, and_comm] using h
  · rw [if_neg h]
    simpa [and_comm] using h

/-- No operation is handled twice. -/
theorem secondPass?_eq_none {f : Framework} {mode : Nat} {op : Operation}
    (h : (Item.firstPass? f mode op).isSome = true) (count mode' : Nat) :
    Item.secondPass? f count mode' op = none := by
  rw [← Option.not_isSome_iff_eq_none, secondPass?_isSome_iff]
  rintro ⟨supported, arity⟩
  rcases firstPass?_isSome_iff.1 h with unsupported | ⟨single, -⟩
  · simp [unsupported] at supported
  · simp [single] at arity

/-- The two passes say about every operation what has to be said, and nothing else. -/
theorem accounts_account (f : Framework) (count : Nat) (op : Operation) :
    Accounts f count op (account f count op) := by
  cases hs : op.element.supportedBy f with
  | false =>
    have hlines : account f count op = [unsupported f op.element op.mode.index] := by
      simp [account, Item.firstPass?, Item.secondPass?, hs, Item.lines]
    rw [hlines]
    exact .unsupported hs
  | true =>
    cases ha : op.element.arity with
    | single =>
      have hd : op.element.isDual = false := isDual_eq_false_iff.2 ha
      by_cases hm : op.element = .measure
      · have hlines : account f count op = [] := by
          simp [account, Item.firstPass?, Item.secondPass?, hs, hd, isMeasurement_iff.2 hm]
        rw [hlines]
        exact .deferred hm
      · have hm' : op.element.isMeasurement = false := by
          simpa [Element.isMeasurement] using hm
        obtain ⟨g, hg⟩ := exists_singleGate hs ha hm op.arguments
        have hlines : account f count op =
            [.comment g.remark, .statement (singleStatement f g op.mode.index)] := by
          simp [account, Item.firstPass?, Item.secondPass?, hs, hd, hm', Item.lines, single, hg]
        rw [hlines]
        exact .single hs ha hm hg
    | dual =>
      have hd : op.element.isDual = true := isDual_iff.2 ha
      by_cases hnext : op.mode.index + 1 < count
      · obtain ⟨g, hg⟩ := exists_dualGate hs ha op.arguments op.mode.index (op.mode.index + 1)
        have hlines : account f count op =
            [.comment g.remark,
              .statement (dualStatement f g op.mode.index (op.mode.index + 1))] := by
          simp [account, Item.firstPass?, Item.secondPass?, hs, hd, hnext, Item.lines, dual, hg]
        rw [hlines]
        exact .dual hs ha hnext hg
      · have hlines : account f count op = [dangling op.element op.mode.index] := by
          simp [account, Item.firstPass?, Item.secondPass?, hs, hd, hnext, Item.lines]
        rw [hlines]
        exact .dangling hs ha (Nat.le_of_not_lt hnext)

/-! ## The operations that each pass handles -/

/-- The first pass over the operation at a place. -/
def firstItem? (f : Framework) (c : Circuit) (p : c.Place) : Option Item :=
  Item.firstPass? f (c.modeAt p) (c.operationAt p)

/-- The second pass over the operation at a place. -/
def secondItem? (f : Framework) (c : Circuit) (p : c.Place) : Option Item :=
  Item.secondPass? f c.modeCount.toNat (c.modeAt p) (c.operationAt p)

/-- The places that the first pass handles, in its order. -/
def firstPlaces (f : Framework) (c : Circuit) : List c.Place :=
  c.traversal.filter fun p => (firstItem? f c p).isSome

/-- The places that the second pass handles, in its order. -/
def secondPlaces (f : Framework) (c : Circuit) : List c.Place :=
  c.traversal.filter fun p => (secondItem? f c p).isSome

/-- What is written for the operation at a place. -/
def accountAt (f : Framework) (c : Circuit) (p : c.Place) : List Line :=
  account f c.modeCount.toNat (c.operationAt p)

variable {f : Framework} {c : Circuit} {p : c.Place}

theorem mem_firstPlaces : p ∈ firstPlaces f c ↔
    c.isLiveAt p = true ∧ ((c.operationAt p).element.supportedBy f = false ∨
      (c.operationAt p).element.arity = .single ∧ (c.operationAt p).element ≠ .measure) := by
  rw [firstPlaces, List.mem_filter, firstItem?, firstPass?_isSome_iff, Circuit.mem_traversal,
    Circuit.isLiveAt_iff]

theorem mem_secondPlaces : p ∈ secondPlaces f c ↔
    c.isLiveAt p = true ∧ (c.operationAt p).element.supportedBy f = true ∧
      (c.operationAt p).element.arity = .dual := by
  rw [secondPlaces, List.mem_filter, secondItem?, secondPass?_isSome_iff, Circuit.mem_traversal,
    Circuit.isLiveAt_iff]

/-- The places that are handled are those of the live operations other than measurements. -/
theorem mem_places : p ∈ firstPlaces f c ++ secondPlaces f c ↔
    c.isLiveAt p = true ∧ (c.operationAt p).element ≠ .measure := by
  rw [List.mem_append, mem_firstPlaces, mem_secondPlaces, ← and_or_left]
  refine and_congr_right fun _ => ?_
  generalize (c.operationAt p).element = e
  constructor
  · -- a measurement is supported and on one mode, so neither pass handles it
    rintro ((h | ⟨-, h⟩) | ⟨-, h⟩)
    · rintro rfl
      simp [supportedBy_measure] at h
    · exact h
    · rintro rfl
      exact absurd h (by decide)
  · intro h
    cases hs : e.supportedBy f with
    | false => exact .inl (.inl rfl)
    | true =>
      cases ha : e.arity with
      | single => exact .inl (.inr ⟨rfl, h⟩)
      | dual => exact .inr ⟨rfl, rfl⟩

theorem places_nodup (f : Framework) (c : Circuit) : (firstPlaces f c ++ secondPlaces f c).Nodup := by
  refine List.nodup_append'.2 ⟨c.traversal_nodup.filter _, c.traversal_nodup.filter _, ?_⟩
  intro p hp hq
  obtain ⟨-, supported, arity⟩ := mem_secondPlaces.1 hq
  rcases (mem_firstPlaces.1 hp).2 with unsupported | ⟨single, -⟩
  · simp [unsupported] at supported
  · simp [single] at arity

/-- What a pass collects over the traversal is what it collects mode by mode. -/
theorem filterMap_traversal {c : Circuit} (pass : Nat → Operation → Option Item) :
    (c.modeCount.modes.flatMap fun m => (c.onMode m).filterMap (pass m)) =
      c.traversal.filterMap fun p => pass (c.modeAt p) (c.operationAt p) := by
  rw [Circuit.traversal, List.filterMap_flatMap]
  refine List.flatMap_congr fun m _ => ?_
  rw [← Circuit.map_placesOn, List.filterMap_map]
  refine List.filterMap_congr fun p hp => ?_
  rw [Function.comp_apply, Circuit.mem_placesOn.1 hp]

/-- Lines can be collected from the items, or from the elements that have an item. -/
theorem flatMap_filterMap {α β γ : Type} {item? : α → Option β} {lines : β → List γ}
    {entry : α → List γ} (h : ∀ a b, item? a = some b → entry a = lines b) (xs : List α) :
    (xs.filterMap item?).flatMap lines = (xs.filter fun a => (item? a).isSome).flatMap entry := by
  induction xs with
  | nil => rfl
  | cons x xs ih =>
    cases hx : item? x with
    | none => simpa [hx] using ih
    | some b => simpa [hx, h x b hx] using ih

/-- The lines of the plan are the accounts of the operations that each pass handles. -/
theorem lines_plan (f : Framework) (c : Circuit) : (Item.plan f c).flatMap (Item.lines f) =
    (firstPlaces f c ++ secondPlaces f c).flatMap (accountAt f c) := by
  rw [Item.plan, filterMap_traversal, filterMap_traversal, List.flatMap_append,
    List.flatMap_append]
  refine congrArg₂ (· ++ ·) (flatMap_filterMap (fun p item h => ?_) _)
    (flatMap_filterMap (fun p item h => ?_) _)
  · have hsecond := secondPass?_eq_none (Option.isSome_of_eq_some h) c.modeCount.toNat
      (c.operationAt p).mode.index
    simp only [Circuit.modeAt] at h
    simp [accountAt, account, h, hsecond]
  · have hfirst : Item.firstPass? f (c.modeAt p) (c.operationAt p) = none := by
      refine Option.eq_none_iff_forall_ne_some.2 fun item' h' => ?_
      have hsecond := secondPass?_eq_none (Option.isSome_of_eq_some h') c.modeCount.toNat
        (c.modeAt p)
      rw [hsecond] at h
      exact absurd h (by simp)
    simp only [Circuit.modeAt] at h hfirst
    simp [accountAt, account, h, hfirst]

/-- **The program of a circuit**: preamble, accounts, measurements, epilogue. -/
theorem generate_eq (c : Circuit) (f : Framework) (shots : Nat) :
    generate c f shots = Line.render (preamble f c.modeCount.toNat (hasKerr c) ++
      ((firstPlaces f c ++ secondPlaces f c).flatMap (accountAt f c) ++
        measurements f c.modeCount).map (Line.indentBy (bodyDepth f)) ++
      epilogue f c.modeCount.toNat shots) := by
  rw [generate, lines, ofItems, body, lines_plan]

/-! ## The fall-backs -/

/-- An item that a pass makes is in the plan only if an operation of the circuit made it. -/
theorem exists_of_mem_plan {item : Item} (h : item ∈ Item.plan f c) :
    ∃ op mode, Item.firstPass? f mode op = some item ∨
      Item.secondPass? f c.modeCount.toNat mode op = some item := by
  rw [Item.plan, List.mem_append] at h
  rcases h with h | h
  · obtain ⟨m, -, hm⟩ := List.mem_flatMap.1 h
    obtain ⟨op, -, hop⟩ := List.mem_filterMap.1 hm
    exact ⟨op, m, .inl hop⟩
  · obtain ⟨m, -, hm⟩ := List.mem_flatMap.1 h
    obtain ⟨op, -, hop⟩ := List.mem_filterMap.1 hm
    exact ⟨op, m, .inr hop⟩

/-- Every element on one mode that is planned has a gate. -/
theorem singleGate?_of_mem_plan {e : Element} {mode : Nat} {arguments : List String}
    (h : .single e mode arguments ∈ Item.plan f c) : ∃ g, singleGate? f e arguments = some g := by
  obtain ⟨op, m, hfirst | hsecond⟩ := exists_of_mem_plan h
  · have hsome : (Item.firstPass? f m op).isSome = true := Option.isSome_of_eq_some hfirst
    unfold Item.firstPass? at hfirst
    by_cases hs : op.element.supportedBy f = true
    · rw [if_pos hs] at hfirst
      obtain ⟨-, hitem⟩ := Option.ite_none_left_eq_some.1 hfirst
      obtain ⟨rfl, -, -⟩ := Item.single.inj (Option.some.inj hitem)
      rcases firstPass?_isSome_iff.1 hsome with unsupported | ⟨arity, element⟩
      · simp [unsupported] at hs
      · exact exists_singleGate hs arity element arguments
    · rw [if_neg hs] at hfirst
      exact absurd (Option.some.inj hfirst) (by simp)
  · unfold Item.secondPass? at hsecond
    split at hsecond
    · split at hsecond <;> exact absurd (Option.some.inj hsecond) (by simp)
    · exact absurd hsecond (by simp)

/-- Every element on two modes that is planned has a gate. -/
theorem dualGate?_of_mem_plan {e : Element} {mode : Nat} {arguments : List String}
    (h : .dual e mode arguments ∈ Item.plan f c) :
    ∃ g, dualGate? f e arguments mode (mode + 1) = some g := by
  obtain ⟨op, m, hfirst | hsecond⟩ := exists_of_mem_plan h
  · unfold Item.firstPass? at hfirst
    split at hfirst
    · exact absurd (Option.ite_none_left_eq_some.1 hfirst).2 (by simp)
    · exact absurd (Option.some.inj hfirst) (by simp)
  · obtain ⟨supported, arity⟩ := secondPass?_isSome_iff.1 (Option.isSome_of_eq_some hsecond)
    unfold Item.secondPass? at hsecond
    obtain ⟨-, hsecond⟩ := Option.ite_none_right_eq_some.1 hsecond
    split at hsecond
    · obtain ⟨rfl, rfl, -⟩ := Item.dual.inj (Option.some.inj hsecond)
      exact exists_dualGate supported arity arguments m (m + 1)
    · exact absurd (Option.some.inj hsecond) (by simp)

/-! ## How gates are written -/

/-- The literal of a parameter of an operation. -/
def literal (op : Operation) (key : String) : String :=
  Literal.number ((op.parameter? key).getD (.zero false))

/-- The remark and the statement of an operation that a framework has a gate for, on a mode and perhaps
the next one. -/
def spelling? (f : Framework) (op : Operation) (mode next : Nat) : Option (String × String) :=
  let m := toString mode
  let n := toString next
  let p := literal op
  match f, op.element with
  | .strawberryFields, .laser =>
    some ("Coherent state (laser input)", "Coherent(1.0) | q[" ++ m ++ "]")
  | .strawberryFields, .phaseShifter =>
    some ("Phase shift", "Rgate(" ++ p "phi" ++ ") | q[" ++ m ++ "]")
  | .strawberryFields, .squeezeGate =>
    some ("Squeezing operation", "Sgate(" ++ p "r" ++ ", " ++ p "theta" ++ ") | q[" ++ m ++ "]")
  | .strawberryFields, .displacementGate =>
    some ("Displacement operation", "Dgate(" ++ p "r" ++ ", " ++ p "phi" ++ ") | q[" ++ m ++ "]")
  | .strawberryFields, .kerrGate =>
    some ("Kerr nonlinearity", "Kgate(" ++ p "kappa" ++ ") | q[" ++ m ++ "]")
  | .strawberryFields, .beamSplitter =>
    some ("Beam splitter between mode " ++ m ++ " and " ++ n,
      "BSgate(" ++ p "theta" ++ ", " ++ p "phi" ++ ") | (q[" ++ m ++ "], q[" ++ n ++ "])")
  | .perceval, .phaseShifter =>
    some ("Phase shift", "circuit.add((" ++ m ++ ",), pcvl.PS(phi=" ++ p "phi" ++ "))")
  | .perceval, .halfWavePlate =>
    some ("Half wave plate", "circuit.add((" ++ m ++ ",), pcvl.HWP(" ++ p "theta" ++ "))")
  | .perceval, .quarterWavePlate =>
    some ("Quarter wave plate", "circuit.add((" ++ m ++ ",), pcvl.QWP(" ++ p "theta" ++ "))")
  | .perceval, .timeDelay =>
    some ("Time delay", "circuit.add((" ++ m ++ ",), pcvl.TD(" ++ p "delay" ++ "))")
  | .perceval, .beamSplitter =>
    some ("Beam splitter between mode " ++ m ++ " and " ++ n, "circuit.add((" ++ m ++ ", " ++ n ++
      "), pcvl.BS(theta=" ++ p "theta" ++ ", phi_bl=" ++ p "phi" ++ "))")
  | .perceval, .permutation =>
    some ("Swap mode " ++ m ++ " and " ++ n,
      "circuit.add((" ++ m ++ ", " ++ n ++ "), pcvl.PERM([1, 0]))")
  | .perceval, .polarizingBeamSplitter =>
    some ("Polarizing beam splitter between mode " ++ m ++ " and " ++ n,
      "circuit.add((" ++ m ++ ", " ++ n ++ "), pcvl.PBS())")
  | .perceval, .unitary =>
    some ("Unitary on mode " ++ m ++ " and " ++ n ++ " (identity placeholder)",
      "circuit.add((" ++ m ++ ", " ++ n ++ "), pcvl.Unitary(pcvl.Matrix([[1, 0], [0, 1]])))")
  | _, _ => none

theorem call_one (function x : String) : call function [x] = function ++ "(" ++ x ++ ")" := rfl

theorem call_two (function x y : String) :
    call function [x, y] = function ++ "(" ++ (x ++ ", " ++ y) ++ ")" := rfl

section

variable {f : Framework} {op : Operation} {g : Gate} {mode next count : Nat} {ls : List Line}

/-- What is written for a gate on one mode is in the table. -/
theorem spelling?_of_singleGate? (h : singleGate? f op.element op.arguments = some g) :
    spelling? f op mode next = some (g.remark, singleStatement f g mode) := by
  obtain ⟨id, e, m, position, parameters⟩ := op
  cases f with
  | strawberryFields =>
    cases e with
    | laser | phaseShifter | squeezeGate | displacementGate | kerrGate =>
      obtain rfl := Option.some.inj h
      refine congrArg some (Prod.ext rfl (String.toList_inj.1 ?_))
      simp only [singleStatement, StrawberryFields.singleStatement, StrawberryFields.wire,
        Operation.arguments, Element.parameterKeys, Element.declared, List.map_cons, List.map_nil,
        call_one, call_two, literal, String.toList_append, List.append_assoc]
      rfl
    | _ => contradiction
  | perceval =>
    cases e with
    | phaseShifter | halfWavePlate | quarterWavePlate | timeDelay =>
      obtain rfl := Option.some.inj h
      refine congrArg some (Prod.ext rfl (String.toList_inj.1 ?_))
      show _ = ("circuit.add((" ++ toString mode ++ ",), " ++ call _ [_] ++ ")").toList
      simp only [call_one, String.toList_append, List.append_assoc]
      rfl
    | _ => contradiction

/-- What is written for a gate on two modes is in the table. -/
theorem spelling?_of_dualGate? (h : dualGate? f op.element op.arguments mode next = some g) :
    spelling? f op mode next = some (g.remark, dualStatement f g mode next) := by
  obtain ⟨id, e, m, position, parameters⟩ := op
  cases f with
  | strawberryFields =>
    cases e with
    | beamSplitter =>
      obtain rfl := Option.some.inj h
      refine congrArg some (Prod.ext rfl (String.toList_inj.1 ?_))
      simp only [dualStatement, StrawberryFields.dualStatement, StrawberryFields.wire,
        Operation.arguments, Element.parameterKeys, Element.declared, List.map_cons, List.map_nil,
        call_two, literal, String.toList_append, List.append_assoc]
      rfl
    | _ => contradiction
  | perceval =>
    have hbetween : ∀ front : String, front ++ (toString mode ++ " and " ++ toString next) =
        front ++ toString mode ++ " and " ++ toString next := by
      intro front
      rw [← String.append_assoc, ← String.append_assoc]
    cases e with
    | beamSplitter =>
      obtain rfl := Option.some.inj h
      refine congrArg some (Prod.ext (hbetween _).symm (String.toList_inj.1 ?_))
      show _ = ("circuit.add((" ++ toString mode ++ ", " ++ toString next ++ "), " ++
        call "pcvl.BS" ["theta=" ++ _, "phi_bl=" ++ _] ++ ")").toList
      simp only [call_two, String.toList_append, List.append_assoc]
      rfl
    | permutation =>
      obtain rfl := Option.some.inj h
      refine congrArg some (Prod.ext (hbetween _).symm (String.toList_inj.1 ?_))
      show _ = ("circuit.add((" ++ toString mode ++ ", " ++ toString next ++ "), " ++
        call "pcvl.PERM" ["[1, 0]"] ++ ")").toList
      simp only [call_one, String.toList_append, List.append_assoc]
      rfl
    | polarizingBeamSplitter =>
      obtain rfl := Option.some.inj h
      refine congrArg some (Prod.ext (hbetween _).symm (String.toList_inj.1 ?_))
      show _ = ("circuit.add((" ++ toString mode ++ ", " ++ toString next ++ "), " ++
        "pcvl.PBS()" ++ ")").toList
      simp only [String.toList_append, List.append_assoc]
      rfl
    | unitary =>
      obtain rfl := Option.some.inj h
      refine congrArg some (Prod.ext ?_ (String.toList_inj.1 ?_))
      · exact congrArg (· ++ " (identity placeholder)") (hbetween _).symm
      · show _ = ("circuit.add((" ++ toString mode ++ ", " ++ toString next ++ "), " ++
          call "pcvl.Unitary" [call "pcvl.Matrix" ["[[1, 0], [0, 1]]"]] ++ ")").toList
        simp only [call_one, String.toList_append, List.append_assoc]
        rfl
    | _ => contradiction

/-- What is said in two lines is in the table. -/
theorem Accounts.spelled (h : Accounts f count op ls) (hls : ls.length = 2) :
    ∃ remark text, ls = [.comment remark, .statement text] ∧
      spelling? f op op.mode.index (op.mode.index + 1) = some (remark, text) := by
  cases h with
  | unsupported | dangling | deferred => cases hls
  | single supported arity element gate => exact ⟨_, _, rfl, spelling?_of_singleGate? gate⟩
  | dual supported arity adjacent gate => exact ⟨_, _, rfl, spelling?_of_dualGate? gate⟩

end

/-! ## The whole program -/

/-- What it means that programs account for the operations of a circuit. -/
structure Accounting (f : Framework) (c : Circuit) (first second : List c.Place) : Prop where
  /-- Every live operation other than a measurement is handled once, and no other is. -/
  once : (first ++ second).Perm ((List.finRange _).filter fun p =>
    c.isLiveAt p && (c.operationAt p).element != .measure)
  /-- What is unsupported or on one mode comes first. -/
  of_first : ∀ p ∈ first, (c.operationAt p).element.supportedBy f = false ∨
    (c.operationAt p).element.arity = .single
  /-- What is supported and on two modes comes after it. -/
  of_second : ∀ p ∈ second, (c.operationAt p).element.supportedBy f = true ∧
    (c.operationAt p).element.arity = .dual
  ordered_first : first.Pairwise c.Precedes
  ordered_second : second.Pairwise c.Precedes
  /-- What is written for an operation is what has to be said about it. -/
  accounts : ∀ p, Accounts f c.modeCount.toNat (c.operationAt p) (accountAt f c p)
  /-- Where this is a statement, it is written as in the table. -/
  spelled : ∀ p, (accountAt f c p).length = 2 →
    ∃ remark text, accountAt f c p = [.comment remark, .statement text] ∧
      spelling? f (c.operationAt p) (c.operationAt p).mode.index
        ((c.operationAt p).mode.index + 1) = some (remark, text)
  /-- No element on one mode gets to the fall-back. -/
  single_gate : ∀ e mode arguments, .single e mode arguments ∈ Item.plan f c →
    ∃ g, singleGate? f e arguments = some g
  /-- No element on two modes gets to the fall-back. -/
  dual_gate : ∀ e mode arguments, .dual e mode arguments ∈ Item.plan f c →
    ∃ g, dualGate? f e arguments mode (mode + 1) = some g
  /-- Nothing else is written between the preamble and the measurements. -/
  text : ∀ shots, generate c f shots =
    Line.render (preamble f c.modeCount.toNat (hasKerr c) ++
      ((first ++ second).flatMap (accountAt f c) ++ measurements f c.modeCount).map
        (Line.indentBy (bodyDepth f)) ++
      epilogue f c.modeCount.toNat shots)

/-- The places that are handled, once each. -/
theorem places_perm (f : Framework) (c : Circuit) :
    (firstPlaces f c ++ secondPlaces f c).Perm ((List.finRange _).filter fun p =>
      c.isLiveAt p && (c.operationAt p).element != .measure) := by
  refine (List.perm_ext_iff_of_nodup (places_nodup f c) ((List.nodup_finRange _).filter _)).2 ?_
  intro p
  rw [mem_places, List.mem_filter]
  simp

/-- **Programs account for every live operation exactly once**, in the order of modes, positions and
insertion within each pass, and for no dormant operation. -/
theorem generate_accounting (f : Framework) (c : Circuit) :
    Accounting f c (firstPlaces f c) (secondPlaces f c) where
  once := places_perm f c
  of_first _ hp := (mem_firstPlaces.1 hp).2.imp_right And.left
  of_second _ hp := (mem_secondPlaces.1 hp).2
  ordered_first := c.traversal_pairwise.filter _
  ordered_second := c.traversal_pairwise.filter _
  accounts _ := accounts_account f _ _
  spelled _ h := (accounts_account f _ _).spelled h
  single_gate _ _ _ h := singleGate?_of_mem_plan h
  dual_gate _ _ _ h := dualGate?_of_mem_plan h
  text shots := generate_eq c f shots

end OpticalBench.Program
