import OpticalBench.Proofs.Program.Landmarks

/-!
# Frameworks agree on what they share

Phase shifts and beam splitters have a statement for every framework. The programs of a circuit have
the same ones in the same order, on the same modes and with the same literals, whatever stands between
them. They also agree on the beam splitters that have no partner, on the modes that are measured, on
the distribution that stands in for the result, and on the shots.

- `SharedGate`: a phase shift or a beam splitter, and how it is written for a framework.
- `sharedGates`, `danglingSplitters`: those of a circuit, without any regard to the framework.
- `Shown`: what a reader who looks for them finds in the lines of an item; `shown_of_fits` shows that
  there is nothing else.
- `SharedRows`: what a source says that every framework can say.
- `generate_shares`: the programs of a circuit say the same.
-/

namespace OpticalBench

namespace Program

open Line
open Text (rowsWith)

/-! ## What frameworks share -/

/-- A phase shift on a mode, or a beam splitter on a mode and the one to its right. The angles are
literals. -/
inductive SharedGate
  | phaseShift (mode : Nat) (phi : String)
  | beamSplitter (mode : Nat) (theta phi : String)
  deriving DecidableEq, Inhabited, Repr

/-- How it is written for a framework. -/
def SharedGate.statement : Framework → SharedGate → String
  | .strawberryFields, .phaseShift mode phi =>
    "Rgate(" ++ phi ++ ") | q[" ++ toString mode ++ "]"
  | .strawberryFields, .beamSplitter mode theta phi =>
    "BSgate(" ++ theta ++ ", " ++ phi ++ ") | (q[" ++ toString mode ++ "], q[" ++
      toString (mode + 1) ++ "])"
  | .perceval, .phaseShift mode phi =>
    "circuit.add((" ++ toString mode ++ ",), pcvl.PS(phi=" ++ phi ++ "))"
  | .perceval, .beamSplitter mode theta phi =>
    "circuit.add((" ++ toString mode ++ ", " ++ toString (mode + 1) ++ "), pcvl.BS(theta=" ++ theta ++
      ", phi_bl=" ++ phi ++ "))"

/-- The operations with an element on a mode, in order. -/
def having (c : Circuit) (e : Element) (mode : Nat) : List Operation :=
  (c.onMode mode).filter fun op => op.element == e

/-- The phase shifts of a circuit mode by mode, then the beam splitters that have a partner. -/
def sharedGates (c : Circuit) : List SharedGate :=
  (c.modeCount.modes.flatMap fun mode =>
    (having c .phaseShifter mode).map fun op => .phaseShift mode (literal op "phi")) ++
  c.modeCount.modes.flatMap fun mode =>
    if mode + 1 < c.modeCount.toNat then
      (having c .beamSplitter mode).map fun op =>
        .beamSplitter mode (literal op "theta") (literal op "phi")
    else []

/-- The modes of the beam splitters that have none. -/
def danglingSplitters (c : Circuit) : List Nat :=
  c.modeCount.modes.flatMap fun mode =>
    if mode + 1 < c.modeCount.toNat then [] else (having c .beamSplitter mode).map fun _ => mode

/-- What stands before a statement of a framework. -/
def margin : Framework → String
  | .strawberryFields => "    "
  | .perceval => ""

/-- What a source says that every framework can say. -/
structure SharedRows (f : Framework) (gates : List SharedGate) (dangling : List Nat) (count : Nat)
    (distribution : String) (shots : Nat) (source : String) : Prop where
  gates : rowsWith (sharedCalls f) source = gates.map fun g => (margin f ++ g.statement f).toList
  dangling : rowsWith [danglingMark] source = dangling.map fun mode =>
    (margin f ++ "# Beam Splitter at mode " ++ toString mode ++
      " has no adjacent mode to connect to").toList
  measured : rowsWith [measurementCall f] source =
    (List.range count).map fun mode => (measurementRow f mode).toList
  fallback : rowsWith [fallbackMark] source = [("    probabilities = " ++ distribution).toList]
  shots : rowsWith [shotsMark] source = [("shots = " ++ toString shots).toList]

end Program

namespace Item

open Program (SharedGate)

/-- The shared gate of an item. -/
def sharedGate? : Item → Option SharedGate
  | .single .phaseShifter mode [phi] => some (.phaseShift mode phi)
  | .dual .beamSplitter mode [theta, phi] => some (.beamSplitter mode theta phi)
  | _ => none

/-- The mode of a beam splitter without a partner. -/
def danglingSplitter? : Item → Option Nat
  | .dangling .beamSplitter mode => some mode
  | _ => none

end Item

namespace Program

open Line
open Text (Lacks rowsWith lacks_append_number_append)

/-! ## Statements that are not shared -/

/-- Characters that are in no argument, and in no statement but the shared ones and that of a
polarizing beam splitter. -/
def plainMarks : Framework → List Char
  | .strawberryFields => ['R', 'B', 's', '#']
  | .perceval => ['S', 's', '#']

section

variable {f : Framework} {e : Element} {g : Gate} {arguments : List String} {mode next : Nat}
  {s : String}

/-- A landmark has one of them. -/
theorem lacks_of_plainMarks (h : Without (plainMarks f) s) : Lacks (landmarks f) s := by
  rw [landmarks_eq]
  exact Text.lacks_of_marks _ (plainMarks f) (by cases f <;> decide) h

theorem plainMarks_brackets (f : Framework) :
    ∀ s ∈ ["(", ")", ", ", "="], Without (plainMarks f) s := by
  cases f <;> decide

theorem plainMarks_arguments (f : Framework) (op : Operation) :
    ∀ x ∈ op.arguments, Without (plainMarks f) x := without_arguments_of (by cases f <;> decide) op

theorem plainMarks_number (f : Framework) (n : Nat) : Without (plainMarks f) (toString n) :=
  without_toString _ (by cases f <;> decide) n

theorem plain_singleGate (hxs : ∀ x ∈ arguments, Without (plainMarks f) x) (he : e ≠ .phaseShifter)
    (h : singleGate? f e arguments = some g) : Without (plainMarks f) g.call := by
  have hbrackets := plainMarks_brackets f
  cases f with
  | strawberryFields =>
    cases e with
    | laser =>
      obtain rfl := Option.some.inj h
      exact without_call_of_brackets hbrackets (by decide) (by decide)
    | squeezeGate | displacementGate | kerrGate =>
      obtain rfl := Option.some.inj h
      exact without_call_of_brackets hbrackets (without_ofList (by decide)) hxs
    | _ => contradiction
  | perceval =>
    cases e with
    | halfWavePlate | quarterWavePlate | timeDelay =>
      obtain rfl := Option.some.inj h
      exact without_call_of_brackets hbrackets (without_ofList (by decide)) hxs
    | _ => contradiction

theorem plain_singleStatement (h : Without (plainMarks f) g.call) (mode : Nat) :
    Without (plainMarks f) (singleStatement f g mode) := by
  have hmode := plainMarks_number f mode
  cases f with
  | strawberryFields =>
    show Without _ (g.call ++ " | " ++ ("q[" ++ toString mode ++ "]"))
    simp only [without_append, h, hmode, and_true, true_and]
    and_intros <;> exact without_ofList (by decide)
  | perceval =>
    show Without _ ("circuit.add((" ++ toString mode ++ ",), " ++ g.call ++ ")")
    simp only [without_append, h, hmode, and_true]
    and_intros <;> exact without_ofList (by decide)

/-- A statement on two modes that is not shared has no landmark. -/
theorem lacks_dualStatement (he : e ≠ .beamSplitter) (h : dualGate? f e arguments mode next = some g) :
    Lacks (landmarks f) (dualStatement f g mode next) := by
  have hplain : ∀ {g : Gate}, Without (plainMarks .perceval) g.call →
      Lacks (landmarks .perceval) (dualStatement .perceval g mode next) := by
    intro g hcall
    refine lacks_of_plainMarks ?_
    show Without _
      ("circuit.add((" ++ toString mode ++ ", " ++ toString next ++ "), " ++ g.call ++ ")")
    simp only [without_append, hcall, plainMarks_number .perceval, and_true]
    and_intros <;> exact without_ofList (by decide)
  have hbrackets := plainMarks_brackets .perceval
  cases f with
  | strawberryFields => cases e <;> contradiction
  | perceval =>
    cases e with
    | permutation =>
      obtain rfl := Option.some.inj h
      exact hplain (without_call_of_brackets hbrackets (by decide) (by decide))
    | unitary =>
      obtain rfl := Option.some.inj h
      refine hplain (without_call_of_brackets hbrackets (without_ofList (by decide)) ?_)
      exact List.forall_mem_singleton.2 (without_call_of_brackets hbrackets
        (without_ofList (by decide)) (by decide))
    | polarizingBeamSplitter =>
      -- its call has the letters of the shared ones, but not in their order
      obtain rfl := Option.some.inj h
      have hcall : call "pcvl.PBS" [] = "pcvl.PBS()" := by decide
      show Lacks _ ("circuit.add((" ++ toString mode ++ ", " ++ toString next ++ "), " ++
        call "pcvl.PBS" [] ++ ")")
      rw [hcall, String.append_assoc, String.append_assoc]
      simp only [String.reduceAppend, lacks_landmarks_number]
      and_intros <;> exact lacks_landmarks (by decide)
    | _ => contradiction

/-! ## Comments -/

theorem lacks_unsupported (f : Framework) (e : Element) (mode : Nat) :
    Lacks (landmarks f) (unsupported f e mode).text := by
  have htext : (unsupported f e mode).text = "# " ++ e.label ++ " on mode " ++ toString mode ++
      (": unsupported in " ++ f.displayName ++ " (no native statement)") := by
    simp only [unsupported, text_comment, String.append_assoc]
  rw [htext, lacks_landmarks_number]
  constructor
  · cases e <;>
    · simp only [Element.label, String.reduceAppend]
      exact lacks_landmarks (by cases f <;> decide)
  · cases f <;>
    · simp only [Framework.displayName, String.reduceAppend]
      exact lacks_landmarks (by decide)

theorem lacks_dangling (he : e ≠ .beamSplitter) (h : e.arity = .dual) (mode : Nat) :
    Lacks (landmarks f) (dangling e mode).text := by
  cases e <;> first
    | contradiction
    | (simp only [dangling, text_comment, Element.label, ← String.append_assoc, String.reduceAppend,
        lacks_landmarks_number]
       and_intros <;> exact lacks_landmarks (by cases f <;> decide))

theorem lacks_singleRemark (h : singleGate? f e arguments = some g) :
    Lacks (landmarks f) (comment g.remark).text := by
  cases f <;> cases e <;> first
    | contradiction
    | (obtain rfl := Option.some.inj h
       simp only [text_comment, String.reduceAppend]
       exact lacks_landmarks (by decide))

theorem lacks_dualRemark (h : dualGate? f e arguments mode next = some g) :
    Lacks (landmarks f) (comment g.remark).text := by
  have hend := fun s n => Text.lacks_append_number (s := s) (noDigits_landmarks f) n
  cases f <;> cases e <;> first
    | contradiction
    | (obtain rfl := Option.some.inj h
       simp only [text_comment, ← String.append_assoc, String.reduceAppend, lacks_landmarks_number,
         hend]
       and_intros <;> exact lacks_landmarks (by decide))

end

/-! ## Statements that are shared -/

theorem arguments_phaseShifter {op : Operation} (h : op.element = .phaseShifter) :
    op.arguments = [literal op "phi"] := by
  rw [Operation.arguments, h]
  rfl

theorem arguments_beamSplitter {op : Operation} (h : op.element = .beamSplitter) :
    op.arguments = [literal op "theta", literal op "phi"] := by
  rw [Operation.arguments, h]
  rfl

theorem statement_phaseShift {f : Framework} {g : Gate} {phi : String}
    (h : singleGate? f .phaseShifter [phi] = some g) (mode : Nat) :
    singleStatement f g mode = (SharedGate.phaseShift mode phi).statement f := by
  rw [← String.toList_inj]
  cases f with
  | strawberryFields =>
    obtain rfl := Option.some.inj h
    show (call "Rgate" [phi] ++ " | " ++ ("q[" ++ toString mode ++ "]")).toList =
      ("Rgate(" ++ phi ++ ") | q[" ++ toString mode ++ "]").toList
    simp only [call, String.toList_append, String.toList_intercalate, List.map_cons, List.map_nil,
      List.intercalate_singleton, List.append_assoc]
    rfl
  | perceval =>
    obtain rfl := Option.some.inj h
    show ("circuit.add((" ++ toString mode ++ ",), " ++ call "pcvl.PS" ["phi" ++ "=" ++ phi] ++
      ")").toList = ("circuit.add((" ++ toString mode ++ ",), pcvl.PS(phi=" ++ phi ++ "))").toList
    simp only [call, String.toList_append, String.toList_intercalate, List.map_cons, List.map_nil,
      List.intercalate_singleton, List.append_assoc]
    rfl

theorem statement_beamSplitter {f : Framework} {g : Gate} {theta phi : String} {mode : Nat}
    (h : dualGate? f .beamSplitter [theta, phi] mode (mode + 1) = some g) :
    dualStatement f g mode (mode + 1) = (SharedGate.beamSplitter mode theta phi).statement f := by
  rw [← String.toList_inj]
  cases f with
  | strawberryFields =>
    obtain rfl := Option.some.inj h
    show (call "BSgate" [theta, phi] ++ " | (" ++ ("q[" ++ toString mode ++ "]") ++ ", " ++
      ("q[" ++ toString (mode + 1) ++ "]") ++ ")").toList =
      ("BSgate(" ++ theta ++ ", " ++ phi ++ ") | (q[" ++ toString mode ++ "], q[" ++
        toString (mode + 1) ++ "])").toList
    simp only [call, String.toList_append, String.toList_intercalate, List.map_cons, List.map_nil,
      List.intercalate_cons_cons, List.intercalate_singleton, List.append_assoc]
    rfl
  | perceval =>
    obtain rfl := Option.some.inj h
    show ("circuit.add((" ++ toString mode ++ ", " ++ toString (mode + 1) ++ "), " ++
      call "pcvl.BS" ["theta" ++ "=" ++ theta, "phi_bl" ++ "=" ++ phi] ++ ")").toList =
      ("circuit.add((" ++ toString mode ++ ", " ++ toString (mode + 1) ++ "), pcvl.BS(theta=" ++
        theta ++ ", phi_bl=" ++ phi ++ "))").toList
    simp only [call, String.toList_append, String.toList_intercalate, List.map_cons, List.map_nil,
      List.intercalate_cons_cons, List.intercalate_singleton, List.append_assoc]
    rfl

/-- A shared statement has a shared call. -/
theorem hasAny_statement (f : Framework) (g : SharedGate) :
    Text.hasAny (sharedCalls f) (g.statement f).toList = true := by
  rw [Text.hasAny_iff]
  cases f with
  | strawberryFields =>
    cases g with
    | phaseShift mode phi =>
      refine ⟨"Rgate(", by decide, [], (phi ++ ") | q[" ++ toString mode ++ "]").toList, ?_⟩
      show _ = ("Rgate(" ++ phi ++ ") | q[" ++ toString mode ++ "]").toList
      simp only [String.toList_append, List.append_assoc, List.nil_append]
    | beamSplitter mode theta phi =>
      refine ⟨"BSgate(", by decide, [], (theta ++ ", " ++ phi ++ ") | (q[" ++ toString mode ++
        "], q[" ++ toString (mode + 1) ++ "])").toList, ?_⟩
      show _ = ("BSgate(" ++ theta ++ ", " ++ phi ++ ") | (q[" ++ toString mode ++ "], q[" ++
        toString (mode + 1) ++ "])").toList
      simp only [String.toList_append, List.append_assoc, List.nil_append]
  | perceval =>
    cases g with
    | phaseShift mode phi =>
      refine ⟨"pcvl.PS(", by decide, ("circuit.add((" ++ toString mode ++ ",), ").toList,
        ("phi=" ++ phi ++ "))").toList, ?_⟩
      show _ = ("circuit.add((" ++ toString mode ++ ",), pcvl.PS(phi=" ++ phi ++ "))").toList
      simp only [String.toList_append, List.append_assoc]
      rfl
    | beamSplitter mode theta phi =>
      refine ⟨"pcvl.BS(", by decide,
        ("circuit.add((" ++ toString mode ++ ", " ++ toString (mode + 1) ++ "), ").toList,
        ("theta=" ++ theta ++ ", phi_bl=" ++ phi ++ "))").toList, ?_⟩
      show _ = ("circuit.add((" ++ toString mode ++ ", " ++ toString (mode + 1) ++
        "), pcvl.BS(theta=" ++ theta ++ ", phi_bl=" ++ phi ++ "))").toList
      simp only [String.toList_append, List.append_assoc]
      rfl

/-- Characters that are in no shared statement, if they are in none of its literals. -/
def gateMarks : List Char := ['s', '#']

/-- The literals of a shared statement. -/
def SharedGate.literals : SharedGate → List String
  | .phaseShift _ phi => [phi]
  | .beamSplitter _ theta phi => [theta, phi]

theorem without_literals {f : Framework} {op : Operation} {xs : List String}
    (h : xs ⊆ op.arguments) : ∀ x ∈ xs, Without gateMarks x := by
  intro x hx
  refine (plainMarks_arguments f op x (h hx)).mono ?_
  cases f <;> decide

/-- A shared statement has no other landmark. -/
theorem lacks_statement {g : SharedGate} (h : ∀ x ∈ g.literals, Without gateMarks x)
    (f : Framework) : Lacks commonMarks (g.statement f) := by
  have hnumber := without_toString gateMarks (by decide)
  have hwithout : Without gateMarks (g.statement f) := by
    cases g with
    | phaseShift mode phi =>
      have hphi := h phi List.mem_cons_self
      cases f with
      | strawberryFields =>
        show Without _ ("Rgate(" ++ phi ++ ") | q[" ++ toString mode ++ "]")
        simp only [without_append, hnumber, hphi, and_true]
        and_intros <;> exact without_ofList (by decide)
      | perceval =>
        show Without _ ("circuit.add((" ++ toString mode ++ ",), pcvl.PS(phi=" ++ phi ++ "))")
        simp only [without_append, hnumber, hphi, and_true]
        and_intros <;> exact without_ofList (by decide)
    | beamSplitter mode theta phi =>
      have htheta := h theta List.mem_cons_self
      have hphi := h phi (List.mem_cons_of_mem _ List.mem_cons_self)
      cases f with
      | strawberryFields =>
        show Without _ ("BSgate(" ++ theta ++ ", " ++ phi ++ ") | (q[" ++ toString mode ++ "], q[" ++
          toString (mode + 1) ++ "])")
        simp only [without_append, hnumber, htheta, hphi, and_true]
        and_intros <;> exact without_ofList (by decide)
      | perceval =>
        show Without _ ("circuit.add((" ++ toString mode ++ ", " ++ toString (mode + 1) ++
          "), pcvl.BS(theta=" ++ theta ++ ", phi_bl=" ++ phi ++ "))")
        simp only [without_append, hnumber, htheta, hphi, and_true]
        and_intros <;> exact without_ofList (by decide)
  exact lacks_of_without gateMarks (by decide) hwithout

/-! ## What is found in the lines of an item -/

/-- What a reader who looks for shared statements finds in the lines of an item: nothing, a gate below
its remark, or a beam splitter without a partner. -/
inductive Shown (f : Framework) : Item → Prop
  | nothing {i : Item} (lacks : AllLack (landmarks f) (i.lines f)) (gate : i.sharedGate? = none)
    (dangling : i.danglingSplitter? = none) : Shown f i
  | gate {i : Item} {remark : String} {g : SharedGate} (gate : i.sharedGate? = some g)
    (dangling : i.danglingSplitter? = none)
    (lines : i.lines f = [comment remark, .statement (g.statement f)])
    (lacks_remark : Lacks (landmarks f) (comment remark).text)
    (lacks : Lacks commonMarks (g.statement f)) : Shown f i
  | dangling (mode : Nat) : Shown f (.dangling .beamSplitter mode)

section

variable {f : Framework} {i : Item}

/-- The items of a plan show nothing else. -/
theorem shown_of_fits (h : Fits f i) : Shown f i := by
  have hnil : AllLack (landmarks f) [] := allLack_nil
  cases h with
  | unsupported unsupported =>
    exact .nothing (allLack_cons.2 ⟨lacks_unsupported f _ _, hnil⟩) rfl rfl
  | @single e mode op supported arity element operation =>
    obtain ⟨g, hg⟩ := exists_singleGate supported arity element op.arguments
    have hlines : Item.lines f (.single e mode op.arguments) =
        [comment g.remark, .statement (singleStatement f g mode)] := by
      simp only [Item.lines, single, hg]
    by_cases he : e = .phaseShifter
    · subst he
      -- arguments are numbers, so only what stands around them can show anything
      have harguments := arguments_phaseShifter operation
      have hliterals : ∀ x ∈ op.arguments, Without gateMarks x :=
        without_literals (f := f) (List.Subset.refl _)
      rw [harguments] at hg hlines hliterals ⊢
      rw [statement_phaseShift hg] at hlines
      exact .gate rfl rfl hlines (lacks_singleRemark hg)
        (lacks_statement (g := .phaseShift mode _) hliterals f)
    · refine .nothing ?_ ?_ rfl
      · have hcall := plain_singleGate (plainMarks_arguments f op) he hg
        rw [hlines]
        exact allLack_cons.2 ⟨lacks_singleRemark hg, allLack_cons.2
          ⟨lacks_of_plainMarks (plain_singleStatement hcall mode), hnil⟩⟩
      · cases e <;> first | rfl | contradiction
  | @dual e mode op supported arity operation =>
    obtain ⟨g, hg⟩ := exists_dualGate supported arity op.arguments mode (mode + 1)
    have hlines : Item.lines f (.dual e mode op.arguments) =
        [comment g.remark, .statement (dualStatement f g mode (mode + 1))] := by
      simp only [Item.lines, dual, hg]
    by_cases he : e = .beamSplitter
    · subst he
      have harguments := arguments_beamSplitter operation
      have hliterals : ∀ x ∈ op.arguments, Without gateMarks x :=
        without_literals (f := f) (List.Subset.refl _)
      rw [harguments] at hg hlines hliterals ⊢
      rw [statement_beamSplitter hg] at hlines
      exact .gate rfl rfl hlines (lacks_dualRemark hg)
        (lacks_statement (g := .beamSplitter mode _ _) hliterals f)
    · refine .nothing ?_ ?_ rfl
      · rw [hlines]
        exact allLack_cons.2 ⟨lacks_dualRemark hg, allLack_cons.2 ⟨lacks_dualStatement he hg, hnil⟩⟩
      · cases e <;> first | rfl | contradiction
  | @dangling e mode supported arity =>
    by_cases he : e = .beamSplitter
    · rw [he]
      exact .dangling mode
    · refine .nothing (allLack_cons.2 ⟨lacks_dangling he arity mode, hnil⟩) rfl ?_
      cases e <;> first | rfl | contradiction

/-! ### What is found by each landmark -/

theorem mem_landmarks {p : String} (hp : p ∈ commonMarks) : [p] ⊆ landmarks f :=
  List.cons_subset.2 ⟨List.mem_append_right _ hp, List.nil_subset _⟩

theorem sharedCalls_subset (f : Framework) : sharedCalls f ⊆ landmarks f :=
  List.subset_append_left _ _

/-- The comment for a beam splitter without a partner has no other landmark. -/
theorem lacks_danglingSplitter (f : Framework) (mode : Nat) :
    Lacks (sharedCalls f ++ [fallbackMark, shotsMark]) (Program.dangling .beamSplitter mode).text := by
  have hdigits : Text.NoDigits (sharedCalls f ++ [fallbackMark, shotsMark]) := by
    refine fun p hp => noDigits_landmarks f p ?_
    revert p
    cases f <;> decide
  have hfront : Lacks (sharedCalls f ++ [fallbackMark, shotsMark]) "# Beam Splitter at mode " := by
    unfold Lacks
    cases f <;> decide
  have hback : Lacks (sharedCalls f ++ [fallbackMark, shotsMark])
      " has no adjacent mode to connect to" := by
    unfold Lacks
    cases f <;> decide
  simp only [Program.dangling, text_comment, Element.label, ← String.append_assoc,
    String.reduceAppend]
  exact (lacks_append_number_append hdigits mode).2 ⟨hfront, hback⟩

theorem marked_sharedCalls (h : Shown f i) : marked (sharedCalls f) (i.lines f) =
    (i.sharedGate?.map fun g => .statement (g.statement f)).toList := by
  cases h with
  | nothing lacks gate =>
    rw [gate]
    exact marked_of_allLack fun l hl => (lacks l hl).mono (sharedCalls_subset f)
  | @gate _ remark g gate _ lines lacks_remark =>
    have hremark := lacks_remark.mono (sharedCalls_subset f)
    have hstatement : Text.hasAny (sharedCalls f) (Line.statement (g.statement f)).text.toList = true :=
      hasAny_statement f g
    rw [gate, lines, marked_cons_of_lacks hremark, marked_cons_of_has hstatement]
    rfl
  | dangling mode =>
    refine marked_cons_of_lacks ((lacks_danglingSplitter f mode).mono ?_)
    exact List.subset_append_left _ _

theorem marked_danglingMark (h : Shown f i) : marked [danglingMark] (i.lines f) =
    (i.danglingSplitter?.map fun mode => Program.dangling .beamSplitter mode).toList := by
  have hsub : [danglingMark] ⊆ landmarks f := mem_landmarks (by decide)
  cases h with
  | nothing lacks gate dangling =>
    rw [dangling]
    exact marked_of_allLack fun l hl => (lacks l hl).mono hsub
  | @gate _ remark g gate dangling lines lacks_remark lacks =>
    have hstatement : Lacks [danglingMark] (Line.statement (g.statement f)).text :=
      lacks.mono (by decide)
    rw [dangling, lines, marked_cons_of_lacks (lacks_remark.mono hsub),
      marked_cons_of_lacks hstatement]
    rfl
  | dangling mode =>
    refine marked_cons_of_has (Text.hasAny_iff.2 ⟨danglingMark, List.mem_singleton_self _, ?_⟩)
    refine ⟨[], (toString mode ++ " has no adjacent mode to connect to").toList, ?_⟩
    simp only [Program.dangling, text_comment, Element.label, String.toList_append,
      List.append_assoc, List.nil_append]
    rfl

theorem marked_other {p : String} (hp : p ∈ [fallbackMark, shotsMark]) (h : Shown f i) :
    marked [p] (i.lines f) = [] := by
  have hcommon : p ∈ commonMarks := List.mem_cons_of_mem _ hp
  have hsub : [p] ⊆ landmarks f := mem_landmarks hcommon
  cases h with
  | nothing lacks => exact marked_of_allLack fun l hl => (lacks l hl).mono hsub
  | @gate _ remark g _ _ lines lacks_remark lacks =>
    have hstatement : Lacks [p] (Line.statement (g.statement f)).text :=
      lacks.single hcommon
    rw [lines, marked_cons_of_lacks (lacks_remark.mono hsub), marked_cons_of_lacks hstatement]
    rfl
  | dangling mode =>
    exact marked_cons_of_lacks ((lacks_danglingSplitter f mode).single (List.mem_append_right _ hp))

end

/-! ## What is found in a plan -/

section

variable {f : Framework} {mode : Nat}

theorem sharedGate?_single {e : Element} {arguments : List String} (he : e ≠ .phaseShifter) :
    Item.sharedGate? (.single e mode arguments) = none := by
  cases e <;> first | rfl | contradiction

theorem sharedGate?_dual {e : Element} {arguments : List String} (he : e ≠ .beamSplitter) :
    Item.sharedGate? (.dual e mode arguments) = none := by
  cases e <;> first | rfl | contradiction

theorem danglingSplitter?_dangling {e : Element} (he : e ≠ .beamSplitter) :
    Item.danglingSplitter? (.dangling e mode) = none := by
  cases e <;> first | rfl | contradiction

/-- The first pass has the phase shifts, whatever the framework. -/
theorem sharedGate?_firstPass (f : Framework) (mode : Nat) (op : Operation) :
    (Item.firstPass? f mode op).bind Item.sharedGate? =
      if op.element == .phaseShifter then some (.phaseShift mode (literal op "phi")) else none := by
  by_cases he : op.element = .phaseShifter
  · rw [if_pos (by simp [he]), Item.firstPass?, arguments_phaseShifter he, he]
    cases f <;> rfl
  · rw [if_neg (by simp [he])]
    cases hitem : Item.firstPass? f mode op with
    | none => rfl
    | some i =>
      rcases firstPass?_cases hitem with ⟨-, rfl⟩ | ⟨-, -, -, rfl⟩
      · rfl
      · exact sharedGate?_single he

/-- The second pass has the beam splitters with a partner. -/
theorem sharedGate?_secondPass (f : Framework) (count mode : Nat) (op : Operation) :
    (Item.secondPass? f count mode op).bind Item.sharedGate? =
      if mode + 1 < count then
        if op.element == .beamSplitter then
          some (.beamSplitter mode (literal op "theta") (literal op "phi"))
        else none
      else none := by
  by_cases he : op.element = .beamSplitter
  · have hhandled : (op.element.isDual && op.element.supportedBy f) = true := by
      rw [he]
      cases f <;> rfl
    rw [Item.secondPass?, if_pos hhandled, arguments_beamSplitter he, he]
    by_cases hnext : mode + 1 < count
    · rw [if_pos hnext, if_pos hnext]
      rfl
    · rw [if_neg hnext, if_neg hnext]
      rfl
  · -- the inner conditional is meant, not the one on the partner
    rw [if_neg (c := (op.element == .beamSplitter) = true) (by simp [he]), ite_self]
    cases hitem : Item.secondPass? f count mode op with
    | none => rfl
    | some i =>
      obtain ⟨-, -, ⟨-, rfl⟩ | ⟨-, rfl⟩⟩ := secondPass?_cases hitem
      · exact sharedGate?_dual he
      · rfl

theorem danglingSplitter?_firstPass (f : Framework) (mode : Nat) (op : Operation) :
    (Item.firstPass? f mode op).bind Item.danglingSplitter? = none := by
  cases hitem : Item.firstPass? f mode op with
  | none => rfl
  | some i => rcases firstPass?_cases hitem with ⟨-, rfl⟩ | ⟨-, -, -, rfl⟩ <;> rfl

/-- The second pass has the beam splitters without one. -/
theorem danglingSplitter?_secondPass (f : Framework) (count mode : Nat) (op : Operation) :
    (Item.secondPass? f count mode op).bind Item.danglingSplitter? =
      if mode + 1 < count then none
      else if op.element == .beamSplitter then some mode else none := by
  by_cases he : op.element = .beamSplitter
  · have hhandled : (op.element.isDual && op.element.supportedBy f) = true := by
      rw [he]
      cases f <;> rfl
    rw [Item.secondPass?, if_pos hhandled, he]
    by_cases hnext : mode + 1 < count
    · rw [if_pos hnext, if_pos hnext]
      rfl
    · rw [if_neg hnext, if_neg hnext]
      rfl
  · rw [if_neg (c := (op.element == .beamSplitter) = true) (by simp [he]), ite_self]
    cases hitem : Item.secondPass? f count mode op with
    | none => rfl
    | some i =>
      obtain ⟨-, -, ⟨-, rfl⟩ | ⟨-, rfl⟩⟩ := secondPass?_cases hitem
      · rfl
      · exact danglingSplitter?_dangling he

/-- What is made of the operations with an element. -/
theorem map_having {α : Type} (c : Circuit) (e : Element) (mode : Nat) (make : Operation → α) :
    (having c e mode).map make =
      (c.onMode mode).filterMap fun op => if op.element == e then some (make op) else none := by
  rw [having, ← List.filterMap_eq_map, List.filterMap_filter]
  rfl

/-- The shared gates of a plan are those of the circuit, whatever the framework. -/
theorem filterMap_sharedGate? (f : Framework) (c : Circuit) :
    (Item.plan f c).filterMap Item.sharedGate? = sharedGates c := by
  rw [Item.plan, List.filterMap_append, List.filterMap_flatMap, List.filterMap_flatMap, sharedGates]
  refine congrArg₂ (· ++ ·) (List.flatMap_congr fun mode _ => ?_)
    (List.flatMap_congr fun mode _ => ?_)
  · rw [List.filterMap_filterMap, map_having]
    exact List.filterMap_congr fun op _ => sharedGate?_firstPass f mode op
  · rw [List.filterMap_filterMap, List.filterMap_congr fun op _ =>
      sharedGate?_secondPass f c.modeCount.toNat mode op]
    by_cases hnext : mode + 1 < c.modeCount.toNat
    · simp only [if_pos hnext]
      exact (map_having ..).symm
    · simp only [if_neg hnext, List.filterMap_none]

/-- So are the beam splitters without a partner. -/
theorem filterMap_danglingSplitter? (f : Framework) (c : Circuit) :
    (Item.plan f c).filterMap Item.danglingSplitter? = danglingSplitters c := by
  have hfirst : (c.modeCount.modes.flatMap fun mode => (c.onMode mode).filterMap fun op =>
      (Item.firstPass? f mode op).bind Item.danglingSplitter?) = [] := by
    simp only [danglingSplitter?_firstPass, List.filterMap_none, List.flatMap_eq_nil_iff, implies_true]
  rw [Item.plan, List.filterMap_append, List.filterMap_flatMap, List.filterMap_flatMap]
  simp only [List.filterMap_filterMap]
  rw [hfirst, List.nil_append, danglingSplitters]
  refine List.flatMap_congr fun mode _ => ?_
  rw [List.filterMap_congr fun op _ => danglingSplitter?_secondPass f c.modeCount.toNat mode op]
  by_cases hnext : mode + 1 < c.modeCount.toNat
  · simp only [if_pos hnext, List.filterMap_none]
  · simp only [if_neg hnext]
    exact (map_having ..).symm

/-- If every item shows what is looked for in it, so do all of them. -/
theorem marked_items {α : Type} {patterns : List String} {find : Item → Option α} {write : α → Line}
    {items : List Item} (h : ∀ i ∈ items,
      marked patterns (i.lines f) = ((find i).map write).toList) :
    marked patterns (items.flatMap (Item.lines f)) = (items.filterMap find).map write := by
  rw [marked, List.filter_flatMap, List.map_filterMap, List.filterMap_eq_flatMap_toList]
  exact List.flatMap_congr h

end

/-! ## What is found in a program -/

/-- A statement of an operation is indented by the margin. -/
theorem row_eq_margin {f : Framework} {s : String} (h : s.toList ≠ []) :
    Program.row (bodyDepth f) (statement s) = (margin f ++ s).toList := by
  have hempty : ¬ s.isEmpty = true := fun hempty =>
    h (String.toList_eq_nil_iff.2 (String.isEmpty_iff.1 hempty))
  rw [String.toList_append]
  cases f <;> exact if_neg hempty

/-- Other lines do not assign the distribution or the shots, and name no shared call. -/
theorem marked_assignments {patterns : List String} {f : Framework} {count shots : Nat}
    (hfallback : patterns ⊆ sharedCalls f ++ [danglingMark, shotsMark])
    (hshots : patterns ⊆ sharedCalls f ++ [danglingMark, fallbackMark]) :
    marked patterns [fallbackLine count, shotsLine shots] = [] := by
  rw [marked_cons_of_lacks ((lacks_fallbackLine f count).mono hfallback),
    marked_cons_of_lacks ((lacks_shotsLine f shots).mono hshots)]
  rfl

theorem rowsWith_measurementCall (c : Circuit) (f : Framework) (shots : Nat) :
    rowsWith [measurementCall f] (generate c f shots) =
      (List.range c.modeCount.toNat).map fun mode => (measurementRow f mode).toList := by
  have hne : (measurementCall f).toList ≠ [] :=
    (of_mem_needles (of_mem_deferred (measurementCall_mem f) f).1).1
  have hothers : ∀ rows ⊆ rowsBefore f c ++ rowsAfter f c.modeCount.toNat shots,
      rows.filter (Text.hasAny [measurementCall f]) = [] := by
    intro rows hrows
    refine List.filter_eq_nil_iff.2 fun row hrow hhas => ?_
    obtain ⟨p, hp, hoccurs⟩ := Text.hasAny_iff.1 hhas
    obtain rfl := List.mem_singleton.1 hp
    exact not_infix_others f (hrows hrow) hoccurs
  have hmeasured : ∀ row ∈ (List.range c.modeCount.toNat).map fun mode =>
      (measurementRow f mode).toList, Text.hasAny [measurementCall f] row = true := by
    intro row hrow
    obtain ⟨mode, -, rfl⟩ := List.mem_map.1 hrow
    refine Text.hasAny_iff.2 ⟨_, List.mem_singleton_self _, by_contra fun habsent => ?_⟩
    have hzero := (Text.occurrences_eq_zero_iff hne).2 habsent
    rw [occurrences_measurementRow] at hzero
    exact absurd hzero Nat.one_ne_zero
  rw [rowsWith, rows_generate, List.filter_append, List.filter_append,
    hothers _ (List.subset_append_left _ _), hothers _ (List.subset_append_right _ _),
    List.filter_eq_self.2 hmeasured, List.nil_append, List.append_nil]

/-- **Frameworks agree on what they share**: the programs of a circuit have the same phase shifts and
beam splitters in the same order, on the same modes and with the same literals, the same beam splitters
without a partner, the same measured modes, the same distribution and the same shots. -/
theorem generate_shares (c : Circuit) (shots : Nat) :
    ∀ f : Framework, SharedRows f (sharedGates c) (danglingSplitters c) c.modeCount.toNat
      (Literal.uniform c.modeCount.toNat) shots (generate c f shots) := by
  intro f
  have hshown : ∀ i ∈ Item.plan f c, Shown f i := fun i hi => shown_of_fits (fits_of_mem_plan hi)
  have hnone : ∀ {p : String}, p ∈ [fallbackMark, shotsMark] →
      marked [p] ((Item.plan f c).flatMap (Item.lines f)) = [] := by
    intro p hp
    refine List.filter_eq_nil_iff.2 fun l hl => ?_
    obtain ⟨i, hi, hl⟩ := List.mem_flatMap.1 hl
    exact List.filter_eq_nil_iff.1 (marked_other hp (hshown i hi)) l hl
  refine ⟨?gates, ?dangling, rowsWith_measurementCall c f shots, ?fallback, ?shots⟩
  case gates =>
    rw [rowsWith_generate (sharedCalls_subset f),
      marked_items fun i hi => marked_sharedCalls (hshown i hi), filterMap_sharedGate?,
      marked_assignments (List.subset_append_left _ _) (List.subset_append_left _ _), List.map_nil,
      List.append_nil, List.map_map]
    refine List.map_congr_left fun g _ => row_eq_margin fun hnil => ?_
    have hcall := hasAny_statement f g
    rw [hnil] at hcall
    revert hcall
    cases f <;> decide
  case dangling =>
    have hsub : ∀ q, [danglingMark] ⊆ sharedCalls f ++ [danglingMark, q] := fun q =>
      List.cons_subset.2 ⟨List.mem_append_right _ List.mem_cons_self, List.nil_subset _⟩
    rw [rowsWith_generate (mem_landmarks (by decide)),
      marked_items fun i hi => marked_danglingMark (hshown i hi), filterMap_danglingSplitter?,
      marked_assignments (hsub _) (hsub _), List.map_nil, List.append_nil, List.map_map]
    refine List.map_congr_left fun mode _ => ?_
    have htext : margin f ++ ("# " ++ (Element.beamSplitter.label ++ " at mode " ++ toString mode ++
        " has no adjacent mode to connect to")) = margin f ++ "# Beam Splitter at mode " ++
          toString mode ++ " has no adjacent mode to connect to" := by
      simp only [Element.label, ← String.append_assoc]
      simp only [String.append_assoc, String.reduceAppend]
    rw [← htext]
    exact row_eq_margin (by simp)
  case fallback =>
    have hlacks : Lacks [fallbackMark] (shotsLine shots).text :=
      (lacks_shotsLine f shots).single (List.mem_append_right _ (by decide))
    rw [rowsWith_generate (mem_landmarks (f := f) (by decide)), hnone (by decide), List.map_nil,
      List.nil_append, marked_cons_of_has (hasAny_fallbackLine _), marked_cons_of_lacks hlacks]
    have hrow := characters_eq_append (s := "probabilities = " ++ Literal.uniform c.modeCount.toNat)
      (begins_append (begins_ofList (by decide)) _) 1
    have hindented : ("    probabilities = " ++ Literal.uniform c.modeCount.toNat).toList =
        List.replicate 4 ' ' ++ ("probabilities = " ++ Literal.uniform c.modeCount.toNat).toList := by
      simp only [String.toList_append]
      rfl
    exact congrArg (· :: []) (hrow.trans hindented.symm)
  case shots =>
    have hlacks : Lacks [shotsMark] (fallbackLine c.modeCount.toNat).text :=
      (lacks_fallbackLine f _).single (List.mem_append_right _ (by decide))
    rw [rowsWith_generate (mem_landmarks (f := f) (by decide)), hnone (by decide), List.map_nil,
      List.nil_append, marked_cons_of_lacks hlacks, marked_cons_of_has (hasAny_shotsLine _)]
    exact congrArg (· :: []) (characters_eq_append (s := "shots = " ++ toString shots)
      (begins_append (begins_ofList (by decide)) _) 0)

end Program

end OpticalBench
