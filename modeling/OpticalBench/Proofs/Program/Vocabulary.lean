import OpticalBench.Proofs.Program.Faithfulness
import OpticalBench.Proofs.Text.Occurrence

/-!
# Where programs measure, name modes and run

A few calls and brackets matter to a reader of a program: what measures a mode, what names one, what
declares how many there are, and what runs the program. Most lines have none of them, whatever their
numbers are.

- `needles`: these calls and brackets.
- `AllLack`: lines in which they do not occur.
- `exists_declaration`: one line of the preamble declares the modes, and the others have no needle.
- `allLack_epilogue`: the epilogue runs the program, and has no other needle.
- `Says`: what the lines of the items in a plan can be; `says_of_mem_plan` shows that there are no
  others.
-/

namespace OpticalBench

namespace Line

open Text (Lacks)

/-- Lines in which none of several patterns occurs. -/
def AllLack (patterns : List String) (ls : List Line) : Prop := ∀ l ∈ ls, Lacks patterns l.text

section

variable {patterns : List String} {l : Line} {ls ms : List Line}

theorem allLack_nil : AllLack patterns [] := nofun

theorem allLack_cons : AllLack patterns (l :: ls) ↔ Lacks patterns l.text ∧ AllLack patterns ls :=
  List.forall_mem_cons

theorem allLack_append :
    AllLack patterns (ls ++ ms) ↔ AllLack patterns ls ∧ AllLack patterns ms :=
  List.forall_mem_append

theorem allLack_map_indentBy {levels : Nat} :
    AllLack patterns (ls.map (indentBy levels)) ↔ AllLack patterns ls := List.forall_mem_map

theorem allLack_block {header : String} :
    AllLack patterns (block header ls) ↔ Lacks patterns header ∧ AllLack patterns ls := by
  rw [block, allLack_cons, allLack_map_indentBy]
  rfl

end

end Line

namespace Program

open Line
open Text (Lacks lacks_ofList lacks_append_number_append NoDigits)

/-! ## Needles -/

/-- What measures modes, names them, or declares how many there are. -/
def references : List String :=
  ["MeasureFock()", "pcvl.Detector.pnr()", "q[", "circuit.add((", "detectors[", "sf.Program(",
    "pcvl.Circuit("]

/-- What runs a program. -/
def runs : List String := ["eng.run(", "sampler.probs("]

/-- All calls and brackets that matter. -/
def needles : List String := references ++ runs

/-- The references, character by character. -/
def referenceCharacters : List (List Char) :=
  [['M', 'e', 'a', 's', 'u', 'r', 'e', 'F', 'o', 'c', 'k', '(', ')'],
    ['p', 'c', 'v', 'l', '.', 'D', 'e', 't', 'e', 'c', 't', 'o', 'r', '.', 'p', 'n', 'r', '(', ')'],
    ['q', '['], ['c', 'i', 'r', 'c', 'u', 'i', 't', '.', 'a', 'd', 'd', '(', '('],
    ['d', 'e', 't', 'e', 'c', 't', 'o', 'r', 's', '['],
    ['s', 'f', '.', 'P', 'r', 'o', 'g', 'r', 'a', 'm', '('],
    ['p', 'c', 'v', 'l', '.', 'C', 'i', 'r', 'c', 'u', 'i', 't', '(']]

/-- The needles, character by character. -/
def needleCharacters : List (List Char) :=
  referenceCharacters ++
    [['e', 'n', 'g', '.', 'r', 'u', 'n', '('],
      ['s', 'a', 'm', 'p', 'l', 'e', 'r', '.', 'p', 'r', 'o', 'b', 's', '(']]

theorem needles_eq : needles = needleCharacters.map String.ofList := rfl

theorem noDigits_needles : NoDigits needles := by
  rw [needles_eq]
  exact Text.noDigits_ofList (by decide)

theorem foreign_comment : ∀ p ∈ needles, Text.Foreign p.toList "# ".toList := by
  rw [needles_eq]
  intro p hp c hc hmem
  obtain ⟨cs, hcs, rfl⟩ := List.mem_map.1 hp
  rw [String.toList_ofList] at hmem
  have hall : ∀ cs ∈ needleCharacters, ∀ c ∈ cs, c ≠ '#' ∧ c ≠ ' ' := by decide
  obtain ⟨hmark, hspace⟩ := hall cs hcs c hmem
  rcases List.mem_cons.1 hc with rfl | hc
  · exact hmark rfl
  · exact hspace (List.mem_singleton.1 hc)

/-! ## What stands before the operations -/

/-- The line that declares the modes. -/
def declaration (f : Framework) (count : Nat) : Line :=
  .statement <| match f with
    | .strawberryFields => "prog = sf.Program(" ++ toString count ++ ")"
    | .perceval => "circuit = pcvl.Circuit(" ++ toString count ++ ")"

/-- A text that is written out is looked at character by character. -/
theorem lacks_needles {cs : List Char}
    (h : needleCharacters.all (fun p => Text.occurrences p cs == 0) = true) :
    Lacks needles (String.ofList cs) := lacks_ofList (by decide) h

/-- The preamble declares the modes once, and no other line of it has a needle. -/
theorem exists_declaration (f : Framework) (count : Nat) (kerr : Bool) :
    ∃ before after, preamble f count kerr = before ++ declaration f count :: after ∧
      AllLack needles before ∧ AllLack needles after := by
  have hcomment := fun s => Text.lacks_foreign_append (t := s) foreign_comment
  have hnumber := fun s t n => lacks_append_number_append (s := s) (t := t) noDigits_needles n
  cases f with
  | strawberryFields =>
    refine ⟨(preamble .strawberryFields count kerr).take 7,
      (preamble .strawberryFields count kerr).drop 8, ?_, ?_, ?_⟩
    · cases kerr <;> rfl
    · simp only [preamble, StrawberryFields.preamble, List.cons_append, List.take_succ_cons,
        List.take_zero, allLack_cons, text_statement, text_comment, text_blank, hcomment, hnumber]
      and_intros <;> first | exact allLack_nil | exact lacks_needles (by decide)
    · cases kerr <;>
      · simp only [preamble, StrawberryFields.preamble, StrawberryFields.engine, if_true,
          Bool.false_eq_true, if_false, List.cons_append, List.nil_append, List.drop_succ_cons,
          List.drop_zero, allLack_cons, text_statement, text_comment, text_blank, hcomment, hnumber]
        and_intros <;> first | exact allLack_nil | exact lacks_needles (by decide)
  | perceval =>
    refine ⟨(preamble .perceval count kerr).take 6, (preamble .perceval count kerr).drop 7, rfl,
      ?_, ?_⟩
    · simp only [preamble, Perceval.preamble, List.take_succ_cons,
        List.take_zero, allLack_cons, text_statement, text_comment, text_blank, hcomment, hnumber]
      and_intros <;> first | exact allLack_nil | exact lacks_needles (by decide)
    · simp only [preamble, Perceval.preamble, List.drop_succ_cons, List.drop_zero,
        allLack_cons, text_statement, text_blank]
      and_intros <;> first | exact allLack_nil | exact lacks_needles (by decide)

/-! ## What stands after the operations -/

theorem mem_needles {p : String} (hp : p ∈ references) : p ∈ needles := List.mem_append_left _ hp

theorem lacks_references {cs : List Char}
    (h : referenceCharacters.all (fun p => Text.occurrences p cs == 0) = true) :
    Lacks references (String.ofList cs) := lacks_ofList (by decide) h

/-- Texts on two lines of a definition are looked at together. -/
theorem lacks_references_append {cs ds : List Char}
    (h : referenceCharacters.all (fun p => Text.occurrences p (cs ++ ds) == 0) = true) :
    Lacks references (String.ofList cs ++ String.ofList ds) := by
  rw [← String.ofList_append]
  exact lacks_references h

theorem lacks_uniform (count : Nat) :
    Lacks references ("probabilities = " ++ Literal.uniform count) := by
  refine Text.lacks_of_marks referenceCharacters ['k', 'v', 'q', 'u', 'd', 'P']
    (by decide) fun mark hmark hmem => ?_
  have habsent : ∀ mark ∈ ['k', 'v', 'q', 'u', 'd', 'P'], mark.isDigit = false ∧
      mark ∉ Literal.marks ∧ mark ∉ Literal.entryMarks ∧ mark ∉ "probabilities = ".toList := by
    decide
  obtain ⟨hdigit, hliteral, hentry, hname⟩ := habsent mark hmark
  rw [String.toList_append, List.mem_append] at hmem
  rcases hmem with hmem | hmem
  · exact hname hmem
  · exact Literal.not_mem_uniform hdigit hliteral hentry count hmem

theorem allLack_extraction (count shots : Nat) : AllLack references (extraction count shots) := by
  have hcomment := fun s => Text.lacks_foreign_append (t := s) fun p hp =>
    foreign_comment p (mem_needles hp)
  have hdigits : NoDigits references := fun p hp => noDigits_needles p (mem_needles hp)
  have hnumber := fun s t n => lacks_append_number_append (s := s) (t := t) hdigits n
  have hend := fun s n => Text.lacks_append_number (s := s) hdigits n
  have huniform := lacks_uniform count
  have hdetections : Lacks references
      ("photon_detections[f\"mode_\x7bi\x7d\"] = sum(prob for label, prob in " ++
        "probabilities.items() if len(label) > i and label[i] != \"0\")") :=
    lacks_references_append (by decide)
  simp only [extraction, allLack_append, allLack_cons, allLack_block, allLack_nil, text_statement,
    text_comment, text_blank, hcomment, hnumber, hend, huniform, hdetections, and_true, true_and]
  and_intros <;> exact lacks_references (by decide)

theorem allLack_epilogue (f : Framework) (count shots : Nat) :
    AllLack references (epilogue f count shots) := by
  have hcomment := fun s => Text.lacks_foreign_append (t := s) fun p hp =>
    foreign_comment p (mem_needles hp)
  have hdigits : NoDigits references := fun p hp => noDigits_needles p (mem_needles hp)
  have hnumber := fun s t n => lacks_append_number_append (s := s) (t := t) hdigits n
  cases f with
  | strawberryFields =>
    simp only [epilogue, StrawberryFields.epilogue, allLack_append, allLack_cons, allLack_block,
      allLack_nil, text_statement, text_comment, text_blank, hcomment, hnumber, allLack_extraction, and_true]
    and_intros <;> exact lacks_references (by decide)
  | perceval =>
    simp only [epilogue, Perceval.epilogue, allLack_append, allLack_cons, allLack_block,
      allLack_nil, text_statement, text_comment, text_blank, hcomment, hnumber, allLack_extraction, and_true]
    and_intros <;> exact lacks_references (by decide)

/-! ## Operations -/

/-- Characters that are in no remark. -/
def remarkMarks : List Char := ['k', '.', '[']

/-- Characters that are in no call of a framework's gates. -/
def callMarks : Framework → List Char
  | .strawberryFields => ['u', 'v', 's', '[']
  | .perceval => ['u', 'q', 's', 'k', 'C', 'g']

/-- Texts without any of several characters. -/
def Without (marks : List Char) (s : String) : Prop := ∀ mark ∈ marks, mark ∉ s.toList

instance (marks : List Char) (s : String) : Decidable (Without marks s) :=
  inferInstanceAs (Decidable (∀ _ ∈ _, _))

/-- The calls of gates. They have none of the marks, and measure nothing. -/
structure IsCall (f : Framework) (s : String) : Prop where
  marks : Without (callMarks f) s
  no_detector : Lacks ["pcvl.Detector.pnr()"] (s ++ ")")

/-- What a line can be that an item in a plan for `count` modes has. -/
inductive Says (f : Framework) (count : Nat) : Line → Prop
  | remark {s : String} (marks : Without remarkMarks s) :
    Says f count (.comment s)
  | single {g : Gate} {mode : Nat} (call : IsCall f g.call) (declared : mode < count) :
    Says f count (.statement (singleStatement f g mode))
  | dual {g : Gate} {mode : Nat} (call : IsCall f g.call) (declared : mode + 1 < count) :
    Says f count (.statement (dualStatement f g mode (mode + 1)))

section

variable {f : Framework} {c : Circuit} {i : Item} {l : Line} {e : Element} {g : Gate}
  {arguments : List String} {mode next : Nat}

/-- Characters that are in no literal and that no call puts between its arguments. -/
def foreignMarks : List Char := ['u', 'v', 's', '[', 'q', 'k', 'C', 'g', 'D', 'p']

theorem without_append {marks : List Char} {s t : String} :
    Without marks (s ++ t) ↔ Without marks s ∧ Without marks t := by
  simp only [Without, String.toList_append, List.mem_append, not_or, forall₂_and]

theorem without_ofList {marks cs : List Char} (h : ∀ mark ∈ marks, mark ∉ cs) :
    Without marks (String.ofList cs) := by
  rwa [Without, String.toList_ofList]

theorem without_toString (marks : List Char) (h : ∀ mark ∈ marks, mark.isDigit = false)
    (n : Nat) : Without marks (toString n) := fun mark hmark => Text.not_mem_toString (h mark hmark) n

theorem Without.mono {marks marks' : List Char} {s : String} (h : Without marks s)
    (hsub : marks' ⊆ marks) : Without marks' s := fun mark hmark => h mark (hsub hmark)

/-- Arguments are literals. -/
theorem without_arguments_of {marks : List Char}
    (habsent : ∀ mark ∈ marks, mark.isDigit = false ∧ mark ∉ Literal.marks) (op : Operation) :
    ∀ x ∈ op.arguments, Without marks x := by
  intro x hx mark hmark
  obtain ⟨hdigit, hliteral⟩ := habsent mark hmark
  exact not_mem_arguments hdigit hliteral x hx

theorem without_arguments (op : Operation) : ∀ x ∈ op.arguments, Without foreignMarks x :=
  without_arguments_of (by decide) op

theorem without_intercalate {marks : List Char} {separator : String} {xs : List String}
    (hseparator : Without marks separator) (hxs : ∀ x ∈ xs, Without marks x) :
    Without marks (separator.intercalate xs) := by
  intro mark hmark hmem
  rw [String.toList_intercalate] at hmem
  rcases Text.mem_intercalate hmem with h | ⟨part, hpart, h⟩
  · exact hseparator mark hmark h
  · obtain ⟨x, hx, rfl⟩ := List.mem_map.1 hpart
    exact hxs x hx mark hmark h

/-- What calls put around their arguments. -/
theorem without_brackets {marks : List Char} (hmarks : marks ⊆ foreignMarks) :
    ∀ s ∈ ["(", ")", ", ", "="], Without marks s := by
  have hall : ∀ s ∈ ["(", ")", ", ", "="], Without foreignMarks s := by decide
  exact fun s hs => (hall s hs).mono hmarks

/-- A call is written in its function, its arguments and four marks. -/
theorem without_call_of_brackets {marks : List Char} {function : String} {xs : List String}
    (hbrackets : ∀ s ∈ ["(", ")", ", ", "="], Without marks s) (hfunction : Without marks function)
    (hxs : ∀ x ∈ xs, Without marks x) : Without marks (call function xs) := by
  rw [call, without_append, without_append, without_append]
  exact ⟨⟨⟨hfunction, hbrackets "(" (by simp)⟩, without_intercalate (hbrackets ", " (by simp)) hxs⟩,
    hbrackets ")" (by simp)⟩

theorem without_named_of_brackets {marks : List Char} {names xs : List String}
    (hbrackets : ∀ s ∈ ["(", ")", ", ", "="], Without marks s)
    (hnames : ∀ name ∈ names, Without marks name) (hxs : ∀ x ∈ xs, Without marks x) :
    ∀ x ∈ Perceval.named names xs, Without marks x := by
  intro x hx
  obtain ⟨name, hname, y, hy, rfl⟩ := mem_named hx
  rw [without_append, without_append]
  exact ⟨⟨hnames name hname, hbrackets "=" (by simp)⟩, hxs y hy⟩

theorem without_call {marks : List Char} {function : String} {xs : List String}
    (hmarks : marks ⊆ foreignMarks) (hfunction : Without marks function)
    (hxs : ∀ x ∈ xs, Without marks x) : Without marks (call function xs) :=
  without_call_of_brackets (without_brackets hmarks) hfunction hxs

theorem without_named {marks : List Char} {names xs : List String} (hmarks : marks ⊆ foreignMarks)
    (hnames : ∀ name ∈ names, Without marks name) (hxs : ∀ x ∈ xs, Without marks x) :
    ∀ x ∈ Perceval.named names xs, Without marks x :=
  without_named_of_brackets (without_brackets hmarks) hnames hxs

/-- A detector is not written without its letters. -/
theorem lacks_detector {mark : Char} {s : String} (hmark : mark ∈ ['v', 'D'])
    (h : mark ∉ s.toList) : Lacks ["pcvl.Detector.pnr()"] (s ++ ")") := by
  have hmarks : ∀ mark ∈ ['v', 'D'], mark ∈ "pcvl.Detector.pnr()".toList ∧ mark ≠ ')' := by
    decide
  intro p hp hoccurs
  obtain rfl := List.mem_singleton.1 hp
  have hmem := hoccurs.subset (hmarks mark hmark).1
  rw [String.toList_append, List.mem_append] at hmem
  rcases hmem with hmem | hmem
  · exact h hmem
  · exact (hmarks mark hmark).2 (List.mem_singleton.1 hmem)

theorem isCall_strawberryFields {s : String} (h : Without (callMarks .strawberryFields) s) :
    IsCall .strawberryFields s := ⟨h, lacks_detector (by decide) (h 'v' (by decide))⟩

theorem isCall_perceval {s : String} (h : Without ('D' :: callMarks .perceval) s) :
    IsCall .perceval s where
  marks mark hmark := h mark (List.mem_cons_of_mem 'D' hmark)
  no_detector := lacks_detector (by decide) (h 'D' List.mem_cons_self)

/-- A delay is written with the letter that detectors begin with. -/
theorem isCall_delay {xs : List String} (hxs : ∀ x ∈ xs, Without foreignMarks x) :
    IsCall .perceval (call "pcvl.TD" xs) where
  marks := without_call (by decide) (without_ofList (by decide)) fun x hx =>
    (hxs x hx).mono (by decide)
  no_detector := by
    have hbrackets := without_brackets (List.Subset.refl foreignMarks)
    have hrest : 'p' ∉ ("D(" ++ (String.intercalate ", " xs ++ (")" ++ ")"))).toList := by
      have hwithout : Without ['p'] ("D(" ++ (String.intercalate ", " xs ++ (")" ++ ")"))) := by
        have hclose : Without ['p'] ")" := (hbrackets ")" (by simp)).mono (by decide)
        rw [without_append, without_append, without_append]
        exact ⟨without_ofList (by decide), (without_intercalate (hbrackets ", " (by simp)) hxs).mono
          (by decide), hclose, hclose⟩
      exact hwithout 'p' List.mem_cons_self
    intro p hp hoccurs
    obtain rfl := List.mem_singleton.1 hp
    have hneedle : 'T' ∉ "pcvl.Detector.pnr()".toList ∧ 'p' ∈ "pcvl.Detector.pnr()".toList ∧
        'D' ∈ "pcvl.Detector.pnr()".toList := by
      decide
    -- what stands before the T has no D, and what stands after it has no p
    have hsplit : (call "pcvl.TD" xs ++ ")").toList = ['p', 'c', 'v', 'l', '.'] ++
        'T' :: ("D(" ++ (String.intercalate ", " xs ++ (")" ++ ")"))).toList := by
      simp only [call, String.toList_append, List.append_assoc]
      rfl
    rw [hsplit, Text.infix_append_cons hneedle.1] at hoccurs
    rcases hoccurs with h | h
    · exact absurd (h.subset hneedle.2.2) (by decide)
    · exact hrest (h.subset hneedle.2.1)

theorem isCall_singleGate (hxs : ∀ x ∈ arguments, Without foreignMarks x)
    (h : singleGate? f e arguments = some g) : IsCall f g.call := by
  cases f with
  | strawberryFields =>
    have hsub : callMarks .strawberryFields ⊆ foreignMarks := by decide
    have harguments := fun x hx => (hxs x hx).mono hsub
    refine isCall_strawberryFields ?_
    cases e with
    | laser =>
      obtain rfl := Option.some.inj h
      exact without_call hsub (by decide) (by decide)
    | phaseShifter | squeezeGate | displacementGate | kerrGate =>
      obtain rfl := Option.some.inj h
      exact without_call hsub (without_ofList (by decide)) harguments
    | _ => contradiction
  | perceval =>
    have hsub : 'D' :: callMarks .perceval ⊆ foreignMarks := by decide
    have harguments := fun x hx => (hxs x hx).mono hsub
    cases e with
    | phaseShifter =>
      obtain rfl := Option.some.inj h
      exact isCall_perceval (without_call hsub (without_ofList (by decide))
        (without_named hsub (by decide) harguments))
    | halfWavePlate | quarterWavePlate =>
      obtain rfl := Option.some.inj h
      exact isCall_perceval (without_call hsub (without_ofList (by decide)) harguments)
    | timeDelay =>
      obtain rfl := Option.some.inj h
      exact isCall_delay hxs
    | _ => contradiction

theorem isCall_dualGate (hxs : ∀ x ∈ arguments, Without foreignMarks x)
    (h : dualGate? f e arguments mode next = some g) : IsCall f g.call := by
  cases f with
  | strawberryFields =>
    have hsub : callMarks .strawberryFields ⊆ foreignMarks := by decide
    cases e with
    | beamSplitter =>
      obtain rfl := Option.some.inj h
      exact isCall_strawberryFields (without_call hsub (without_ofList (by decide))
        fun x hx => (hxs x hx).mono hsub)
    | _ => contradiction
  | perceval =>
    have hsub : 'D' :: callMarks .perceval ⊆ foreignMarks := by decide
    refine isCall_perceval ?_
    cases e with
    | beamSplitter =>
      obtain rfl := Option.some.inj h
      exact without_call hsub (without_ofList (by decide))
        (without_named hsub (by decide) fun x hx => (hxs x hx).mono hsub)
    | permutation | polarizingBeamSplitter =>
      obtain rfl := Option.some.inj h
      exact without_call hsub (without_ofList (by decide)) (by decide)
    | unitary =>
      obtain rfl := Option.some.inj h
      exact without_call hsub (without_ofList (by decide)) (List.forall_mem_singleton.2
        (without_call hsub (without_ofList (by decide)) (by decide)))
    | _ => contradiction

theorem without_remark_single (h : singleGate? f e arguments = some g) :
    Without remarkMarks g.remark := by
  cases f <;> cases e <;> first
    | contradiction
    | (obtain rfl := Option.some.inj h
       exact without_ofList (by decide))

theorem without_remark_dual (h : dualGate? f e arguments mode next = some g) :
    Without remarkMarks g.remark := by
  have hnumber := without_toString remarkMarks (by decide)
  have hbetween : Without remarkMarks (toString mode ++ " and " ++ toString next) := by
    rw [without_append, without_append]
    exact ⟨⟨hnumber mode, without_ofList (by decide)⟩, hnumber next⟩
  cases f with
  | strawberryFields =>
    cases e with
    | beamSplitter =>
      obtain rfl := Option.some.inj h
      simp only [without_append, hnumber, and_true]
      exact ⟨without_ofList (by decide), without_ofList (by decide)⟩
    | _ => contradiction
  | perceval =>
    cases e with
    | unitary =>
      obtain rfl := Option.some.inj h
      exact without_append.2 ⟨without_append.2 ⟨without_ofList (by decide), hbetween⟩,
        without_ofList (by decide)⟩
    | beamSplitter | permutation | polarizingBeamSplitter =>
      obtain rfl := Option.some.inj h
      exact without_append.2 ⟨without_ofList (by decide), hbetween⟩
    | _ => contradiction

/-- The lines of the items in a plan are such lines. -/
theorem says_of_mem_plan (hi : i ∈ Item.plan f c) (hl : l ∈ i.lines f) :
    Says f c.modeCount.toNat l := by
  have hlabel : ∀ e : Element, Without remarkMarks e.label := by
    intro e
    cases e <;> exact without_ofList (by decide)
  have hnumber := without_toString remarkMarks (by decide)
  obtain ⟨mode, hmode, op, -, hfirst | hsecond⟩ := mem_plan.1 hi
  · rcases firstPass?_cases hfirst with ⟨-, rfl⟩ | ⟨supported, arity, element, rfl⟩
    · obtain rfl := List.mem_singleton.1 hl
      have hname : Without remarkMarks f.displayName := by
        cases f <;> exact without_ofList (by decide)
      refine .remark ?_
      simp only [without_append, hlabel, hnumber, hname, and_true, true_and]
      exact ⟨⟨without_ofList (by decide), without_ofList (by decide)⟩, without_ofList (by decide)⟩
    · obtain ⟨g, hg⟩ := exists_singleGate supported arity element op.arguments
      have hlines : Item.lines f (.single op.element mode op.arguments) =
          [.comment g.remark, .statement (singleStatement f g mode)] := by
        simp only [Item.lines, single, hg]
      rw [hlines] at hl
      rcases List.mem_cons.1 hl with rfl | hl
      · exact .remark (without_remark_single hg)
      · obtain rfl := List.mem_singleton.1 hl
        exact .single (isCall_singleGate (without_arguments op) hg) (List.mem_range.1 hmode)
  · obtain ⟨supported, arity, ⟨hnext, rfl⟩ | ⟨-, rfl⟩⟩ := secondPass?_cases hsecond
    · obtain ⟨g, hg⟩ := exists_dualGate supported arity op.arguments mode (mode + 1)
      have hlines : Item.lines f (.dual op.element mode op.arguments) =
          [.comment g.remark, .statement (dualStatement f g mode (mode + 1))] := by
        simp only [Item.lines, dual, hg]
      rw [hlines] at hl
      rcases List.mem_cons.1 hl with rfl | hl
      · exact .remark (without_remark_dual hg)
      · obtain rfl := List.mem_singleton.1 hl
        exact .dual (isCall_dualGate (without_arguments op) hg) hnext
    · obtain rfl := List.mem_singleton.1 hl
      refine .remark ?_
      simp only [without_append, hlabel, hnumber, and_true, true_and]
      exact ⟨without_ofList (by decide), without_ofList (by decide)⟩

/-! ## What the lines of a program lack -/

/-- What names the modes of a gate. -/
def bracket : Framework → String
  | .strawberryFields => "q["
  | .perceval => "circuit.add(("

/-- A text without some marks has no needle that has one of them. -/
theorem not_infix_of_without (marks : List Char) (exceptions : List (List Char)) {s : String}
    (hmarks : needleCharacters.all (fun p => exceptions.contains p || p.any marks.contains) = true)
    (hs : Without marks s) {p : String} (hp : p ∈ needles)
    (hexceptions : p ∉ exceptions.map String.ofList) : ¬ p.toList <:+: s.toList := by
  rw [needles_eq] at hp
  obtain ⟨cs, hcs, rfl⟩ := List.mem_map.1 hp
  have hcs := List.all_eq_true.1 hmarks cs hcs
  rw [Bool.or_eq_true] at hcs
  rcases hcs with hcs | hcs
  · exact absurd (List.mem_map_of_mem (List.contains_iff_mem.1 hcs)) hexceptions
  · obtain ⟨mark, hmark, hcontains⟩ := List.any_eq_true.1 hcs
    rw [String.toList_ofList]
    exact fun hoccurs => hs mark (List.contains_iff_mem.1 hcontains) (hoccurs.subset hmark)

/-- Characters that are in no statement of a framework's gates. -/
def statementMarks : Framework → List Char
  | .strawberryFields => ['u', 'v', 's']
  | .perceval => ['q', 's', 'k', 'C', 'g']

theorem statementMarks_subset (f : Framework) : statementMarks f ⊆ callMarks f := by
  cases f <;> decide

theorem without_number (f : Framework) (n : Nat) : Without (statementMarks f) (toString n) :=
  without_toString _ (by cases f <;> decide) n

theorem without_singleStatement (hcall : IsCall f g.call) (mode : Nat) :
    Without (statementMarks f) (singleStatement f g mode) := by
  have hmarks := hcall.marks.mono (statementMarks_subset f)
  have hmode := without_number f mode
  cases f with
  | strawberryFields =>
    show Without _ (g.call ++ " | " ++ ("q[" ++ toString mode ++ "]"))
    simp only [without_append, hmarks, hmode, and_true, true_and]
    exact ⟨without_ofList (by decide), without_ofList (by decide), without_ofList (by decide)⟩
  | perceval =>
    show Without _ ("circuit.add((" ++ toString mode ++ ",), " ++ g.call ++ ")")
    simp only [without_append, hmarks, hmode, and_true]
    exact ⟨⟨without_ofList (by decide), without_ofList (by decide)⟩, without_ofList (by decide)⟩

theorem without_dualStatement (hcall : IsCall f g.call) (mode next : Nat) :
    Without (statementMarks f) (dualStatement f g mode next) := by
  have hmarks := hcall.marks.mono (statementMarks_subset f)
  have hmode := without_number f
  cases f with
  | strawberryFields =>
    show Without _ (g.call ++ " | (" ++ ("q[" ++ toString mode ++ "]") ++ ", " ++
      ("q[" ++ toString next ++ "]") ++ ")")
    simp only [without_append, hmarks, hmode, and_true, true_and]
    and_intros <;> exact without_ofList (by decide)
  | perceval =>
    show Without _
      ("circuit.add((" ++ toString mode ++ ", " ++ toString next ++ "), " ++ g.call ++ ")")
    simp only [without_append, hmarks, hmode, and_true]
    and_intros <;> exact without_ofList (by decide)

/-- A call measures nothing, and neither does what stands before it. -/
theorem no_detector_append {front : List Char} {called : String} (hfront : 'D' ∉ front)
    (hcall : IsCall f called) :
    ¬ "pcvl.Detector.pnr()".toList <:+: front ++ ' ' :: (called ++ ")").toList := by
  have hneedle : ' ' ∉ "pcvl.Detector.pnr()".toList ∧ 'D' ∈ "pcvl.Detector.pnr()".toList := by
    decide
  rw [Text.infix_append_cons hneedle.1]
  rintro (h | h)
  · exact hfront (h.subset hneedle.2)
  · exact hcall.no_detector _ (List.mem_singleton_self _) h

theorem no_detector_singleStatement (hcall : IsCall .perceval g.call) (mode : Nat) :
    ¬ "pcvl.Detector.pnr()".toList <:+: (singleStatement .perceval g mode).toList := by
  have hsplit : (singleStatement .perceval g mode).toList =
      ("circuit.add((".toList ++ ((toString mode).toList ++ ",),".toList)) ++
        ' ' :: (g.call ++ ")").toList := by
    show ("circuit.add((" ++ toString mode ++ ",), " ++ g.call ++ ")").toList = _
    simp only [String.toList_append, List.append_assoc]
    rfl
  rw [hsplit]
  refine no_detector_append ?_ hcall
  simp only [List.mem_append, Text.not_mem_toString (c := 'D') rfl mode, false_or, not_or]
  decide

theorem no_detector_dualStatement (hcall : IsCall .perceval g.call) (mode next : Nat) :
    ¬ "pcvl.Detector.pnr()".toList <:+: (dualStatement .perceval g mode next).toList := by
  have hsplit : (dualStatement .perceval g mode next).toList =
      ("circuit.add((".toList ++ ((toString mode).toList ++ (", ".toList ++
        ((toString next).toList ++ "),".toList)))) ++ ' ' :: (g.call ++ ")").toList := by
    show ("circuit.add((" ++ toString mode ++ ", " ++ toString next ++ "), " ++ g.call ++
      ")").toList = _
    simp only [String.toList_append, List.append_assoc]
    rfl
  rw [hsplit]
  refine no_detector_append ?_ hcall
  simp only [List.mem_append, Text.not_mem_toString (c := 'D') rfl, false_or, not_or]
  decide

/-- A statement has at most one needle, which is what names its modes. -/
theorem not_infix_statement {s : String} (hs : Without (statementMarks f) s)
    (hdetector : f = .perceval → ¬ "pcvl.Detector.pnr()".toList <:+: s.toList) {p : String}
    (hp : p ∈ needles) (hne : p ≠ bracket f) : ¬ p.toList <:+: s.toList := by
  cases f with
  | strawberryFields =>
    refine not_infix_of_without _ [['q', '[']] (by decide) hs hp fun hmem => ?_
    exact hne (List.mem_singleton.1 hmem)
  | perceval =>
    by_cases hpnr : p = "pcvl.Detector.pnr()"
    · rw [hpnr]
      exact hdetector rfl
    · refine not_infix_of_without _ [['c', 'i', 'r', 'c', 'u', 'i', 't', '.', 'a', 'd', 'd', '(', '('],
        ['p', 'c', 'v', 'l', '.', 'D', 'e', 't', 'e', 'c', 't', 'o', 'r', '.', 'p', 'n', 'r', '(', ')']]
        (by decide) hs hp fun hmem => ?_
      rcases List.mem_cons.1 hmem with h | h
      · exact hne h
      · exact hpnr (List.mem_singleton.1 h)

/-- A line of an item has at most one needle, which is what names its modes. -/
theorem Says.absent (h : Says f count l) {p : String} (hp : p ∈ needles) (hne : p ≠ bracket f) :
    ¬ p.toList <:+: l.text.toList := by
  cases h with
  | remark marks =>
    refine not_infix_of_without remarkMarks [] (by decide)
      (s := "# " ++ _) ?_ hp List.not_mem_nil
    exact without_append.2 ⟨without_ofList (by decide), marks⟩
  | single call declared =>
    refine not_infix_statement (without_singleStatement call _) ?_ hp hne
    rintro rfl
    exact no_detector_singleStatement call _
  | dual call declared =>
    refine not_infix_statement (without_dualStatement call _ _) ?_ hp hne
    rintro rfl
    exact no_detector_dualStatement call _ _

/-! ## Measurements -/

/-- The needles of a measurement: that it measures, and which mode. -/
def measuring : Framework → List String
  | .strawberryFields => ["MeasureFock()", "q["]
  | .perceval => ["pcvl.Detector.pnr()", "detectors["]

/-- A measurement has no other needles. -/
theorem not_infix_measurement (mode : Nat) {p : String} (hp : p ∈ needles) (hne : p ∉ measuring f) :
    ¬ p.toList <:+: (measurement f mode).text.toList := by
  cases f with
  | strawberryFields =>
    refine not_infix_of_without ['.', 'd'] [['M', 'e', 'a', 's', 'u', 'r', 'e', 'F', 'o', 'c', 'k', '(', ')'],
      ['q', '[']] (by decide) ?_ hp hne
    have hmode := without_toString ['.', 'd'] (by decide) mode
    show Without ['.', 'd'] ("MeasureFock() | " ++ ("q[" ++ toString mode ++ "]"))
    simp only [without_append, hmode, and_true]
    exact ⟨without_ofList (by decide), without_ofList (by decide), without_ofList (by decide)⟩
  | perceval =>
    refine not_infix_of_without ['M', 'q', 'i', 'f', 'C', 'g', 'm']
      [['p', 'c', 'v', 'l', '.', 'D', 'e', 't', 'e', 'c', 't', 'o', 'r', '.', 'p', 'n', 'r', '(', ')'],
        ['d', 'e', 't', 'e', 'c', 't', 'o', 'r', 's', '[']] (by decide) ?_ hp hne
    have hmode := without_toString ['M', 'q', 'i', 'f', 'C', 'g', 'm'] (by decide) mode
    show Without ['M', 'q', 'i', 'f', 'C', 'g', 'm']
      ("detectors[" ++ toString mode ++ "] = pcvl.Detector.pnr()")
    simp only [without_append, hmode, and_true]
    exact ⟨without_ofList (by decide), without_ofList (by decide)⟩

/-- The heading of the measurements has no needle. -/
theorem lacks_heading : Lacks needles (Line.comment "Measurements").text :=
  (Text.lacks_foreign_append foreign_comment).2 (lacks_needles (by decide))

/-! ## The declaration -/

/-- What declares the modes. -/
def declares : Framework → String
  | .strawberryFields => "sf.Program("
  | .perceval => "pcvl.Circuit("

/-- A declaration has no other needle. -/
theorem not_infix_declaration (count : Nat) {p : String} (hp : p ∈ needles) (hne : p ≠ declares f) :
    ¬ p.toList <:+: (declaration f count).text.toList := by
  cases f with
  | strawberryFields =>
    refine not_infix_of_without ['M', 'v', '[', 'c', 'e']
      [['s', 'f', '.', 'P', 'r', 'o', 'g', 'r', 'a', 'm', '(']] (by decide) ?_ hp fun hmem =>
        hne (List.mem_singleton.1 hmem)
    have hcount := without_toString ['M', 'v', '[', 'c', 'e'] (by decide) count
    show Without ['M', 'v', '[', 'c', 'e'] ("prog = sf.Program(" ++ toString count ++ ")")
    simp only [without_append, hcount, and_true]
    exact ⟨without_ofList (by decide), without_ofList (by decide)⟩
  | perceval =>
    refine not_infix_of_without ['M', 'D', '[', 'a', 's', 'e']
      [['p', 'c', 'v', 'l', '.', 'C', 'i', 'r', 'c', 'u', 'i', 't', '(']] (by decide) ?_ hp
        fun hmem => hne (List.mem_singleton.1 hmem)
    have hcount := without_toString ['M', 'D', '[', 'a', 's', 'e'] (by decide) count
    show Without ['M', 'D', '[', 'a', 's', 'e'] ("circuit = pcvl.Circuit(" ++ toString count ++ ")")
    simp only [without_append, hcount, and_true]
    exact ⟨without_ofList (by decide), without_ofList (by decide)⟩

end

end Program

end OpticalBench
