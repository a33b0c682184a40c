import Mathlib.Algebra.BigOperators.Group.List.Basic
import OpticalBench.Proofs.Program.BlockStructure
import OpticalBench.Proofs.Program.Vocabulary

/-!
# Every mode is measured once

Operations are planned and measurements are not: a program measures each mode once, whatever the
circuit holds. The measurements stand after all operations and before the run, and no other row says
that it measures.

- `measurementCall`, `measurementRow`, `runRow`: what measures, the row of a measurement, and the row
  that runs the program.
- `Line.occurrences_allCharacters`: a pattern occurs in lines as often as in each of them.
- `not_infix_before`, `not_infix_after`: the other rows do not measure.
- `row_mem_rowsBefore`, `row_not_mem_rowsAfter`: operations are written before the measurements only,
  because no row of the epilogue begins like a remark or names a mode.
- `generate_measures_once`: the rows of a program, and how often it measures.
-/

namespace OpticalBench

namespace Line

variable {p : List Char} {levels : Nat}

/-- No pattern without blanks straddles the blanks that a line is indented by. -/
theorem infix_indentBy_iff (hblank : ' ' ∉ p) {l : Line} :
    p <:+: (l.indentBy levels).characters ↔ p <:+: l.text.toList := by
  by_cases hempty : l.text.isEmpty = true
  · have htext : l.text.toList = [] := String.toList_eq_nil_iff.2 (String.isEmpty_iff.1 hempty)
    have hrow : (l.indentBy levels).characters = [] := if_pos hempty
    rw [htext, hrow]
  · have hrow : (l.indentBy levels).characters =
        List.replicate (4 * (l.depth + levels)) ' ' ++ l.text.toList := if_neg hempty
    rw [hrow, Text.infix_foreign_append]
    intro c hc
    rw [List.eq_of_mem_replicate hc]
    exact hblank

/-- A pattern occurs in lines as often as in each of them. -/
theorem occurrences_allCharacters (hp : p ≠ []) (hnewline : '\n' ∉ p) (ls : List Line) :
    Text.occurrences p (allCharacters ls) =
      ((ls.map characters).map (Text.occurrences p)).sum := by
  induction ls with
  | nil => rfl
  | cons l ls ih =>
    rw [allCharacters_cons, Text.occurrences_append_cons hp hnewline, ih]
    rfl

end Line

namespace Program

open Line
open Text (Lacks lacks_ofList lacks_append_number lacks_append_number_append)

/-- What measures a mode. -/
def measurementCall : Framework → String
  | .strawberryFields => "MeasureFock()"
  | .perceval => "pcvl.Detector.pnr()"

/-- The row of a measurement. -/
def measurementRow (f : Framework) (mode : Nat) : String :=
  match f with
  | .strawberryFields => "    MeasureFock() | q[" ++ toString mode ++ "]"
  | .perceval => "detectors[" ++ toString mode ++ "] = pcvl.Detector.pnr()"

/-- The row that runs a program. -/
def runRow : Framework → String
  | .strawberryFields => "result = eng.run(prog)"
  | .perceval => "    sample_result = sampler.probs()"

variable {f : Framework} {c : Circuit} {i : Item} {l : Line} {p : String} {row : List Char}

theorem of_mem_needles (hp : p ∈ needles) : p.toList ≠ [] ∧ ' ' ∉ p.toList ∧ '\n' ∉ p.toList := by
  rw [needles_eq] at hp
  obtain ⟨cs, hcs, rfl⟩ := List.mem_map.1 hp
  have hall : ∀ cs ∈ needleCharacters, cs ≠ [] ∧ ' ' ∉ cs ∧ '\n' ∉ cs := by decide
  rw [String.toList_ofList]
  exact hall cs hcs

theorem row_measurement (f : Framework) (mode : Nat) :
    Program.row (bodyDepth f) (measurement f mode) = (measurementRow f mode).toList := by
  cases f with
  | strawberryFields =>
    have hrow := characters_eq_append (s := "MeasureFock() | " ++ StrawberryFields.wire mode)
      (begins_append (begins_ofList (by decide)) _) 1
    refine hrow.trans ?_
    show _ = ("    MeasureFock() | q[" ++ toString mode ++ "]").toList
    simp only [StrawberryFields.wire, String.toList_append, List.append_assoc]
    rfl
  | perceval =>
    exact characters_eq_append (s := "detectors[" ++ toString mode ++ "] = pcvl.Detector.pnr()")
      (begins_append (begins_append (begins_ofList (by decide)) _) _) 0

/-- Rows of lines without a pattern do not have it, if there is no blank in it. -/
theorem not_infix_row (hblank : ' ' ∉ p.toList) (levels : Nat) (ls : List Line)
    (h : ∀ l ∈ ls, ¬ p.toList <:+: l.text.toList) (hrow : row ∈ ls.map (Program.row levels)) :
    ¬ p.toList <:+: row := by
  obtain ⟨l, hl, rfl⟩ := List.mem_map.1 hrow
  rw [Program.row, infix_indentBy_iff hblank]
  exact h l hl

/-- What stands before the measurements: the preamble, the operations and a heading. -/
def rowsBefore (f : Framework) (c : Circuit) : List (List Char) :=
  (preamble f c.modeCount.toNat (hasKerr c)).map characters ++
    (((Item.plan f c).flatMap (Item.lines f)).map (Program.row (bodyDepth f)) ++
      [Program.row (bodyDepth f) (.comment "Measurements")])

/-- What stands after the measurements: the epilogue, and nothing after its last line feed. -/
def rowsAfter (f : Framework) (count shots : Nat) : List (List Char) :=
  (epilogue f count shots).map characters ++ [[]]

/-- What comes with the measurements or after them. -/
def deferred : List String := ["MeasureFock()", "pcvl.Detector.pnr()"] ++ runs

/-- It is none of what names modes or declares them. -/
theorem of_mem_deferred (hp : p ∈ deferred) (f : Framework) :
    p ∈ needles ∧ p ≠ bracket f ∧ p ≠ declares f := by
  have hall : ∀ p ∈ deferred, p ∈ needles ∧
      ∀ f ∈ Framework.all, p ≠ bracket f ∧ p ≠ declares f := by
    decide
  obtain ⟨hmem, hne⟩ := hall p hp
  exact ⟨hmem, hne f (by cases f <;> decide)⟩

theorem measurementCall_mem (f : Framework) : measurementCall f ∈ deferred := by
  cases f
  · exact List.mem_cons_self
  · exact List.mem_cons_of_mem _ List.mem_cons_self

/-- Nothing before the measurements measures or runs. -/
theorem not_infix_before (hp : p ∈ deferred) (hrow : row ∈ rowsBefore f c) :
    ¬ p.toList <:+: row := by
  obtain ⟨hneedle, hbracket, hdeclares⟩ := of_mem_deferred hp f
  obtain ⟨-, hblank, -⟩ := of_mem_needles hneedle
  obtain ⟨before, after, hpreamble, hbefore, hafter⟩ :=
    exists_declaration f c.modeCount.toNat (hasKerr c)
  rw [rowsBefore, List.mem_append, List.mem_append] at hrow
  rcases hrow with hrow | hrow | hrow
  · refine not_infix_row hblank 0 _ (fun l hl => ?_) hrow
    rw [hpreamble, List.mem_append, List.mem_cons] at hl
    rcases hl with hl | rfl | hl
    · exact hbefore l hl p hneedle
    · exact not_infix_declaration _ hneedle hdeclares
    · exact hafter l hl p hneedle
  · refine not_infix_row hblank _ _ (fun l hl => ?_) hrow
    obtain ⟨i, hi, hl⟩ := List.mem_flatMap.1 hl
    exact (says_of_mem_plan hi hl).absent hneedle hbracket
  · refine not_infix_row hblank _ [.comment "Measurements"] (fun l hl => ?_) hrow
    obtain rfl := List.mem_singleton.1 hl
    exact lacks_heading p hneedle

/-- Nothing after the measurements measures. -/
theorem not_infix_after (hp : p ∈ references) {count shots : Nat}
    (hrow : row ∈ rowsAfter f count shots) : ¬ p.toList <:+: row := by
  rcases List.mem_append.1 hrow with hrow | hrow
  · refine not_infix_row (of_mem_needles (mem_needles hp)).2.1 0 _ (fun l hl => ?_) hrow
    exact allLack_epilogue f count shots l hl p hp
  · obtain rfl := List.mem_singleton.1 hrow
    rw [List.infix_nil]
    exact (of_mem_needles (mem_needles hp)).1

/-- The row of a measurement measures once. -/
theorem occurrences_measurementRow (f : Framework) (mode : Nat) :
    Text.occurrences (measurementCall f).toList (measurementRow f mode).toList = 1 := by
  cases f with
  | strawberryFields =>
    have hrest : ¬ "MeasureFock()".toList <:+: (" | q[" ++ toString mode ++ "]").toList := by
      have hmode := Text.not_mem_toString (c := 'M') rfl mode
      have hmem : 'M' ∉ (" | q[" ++ toString mode ++ "]").toList := by
        simp only [String.toList_append, List.mem_append, hmode, or_false, not_or]
        decide
      exact fun hoccurs => hmem (hoccurs.subset (by decide))
    have hfront : 'M' ∉ "    ".toList := by decide
    have honce := Text.occurrences_once (p := "easureFock()".toList) hfront hrest
    have hrow : (measurementRow .strawberryFields mode).toList = "    ".toList ++
        'M' :: "easureFock()".toList ++ (" | q[" ++ toString mode ++ "]").toList := by
      show ("    MeasureFock() | q[" ++ toString mode ++ "]").toList = _
      simp only [String.toList_append, List.append_assoc]
      rfl
    rw [hrow]
    exact honce
  | perceval =>
    have hfront : 'p' ∉ ("detectors[" ++ toString mode ++ "] = ").toList := by
      have hmode := Text.not_mem_toString (c := 'p') rfl mode
      simp only [String.toList_append, List.mem_append, hmode, or_false, not_or]
      decide
    have hrest : ¬ "pcvl.Detector.pnr()".toList <:+: [] := by decide
    have honce := Text.occurrences_once (p := "cvl.Detector.pnr()".toList) hfront hrest
    have hrow : (measurementRow .perceval mode).toList =
        ("detectors[" ++ toString mode ++ "] = ").toList ++ 'p' :: "cvl.Detector.pnr()".toList ++
          [] := by
      show ("detectors[" ++ toString mode ++ "] = pcvl.Detector.pnr()").toList = _
      simp only [String.toList_append, List.append_assoc]
      rfl
    rw [hrow]
    exact honce

/-- A measurement measures for its own framework only, and does not run. -/
theorem not_infix_measured (hp : p ∈ deferred) (hne : p ≠ measurementCall f) (mode : Nat) :
    ¬ p.toList <:+: (measurementRow f mode).toList := by
  have hmeasuring : ∀ f ∈ Framework.all, ∀ p ∈ deferred,
      p ≠ measurementCall f → p ∉ measuring f := by
    decide
  have hneedle := (of_mem_deferred hp f).1
  rw [← row_measurement]
  refine not_infix_row (of_mem_needles hneedle).2.1 _ [measurement f mode] (fun l hl => ?_) List.mem_cons_self
  obtain rfl := List.mem_singleton.1 hl
  exact not_infix_measurement mode hneedle (hmeasuring f (by cases f <;> decide) p hp hne)

/-- The run is in the epilogue. -/
theorem runRow_mem (f : Framework) (count shots : Nat) :
    (runRow f).toList ∈ rowsAfter f count shots := by
  refine List.mem_append_left _ ?_
  cases f with
  | strawberryFields =>
    have hrow := characters_eq_append (s := "result = eng.run(prog)") (by decide) 0
    refine List.mem_map.2 ⟨statement "result = eng.run(prog)", ?_, hrow⟩
    refine List.mem_append_left _ (List.mem_append_left _ ?_)
    exact List.mem_of_getElem? (i := 3) rfl
  | perceval =>
    have hrow := characters_eq_append (s := "sample_result = sampler.probs()")
      (begins_ofList (by decide)) 1
    refine List.mem_map.2 ⟨(statement "sample_result = sampler.probs()").indentBy 1, ?_, hrow⟩
    refine List.mem_append_left _ (List.mem_append_right _ (List.mem_cons_of_mem _ ?_))
    exact List.mem_cons_self

/-- A program is what stands before the measurements, the measurements, and what stands after them. -/
theorem rows_generate (c : Circuit) (f : Framework) (shots : Nat) :
    Text.rows (generate c f shots) = rowsBefore f c ++
      (List.range c.modeCount.toNat).map (fun mode => (measurementRow f mode).toList) ++
      rowsAfter f c.modeCount.toNat shots := by
  have hmeasured : (c.modeCount.modes.map (measurement f)).map (Program.row (bodyDepth f)) =
      (List.range c.modeCount.toNat).map fun mode => (measurementRow f mode).toList := by
    rw [List.map_map]
    exact List.map_congr_left fun mode _ => row_measurement f mode
  rw [generate, rows_render (areRows_lines c f shots), rows_lines, hmeasured, rowsBefore, rowsAfter]
  simp only [List.append_assoc, List.cons_append, List.nil_append]

/-- Nothing but the measurements measures. -/
theorem not_infix_others {shots : Nat} (g : Framework)
    (hrow : row ∈ rowsBefore f c ++ rowsAfter f c.modeCount.toNat shots) :
    ¬ (measurementCall g).toList <:+: row := by
  rcases List.mem_append.1 hrow with hrow | hrow
  · exact not_infix_before (measurementCall_mem g) hrow
  · refine not_infix_after ?_ hrow
    cases g <;> decide

/-- A pattern occurs in a program as often as in its rows. -/
theorem occurrences_generate (c : Circuit) (f : Framework) (shots : Nat) {p : List Char}
    (hp : p ≠ []) (hnewline : '\n' ∉ p) :
    Text.occurrences p (generate c f shots).toList =
      ((Text.rows (generate c f shots)).map (Text.occurrences p)).sum := by
  rw [generate, rows_render (areRows_lines c f shots), List.map_append, List.sum_append,
    ← occurrences_allCharacters hp hnewline, render, String.toList_ofList]
  rfl

/-! ## Where operations are written -/

/-- How the remarks of items begin, character by character. -/
def headCharacters : List (List Char) :=
  [['C', 'o', 'h', 'e'], ['B', 'e', 'a', 'm'], ['P', 'h', 'a', 's'], ['S', 'q', 'u', 'e'],
    ['D', 'i', 's', 'p'], ['K', 'e', 'r', 'r'], ['H', 'a', 'l', 'f'], ['Q', 'u', 'a', 'r'],
    ['P', 'e', 'r', 'm'], ['P', 'o', 'l', 'a'], ['T', 'i', 'm', 'e'], ['U', 'n', 'i', 't'],
    ['L', 'a', 's', 'e'], ['S', 'w', 'a', 'p']]

/-- How the remarks of items begin. -/
def heads : List String := headCharacters.map String.ofList

/-- What the remark of an item says begins with one of the heads. -/
theorem exists_head_prefix (h : Fits f i) : ∃ cs ∈ headCharacters, cs <+: (front f i).toList := by
  have hkinds : ∀ k ∈ kinds f, (front f k).toList.take 4 ∈ headCharacters := by
    cases f <;> decide +kernel
  refine ⟨(front f i).toList.take 4, ?_, List.take_prefix _ _⟩
  rw [← front_kind]
  exact hkinds _ (kind_mem_kinds h)

theorem lacks_heads {cs : List Char}
    (h : headCharacters.all (fun p => Text.occurrences p cs == 0) = true) :
    Lacks heads (String.ofList cs) := lacks_ofList (by decide) h

theorem noDigits_heads : Text.NoDigits heads := Text.noDigits_ofList (by decide)

/-- The letters that heads begin with. -/
def initials : List Char := ['C', 'B', 'P', 'S', 'D', 'K', 'H', 'Q', 'T', 'U', 'L']

theorem lacks_heads_of_initials (h : ∀ c ∈ initials, c ∉ p.toList) : Lacks heads p :=
  Text.lacks_of_marks headCharacters initials (by decide) h

theorem lacks_heads_lower {cs : List Char} (h : cs.all (fun c => !initials.contains c) = true) :
    Lacks heads (String.ofList cs) := by
  refine lacks_heads_of_initials fun c hc hmem => ?_
  rw [String.toList_ofList] at hmem
  have hnot := List.all_eq_true.1 h c hmem
  rw [List.contains_iff_mem.2 hc] at hnot
  cases hnot

theorem lacks_heads_uniform (count : Nat) :
    Lacks heads ("probabilities = " ++ Literal.uniform count) := by
  refine lacks_heads_of_initials fun c hc hmem => ?_
  have habsent : ∀ c ∈ initials, c.isDigit = false ∧ c ∉ Literal.marks ∧ c ∉ Literal.entryMarks ∧
      c ∉ "probabilities = ".toList := by
    decide
  obtain ⟨hdigit, hliteral, hentry, hname⟩ := habsent c hc
  rw [String.toList_append, List.mem_append] at hmem
  rcases hmem with hmem | hmem
  · exact hname hmem
  · exact Literal.not_mem_uniform hdigit hliteral hentry count hmem

/-- The epilogue has no head. -/
theorem allLack_heads_epilogue (f : Framework) (count shots : Nat) :
    AllLack heads (epilogue f count shots) := by
  have hnumber := fun s t n => lacks_append_number_append (s := s) (t := t) noDigits_heads n
  have hend := fun s n => lacks_append_number (s := s) noDigits_heads n
  have huniform := lacks_heads_uniform count
  have hextraction : AllLack heads (extraction count shots) := by
    simp only [extraction, allLack_append, allLack_cons, allLack_block, allLack_nil, text_statement,
      text_comment, text_blank, ← String.append_assoc, String.reduceAppend, hnumber, hend, huniform,
      and_true, true_and]
    and_intros <;> first | exact lacks_heads_lower (by decide) | exact lacks_heads (by decide)
  cases f with
  | strawberryFields =>
    simp only [epilogue, StrawberryFields.epilogue, allLack_append, allLack_cons, allLack_block,
      allLack_nil, text_statement, text_comment, text_blank, String.reduceAppend, hnumber, hextraction,
      and_true]
    and_intros <;> exact lacks_heads_lower (by decide)
  | perceval =>
    simp only [epilogue, Perceval.epilogue, allLack_append, allLack_cons, allLack_block,
      allLack_nil, text_statement, text_comment, text_blank, String.reduceAppend, hnumber, hextraction,
      and_true]
    and_intros <;> first | exact lacks_heads_lower (by decide) | exact lacks_heads (by decide)

theorem bracket_infix_singleStatement (g : Gate) (mode : Nat) :
    (bracket f).toList <:+: (singleStatement f g mode).toList := by
  cases f with
  | strawberryFields =>
    refine ⟨(g.call ++ " | ").toList, (toString mode ++ "]").toList, ?_⟩
    show _ = (g.call ++ " | " ++ ("q[" ++ toString mode ++ "]")).toList
    simp only [String.toList_append, List.append_assoc]
    rfl
  | perceval =>
    refine ⟨[], (toString mode ++ ",), " ++ g.call ++ ")").toList, ?_⟩
    show _ = ("circuit.add((" ++ toString mode ++ ",), " ++ g.call ++ ")").toList
    simp only [String.toList_append, List.append_assoc]
    rfl

theorem bracket_infix_dualStatement (g : Gate) (mode next : Nat) :
    (bracket f).toList <:+: (dualStatement f g mode next).toList := by
  cases f with
  | strawberryFields =>
    refine ⟨(g.call ++ " | (").toList,
      (toString mode ++ "]" ++ ", " ++ ("q[" ++ toString next ++ "]") ++ ")").toList, ?_⟩
    show _ = (g.call ++ " | (" ++ ("q[" ++ toString mode ++ "]") ++ ", " ++
      ("q[" ++ toString next ++ "]") ++ ")").toList
    simp only [String.toList_append, List.append_assoc]
    rfl
  | perceval =>
    refine ⟨[], (toString mode ++ ", " ++ toString next ++ "), " ++ g.call ++ ")").toList, ?_⟩
    show _ =
      ("circuit.add((" ++ toString mode ++ ", " ++ toString next ++ "), " ++ g.call ++ ")").toList
    simp only [String.toList_append, List.append_assoc]
    rfl

/-- Every line of an item has a head or names a mode. -/
theorem exists_mark (h : Fits f i) (hl : l ∈ i.lines f) :
    ∃ p ∈ bracket f :: heads, p.toList <:+: l.text.toList := by
  obtain ⟨remark, tail, hlines, hfront⟩ := exists_remark h
  have hnames : ∀ m ∈ tail, (bracket f).toList <:+: m.text.toList := by
    cases h with
    | unsupported | dangling =>
      obtain ⟨-, rfl⟩ := List.cons.inj hlines
      exact List.forall_mem_nil _
    | @single e mode op supported arity element _ =>
      obtain ⟨text⟩ := exists_singleText supported arity element
      obtain ⟨-, rfl⟩ := List.cons.inj (hlines.symm.trans (text.lines op.arguments mode))
      exact List.forall_mem_singleton.2 (bracket_infix_singleStatement _ _)
    | @dual e mode op supported arity _ =>
      obtain ⟨text⟩ := exists_dualText supported arity
      obtain ⟨-, rfl⟩ := List.cons.inj (hlines.symm.trans (text.lines op.arguments mode (mode + 1)))
      exact List.forall_mem_singleton.2 (bracket_infix_dualStatement _ _ _)
  rw [hlines] at hl
  rcases List.mem_cons.1 hl with rfl | hl
  · obtain ⟨cs, hcs, hprefix⟩ := exists_head_prefix h
    have hremark : cs <+: remark.toList := by
      rw [← hfront] at hprefix
      exact hprefix.trans (List.takeWhile_prefix _)
    refine ⟨.ofList cs, List.mem_cons_of_mem _ (List.mem_map_of_mem hcs), ?_⟩
    rw [String.toList_ofList, text_comment, String.toList_append]
    exact hremark.isInfix.trans (List.suffix_append _ _).isInfix
  · exact ⟨bracket f, List.mem_cons_self, hnames l hl⟩

/-- An operation is written before the measurements. -/
theorem row_mem_rowsBefore (hi : i ∈ Item.plan f c) (hl : l ∈ i.lines f) :
    Program.row (bodyDepth f) l ∈ rowsBefore f c := by
  rw [rowsBefore]
  refine List.mem_append_right _ (List.mem_append_left _ (List.mem_map_of_mem ?_))
  exact List.mem_flatMap.2 ⟨i, hi, hl⟩

/-- It is not written among the measurements. -/
theorem row_ne_measurementRow (hi : i ∈ Item.plan f c) (hl : l ∈ i.lines f) (mode : Nat) :
    Program.row (bodyDepth f) l ≠ (measurementRow f mode).toList := by
  intro heq
  have hnot := not_infix_before (measurementCall_mem f) (row_mem_rowsBefore hi hl)
  have hne := (of_mem_needles (of_mem_deferred (measurementCall_mem f) f).1).1
  rw [heq, ← Text.occurrences_eq_zero_iff hne, occurrences_measurementRow] at hnot
  cases hnot

/-- It is not written after the measurements: no row there has a head or names a mode. -/
theorem row_not_mem_rowsAfter (hi : i ∈ Item.plan f c) (hl : l ∈ i.lines f) (count shots : Nat) :
    Program.row (bodyDepth f) l ∉ rowsAfter f count shots := by
  intro hrow
  have hblanks : ∀ p ∈ bracket f :: heads, p.toList ≠ [] ∧ ' ' ∉ p.toList := by
    cases f <;> decide
  have hbracket : bracket f ∈ references := by cases f <;> decide
  obtain ⟨p, hp, hoccurs⟩ := exists_mark (fits_of_mem_plan hi) hl
  obtain ⟨hne, hblank⟩ := hblanks p hp
  rw [← infix_indentBy_iff hblank] at hoccurs
  have hepilogue : ∀ l ∈ epilogue f count shots, ¬ p.toList <:+: l.text.toList := by
    intro l hl
    rcases List.mem_cons.1 hp with rfl | hp
    · exact allLack_epilogue f count shots l hl _ hbracket
    · exact allLack_heads_epilogue f count shots l hl p hp
  rcases List.mem_append.1 hrow with hrow | hrow
  · exact not_infix_row hblank 0 _ hepilogue hrow hoccurs
  · rw [Program.row] at hrow
    rw [List.mem_singleton.1 hrow, List.infix_nil] at hoccurs
    exact hne hoccurs

/-- **Every mode is measured once**: the measurements stand in the order of the modes, after all
operations and before the run, and nothing else measures. No line of an operation stands elsewhere. -/
theorem generate_measures_once (c : Circuit) (f : Framework) (shots : Nat) :
    let measured := (List.range c.modeCount.toNat).map fun mode => (measurementRow f mode).toList
    Text.rows (generate c f shots) =
      rowsBefore f c ++ measured ++ rowsAfter f c.modeCount.toNat shots ∧
    (∀ i ∈ Item.plan f c, ∀ l ∈ i.lines f, Program.row (bodyDepth f) l ∈ rowsBefore f c ∧
      Program.row (bodyDepth f) l ∉ measured ++ rowsAfter f c.modeCount.toNat shots) ∧
    (∀ row ∈ rowsBefore f c ++ rowsAfter f c.modeCount.toNat shots,
      ∀ g, ¬ (measurementCall g).toList <:+: row) ∧
    (runRow f).toList ∈ rowsAfter f c.modeCount.toNat shots ∧
    (∀ row ∈ rowsBefore f c ++ measured, ∀ call ∈ runs, ¬ call.toList <:+: row) ∧
    ∀ g, Text.occurrences (measurementCall g).toList (generate c f shots).toList =
      if g = f then c.modeCount.toNat else 0 := by
  intro measured
  refine ⟨rows_generate c f shots, fun i hi l hl => ⟨row_mem_rowsBefore hi hl, ?_⟩,
    fun row hrow g => not_infix_others g hrow, runRow_mem f _ shots, fun row hrow call hcall => ?_,
    fun g => ?_⟩
  · rw [List.mem_append, not_or]
    refine ⟨fun hmeasured => ?_, row_not_mem_rowsAfter hi hl _ shots⟩
    obtain ⟨mode, -, heq⟩ := List.mem_map.1 hmeasured
    exact row_ne_measurementRow hi hl mode heq.symm
  · have hdeferred : call ∈ deferred := List.mem_append_right _ hcall
    rcases List.mem_append.1 hrow with hrow | hrow
    · exact not_infix_before hdeferred hrow
    · obtain ⟨mode, -, rfl⟩ := List.mem_map.1 hrow
      refine not_infix_measured hdeferred ?_ mode
      rintro rfl
      cases f <;> exact absurd hcall (by decide)
  · have hneedle := (of_mem_deferred (measurementCall_mem g) f).1
    have hnone : ∀ {row : List Char}, ¬ (measurementCall g).toList <:+: row →
        Text.occurrences (measurementCall g).toList row = 0 := fun h =>
      (Text.occurrences_eq_zero_iff (of_mem_needles hneedle).1).2 h
    have hothers : ∀ rows ⊆ rowsBefore f c ++ rowsAfter f c.modeCount.toNat shots,
        (rows.map (Text.occurrences (measurementCall g).toList)).sum = 0 := by
      intro rows hrows
      refine List.sum_eq_zero fun n hn => ?_
      obtain ⟨row, hrow, rfl⟩ := List.mem_map.1 hn
      exact hnone (not_infix_others g (hrows hrow))
    have hmeasured : (measured.map (Text.occurrences (measurementCall g).toList)).sum =
        if g = f then c.modeCount.toNat else 0 := by
      rw [List.map_map]
      by_cases hg : g = f
      · have hones : List.map (Text.occurrences (measurementCall f).toList ∘
            fun mode => (measurementRow f mode).toList) (List.range c.modeCount.toNat) =
              List.map (fun _ => 1) (List.range c.modeCount.toNat) :=
          List.map_congr_left fun mode _ => occurrences_measurementRow f mode
        rw [if_pos hg, hg, hones, List.map_const', List.sum_replicate_nat, List.length_range,
          Nat.mul_one]
      · rw [if_neg hg]
        refine List.sum_eq_zero fun n hn => ?_
        obtain ⟨mode, -, rfl⟩ := List.mem_map.1 hn
        refine hnone (not_infix_measured (measurementCall_mem g) (fun h => hg ?_) mode)
        cases g <;> cases f <;> first | rfl | exact absurd h (by decide)
    obtain ⟨hne, -, hnewline⟩ := of_mem_needles hneedle
    rw [occurrences_generate c f shots hne hnewline, rows_generate, List.map_append, List.map_append,
      List.sum_append, List.sum_append, hothers _ (List.subset_append_left _ _),
      hothers _ (List.subset_append_right _ _), hmeasured, Nat.zero_add, Nat.add_zero]

end Program

end OpticalBench
