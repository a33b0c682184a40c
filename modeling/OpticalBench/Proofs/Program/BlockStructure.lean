import Mathlib.Data.List.Chain
import OpticalBench.Proofs.Program.Faithfulness
import OpticalBench.Proofs.Text.Rows

/-!
# Programs are well nested

A program is made of statements and of blocks below their headers. So its rows are indented as
blocks are, whatever the circuit holds, and no block is empty.

- `Suite`: the lines that statements, comments and blocks can make up.
- `WellNested`: rows that are indented as blocks are, from some level on.
- `Suite.wellNested`: the rows of a suite are well nested, however deep it stands.
- `Flat`: statements and comments only, as the operations and the measurements are (`flat_body`).
- `suite_opening`, `suite_epilogue`, `suite_lines`: the parts of a program, and all of it.
- `generate_hasBlockStructure`: programs are well nested, and the block of operations ends with the
  last measurement.
-/

namespace OpticalBench

namespace Line

/-! ## Suites -/

/-- Whether a text begins like a statement, neither with a space nor like a comment. -/
def beginsPlainly (cs : List Char) : Bool := cs.head?.any fun c => c != ' ' && c != '#'

/-- Whether a text ends with something else than a colon. -/
def endsPlainly (cs : List Char) : Bool := cs.getLast?.any (· != ':')

/-- The text of a statement. -/
structure IsStatement (s : String) : Prop where
  begins : beginsPlainly s.toList = true
  ends : endsPlainly s.toList = true

/-- The text of a header. -/
structure IsHeader (s : String) : Prop where
  begins : beginsPlainly s.toList = true
  ends : s.toList.getLast? = some ':'

/-- Lines that statements, comments and blocks make up. A block holds at least one statement. -/
inductive Suite : List Line → Prop
  | nil : Suite []
  | comment {text : String} {rest : List Line} (suite : Suite rest) : Suite (comment text :: rest)
  | blank {rest : List Line} (suite : Suite rest) : Suite (blank :: rest)
  | statement {text : String} {rest : List Line} (is_statement : IsStatement text)
    (suite : Suite rest) : Suite (statement text :: rest)
  | block {header inner : String} {body rest : List Line} (is_header : IsHeader header)
    (suite_body : Suite body) (is_statement : IsStatement inner) (filled : statement inner ∈ body)
    (suite : Suite rest) : Suite (block header body ++ rest)

section

variable {s t : String} {cs : List Char} {ls ms : List Line}

theorem begins_append (hs : beginsPlainly s.toList = true) (t : String) :
    beginsPlainly (s ++ t).toList = true := by
  obtain ⟨c, hc, hbegins⟩ := (Option.any_eq_true _ _).1 hs
  rw [beginsPlainly, String.toList_append, List.head?_append, hc]
  exact hbegins

theorem endsPlainly_append (ht : endsPlainly t.toList = true) (s : String) :
    endsPlainly (s ++ t).toList = true := by
  obtain ⟨c, hc, hends⟩ := (Option.any_eq_true _ _).1 ht
  rw [endsPlainly, String.toList_append, List.getLast?_append, hc]
  exact hends

/-- A text that is written out is looked at character by character. -/
theorem begins_ofList (h : beginsPlainly cs = true) :
    beginsPlainly (String.ofList cs).toList = true := by
  rwa [String.toList_ofList]

theorem endsPlainly_ofList (h : endsPlainly cs = true) :
    endsPlainly (String.ofList cs).toList = true := by
  rwa [String.toList_ofList]

theorem isStatement_ofList (hbegins : beginsPlainly cs = true) (hends : endsPlainly cs = true) :
    IsStatement (String.ofList cs) := ⟨begins_ofList hbegins, endsPlainly_ofList hends⟩

theorem isHeader_ofList (hbegins : beginsPlainly cs = true) (hends : cs.getLast? = some ':') :
    IsHeader (String.ofList cs) := ⟨begins_ofList hbegins, by rwa [String.toList_ofList]⟩

/-- A text is a statement by its first and its last part. -/
theorem IsStatement.append (hs : beginsPlainly s.toList = true) (ht : endsPlainly t.toList = true) :
    IsStatement (s ++ t) := ⟨begins_append hs t, endsPlainly_append ht s⟩

/-- A block that begins with a statement is not empty. -/
theorem Suite.opened (is_header : IsHeader s) (is_statement : IsStatement t) (suite : Suite ls) :
    Suite (Line.block s (Line.statement t :: ls)) := by
  rw [← List.append_nil (Line.block s _)]
  exact .block is_header (.statement is_statement suite) is_statement List.mem_cons_self .nil

theorem Suite.append (hls : Suite ls) (hms : Suite ms) : Suite (ls ++ ms) := by
  induction hls with
  | nil => exact hms
  | comment _ ih => exact .comment ih
  | blank _ ih => exact .blank ih
  | statement is_statement _ ih => exact .statement is_statement ih
  | block is_header suite_body is_statement filled _ _ ih =>
    rw [List.append_assoc]
    exact .block is_header suite_body is_statement filled ih

end

/-! ## Rows of suites -/

/-- A row may stand after another: after a colon one level deeper, else not deeper. -/
def Follows (row next : List Char) : Prop :=
  if Text.opensBlock row = true then Text.indentation next = Text.indentation row + 4
  else Text.indentation next ≤ Text.indentation row

/-- Rows that are indented as blocks are, from a level of indentation on. -/
structure WellNested (base : Nat) (rows : List (List Char)) : Prop where
  chain : rows.IsChain Follows
  first : ∀ row ∈ rows.head?, Text.indentation row = base
  last : ∀ row ∈ rows.getLast?, Text.opensBlock row = false
  indented : ∀ row ∈ rows, base ≤ Text.indentation row ∧ 4 ∣ Text.indentation row

namespace WellNested

variable {base : Nat} {row : List Char} {rows rows' : List (List Char)}

theorem nil : WellNested base [] := ⟨.nil, nofun, nofun, nofun⟩

theorem singleton (hrow : Text.indentation row = base) (hbase : 4 ∣ base)
    (hopens : Text.opensBlock row = false) : WellNested base [row] where
  chain := .singleton row
  first := by simpa using hrow
  last := by simpa using hopens
  indented := by simp [hrow, hbase]

/-- What stands after well nested rows cannot be deeper than the last of them. -/
theorem append (h : WellNested base rows) (h' : WellNested base rows') :
    WellNested base (rows ++ rows') where
  chain := by
    refine List.isChain_append.2 ⟨h.chain, h'.chain, fun row hrow next hnext => ?_⟩
    rw [Follows, if_neg (by simp [h.last row hrow]), h'.first next hnext]
    exact (h.indented row (List.mem_of_mem_getLast? hrow)).1
  first row hrow := by
    rw [List.head?_append, Option.mem_def, Option.or_eq_some_iff] at hrow
    rcases hrow with hrow | ⟨-, hrow⟩
    · exact h.first row hrow
    · exact h'.first row hrow
  last row hrow := by
    rw [List.getLast?_append, Option.mem_def, Option.or_eq_some_iff] at hrow
    rcases hrow with hrow | ⟨-, hrow⟩
    · exact h'.last row hrow
    · exact h.last row hrow
  indented row hrow := by
    rcases List.mem_append.1 hrow with hrow | hrow
    · exact h.indented row hrow
    · exact h'.indented row hrow

/-- A header stands in front of rows that are one level deeper. -/
theorem cons (hrow : Text.indentation row = base) (hbase : 4 ∣ base)
    (hopens : Text.opensBlock row = true) (h : WellNested (base + 4) rows) (hne : rows ≠ []) :
    WellNested base (row :: rows) where
  chain := by
    refine List.isChain_cons.2 ⟨fun next hnext => ?_, h.chain⟩
    rw [Follows, if_pos hopens, h.first next hnext, hrow]
  first := by simpa using hrow
  last last hlast := by
    obtain ⟨next, rows, rfl⟩ := List.exists_cons_of_ne_nil hne
    exact h.last last (by rwa [List.getLast?_cons_cons] at hlast)
  indented := by
    refine List.forall_mem_cons.2 ⟨⟨Nat.le_of_eq hrow.symm, hrow ▸ hbase⟩, fun next hnext => ?_⟩
    obtain ⟨hle, hdvd⟩ := h.indented next hnext
    exact ⟨by omega, hdvd⟩

/-- Well nested rows make a source well nested. -/
theorem hasBlockStructure {s : String} (h : WellNested 0 (Text.code s)) (hne : Text.code s ≠ [])
    (hended : s.toList.getLast? = some '\n') : Text.HasBlockStructure s where
  ended := hended
  first := by
    obtain ⟨row, rest, hcode⟩ := List.exists_cons_of_ne_nil hne
    exact ⟨row, rest, hcode, h.first row (by rw [hcode]; rfl)⟩
  indented row hrow := (h.indented row hrow).2
  opened before row after hcode hopens := by
    cases after with
    | nil =>
      have hlast := h.last row (by rw [hcode, List.getLast?_concat]; rfl)
      exact nomatch hopens.symm.trans hlast
    | cons next rest =>
      have hchain := h.chain
      rw [hcode] at hchain
      have hfollows : Follows row next :=
        (List.isChain_cons_cons.1 (List.isChain_append.1 hchain).2.1).1
      rw [Follows, if_pos hopens] at hfollows
      exact ⟨next, rest, rfl, hfollows⟩
  deeper before row next after hcode hdeeper := by
    have hchain := h.chain
    rw [hcode] at hchain
    have hfollows : Follows row next :=
      (List.isChain_cons_cons.1 (List.isChain_append.1 hchain).2.1).1
    rw [Follows] at hfollows
    by_contra hopens
    rw [if_neg hopens] at hfollows
    omega

end WellNested

/-- The rows of code among lines that stand some levels deep. -/
def codeRows (levels : Nat) (ls : List Line) : List (List Char) :=
  (ls.map fun l => (l.indentBy levels).characters).filter Text.isCode

section

variable {levels : Nat} {s : String} {ls ms : List Line}

theorem codeRows_append :
    codeRows levels (ls ++ ms) = codeRows levels ls ++ codeRows levels ms := by
  rw [codeRows, List.map_append, List.filter_append]
  rfl

theorem codeRows_map_indentBy (more : Nat) :
    codeRows levels (ls.map (indentBy more)) = codeRows (levels + more) ls := by
  rw [codeRows, List.map_map]
  refine congrArg _ (List.map_congr_left fun l _ => ?_)
  show (Line.mk (l.depth + more + levels) l.text).characters =
    (Line.mk (l.depth + (levels + more)) l.text).characters
  rw [Nat.add_assoc, Nat.add_comm more]

theorem characters_eq_append (h : beginsPlainly s.toList = true) (levels : Nat) :
    ((statement s).indentBy levels).characters = List.replicate (4 * levels) ' ' ++ s.toList := by
  have hne : s.isEmpty = false := by
    rw [← Bool.not_eq_true, String.isEmpty_iff]
    rintro rfl
    exact nomatch h
  show (if s.isEmpty then _ else List.replicate (4 * (0 + levels)) ' ' ++ s.toList) = _
  rw [if_neg (by simp [hne]), Nat.zero_add]

/-- What begins like a statement is a row of code, and it is indented by its level. -/
theorem isCode_of_begins (h : beginsPlainly s.toList = true) (levels : Nat) :
    Text.isCode ((statement s).indentBy levels).characters = true ∧
      Text.indentation ((statement s).indentBy levels).characters = 4 * levels := by
  rw [characters_eq_append h]
  obtain ⟨c, hc, hfirst⟩ := (Option.any_eq_true _ _).1 h
  obtain ⟨cs, hs⟩ := List.head?_eq_some_iff.1 hc
  rw [Bool.and_eq_true] at hfirst
  have hspace : ¬ (c == ' ') = true := by simpa using hfirst.1
  have hspaces : ∀ d ∈ List.replicate (4 * levels) ' ', (d == ' ') = true := by
    intro d hd
    rw [List.eq_of_mem_replicate hd]
    rfl
  rw [Text.isCode, Text.indentation, hs, List.dropWhile_append_of_pos hspaces,
    List.takeWhile_append_of_pos hspaces, List.dropWhile_cons, if_neg hspace, List.takeWhile_cons,
    if_neg hspace, List.append_nil, List.length_replicate]
  exact ⟨hfirst.2, rfl⟩

/-- A row opens a block if its text ends in a colon. -/
theorem opensBlock_characters (h : beginsPlainly s.toList = true) :
    Text.opensBlock ((statement s).indentBy levels).characters =
      (s.toList.getLast? == some ':') := by
  obtain ⟨c, hc, -⟩ := (Option.any_eq_true _ _).1 h
  have hlast : s.toList.getLast?.isSome = true := by
    obtain ⟨cs, hs⟩ := List.head?_eq_some_iff.1 hc
    rw [hs, List.getLast?_cons]
    rfl
  rw [Text.opensBlock, characters_eq_append h, List.getLast?_append,
    Option.or_of_isSome hlast]

theorem IsStatement.opensBlock (h : IsStatement s) :
    Text.opensBlock ((statement s).indentBy levels).characters = false := by
  obtain ⟨c, hc, hlast⟩ := (Option.any_eq_true _ _).1 h.ends
  rw [opensBlock_characters h.begins, hc]
  simpa using hlast

theorem codeRows_statement (h : beginsPlainly s.toList = true) :
    codeRows levels (statement s :: ls) =
      ((statement s).indentBy levels).characters :: codeRows levels ls := by
  rw [codeRows, List.map_cons, List.filter_cons_of_pos (isCode_of_begins h _).1]
  rfl

theorem codeRows_comment : codeRows levels (comment s :: ls) = codeRows levels ls := by
  have hcomment : Text.isCode ((comment s).indentBy levels).characters = false := by
    have hspaces : ∀ d ∈ List.replicate (4 * (0 + levels)) ' ', (d == ' ') = true := by
      intro d hd
      rw [List.eq_of_mem_replicate hd]
      rfl
    have hne : ("# " ++ s).isEmpty = false := by
      rw [← Bool.not_eq_true, String.isEmpty_iff]
      intro hempty
      have := congrArg String.toList hempty
      rw [String.toList_append] at this
      exact nomatch this
    show Text.isCode (if ("# " ++ s).isEmpty then _ else
      List.replicate (4 * (0 + levels)) ' ' ++ ("# " ++ s).toList) = false
    rw [if_neg (by simp [hne]), Text.isCode, List.dropWhile_append_of_pos hspaces,
      String.toList_append]
    rfl
  rw [codeRows, List.map_cons, List.filter_cons_of_neg (by simp [hcomment])]
  rfl

/-- Lines with a statement have a row of code. -/
theorem codeRows_ne_nil (h : beginsPlainly s.toList = true) (hmem : statement s ∈ ls)
    (levels : Nat) : codeRows levels ls ≠ [] := by
  refine List.ne_nil_of_mem (a := ((statement s).indentBy levels).characters) ?_
  exact List.mem_filter.2 ⟨List.mem_map_of_mem hmem, (isCode_of_begins h _).1⟩

/-- The rows of a suite are well nested, however deep it stands. -/
theorem Suite.wellNested (h : Suite ls) (levels : Nat) :
    WellNested (4 * levels) (codeRows levels ls) := by
  -- the body of a block stands one level deeper, so the level is not fixed
  induction h generalizing levels with
  | nil => exact .nil
  | comment _ ih =>
    rw [codeRows_comment]
    exact ih levels
  | blank _ ih => exact ih levels
  | statement is_statement _ ih =>
    rw [codeRows_statement is_statement.begins, ← List.singleton_append]
    exact .append (.singleton (isCode_of_begins is_statement.begins _).2
      (Nat.dvd_mul_right 4 levels) is_statement.opensBlock) (ih levels)
  | @block header inner body rest is_header _ is_statement filled _ ihbody ihrest =>
    rw [codeRows_append, Line.block, codeRows_statement is_header.begins, codeRows_map_indentBy]
    have hopens : Text.opensBlock ((Line.statement header).indentBy levels).characters = true := by
      rw [opensBlock_characters is_header.begins, is_header.ends]
      rfl
    refine .append (.cons (isCode_of_begins is_header.begins _).2 (Nat.dvd_mul_right 4 levels) hopens
      ?_ ?_) (ihrest levels)
    · exact ihbody (levels + 1)
    · exact codeRows_ne_nil is_statement.begins filled _

/-! ## Lines without blocks -/

/-- Statements and comments only. -/
def Flat (ls : List Line) : Prop :=
  ∀ l ∈ ls, (∃ s, l = comment s) ∨ ∃ s, IsStatement s ∧ l = statement s

theorem Flat.append (hls : Flat ls) (hms : Flat ms) : Flat (ls ++ ms) :=
  List.forall_mem_append.2 ⟨hls, hms⟩

theorem Flat.suite (h : Flat ls) : Suite ls := by
  induction ls with
  | nil => exact .nil
  | cons l ls ih =>
    obtain ⟨hl, hls⟩ := List.forall_mem_cons.1 h
    rcases hl with ⟨s, rfl⟩ | ⟨s, is_statement, rfl⟩
    · exact .comment (ih hls)
    · exact .statement is_statement (ih hls)

/-- The rows of code among them are on one level. -/
theorem Flat.indentation_eq (h : Flat ls) (levels : Nat) {row : List Char}
    (hrow : row ∈ codeRows levels ls) : Text.indentation row = 4 * levels := by
  obtain ⟨hmem, hcode⟩ := List.mem_filter.1 hrow
  obtain ⟨l, hl, rfl⟩ := List.mem_map.1 hmem
  rcases h l hl with ⟨s, rfl⟩ | ⟨s, is_statement, rfl⟩
  · have hnone : codeRows levels [comment s] = [] := codeRows_comment
    rw [codeRows, List.map_singleton, List.filter_cons_of_pos hcode] at hnone
    exact nomatch hnone
  · exact (isCode_of_begins is_statement.begins _).2

end

end Line

/-! ## The parts of a program -/

namespace Program

open Line

section

variable {s t : String} {cs ds : List Char}

theorem isStatement_append_number (hcs : beginsPlainly cs = true) (n : Nat) :
    IsStatement (String.ofList cs ++ toString n) := by
  refine .append (begins_ofList hcs) ?_
  obtain ⟨d, hd⟩ : ∃ d, (toString n).toList.getLast? = some d := by
    obtain ⟨d, ds, hn, -⟩ := Text.exists_toString_eq n
    rw [hn, List.getLast?_cons]
    exact ⟨_, rfl⟩
  have hdigit := Text.isDigit_of_mem_toString (List.mem_of_getLast? hd)
  rw [endsPlainly, hd]
  show (d != ':') = true
  rw [bne_iff_ne]
  rintro rfl
  exact nomatch hdigit

theorem isStatement_number (hcs : beginsPlainly cs = true) (hds : endsPlainly ds = true) (n : Nat) :
    IsStatement (String.ofList cs ++ toString n ++ String.ofList ds) :=
  .append (begins_append (begins_ofList hcs) _) (endsPlainly_ofList hds)

theorem isHeader_append (hs : beginsPlainly s.toList = true) (hds : ds.getLast? = some ':') :
    IsHeader (s ++ String.ofList ds) := by
  refine ⟨begins_append hs _, ?_⟩
  rw [String.toList_append, String.toList_ofList, List.getLast?_append, hds]
  rfl

end

theorem suite_engine (fock : Bool) : Suite (StrawberryFields.engine fock) := by
  cases fock with
  | false => exact .comment (.statement (isStatement_ofList (by decide) (by decide)) .nil)
  | true => exact .comment (.statement (isStatement_number (by decide) (by decide) _) .nil)

/-- What stands before the header of the block of operations. -/
def opening (count : Nat) (kerr : Bool) : List Line :=
  (preamble .strawberryFields count kerr).dropLast

theorem preamble_strawberryFields (count : Nat) (kerr : Bool) :
    preamble .strawberryFields count kerr =
      opening count kerr ++ [statement "with prog.context as q:"] := by
  cases kerr <;> rfl

theorem suite_opening (count : Nat) (kerr : Bool) : Suite (opening count kerr) := by
  have hshape : opening count kerr = [statement "import strawberryfields as sf",
      statement "from strawberryfields.ops import *", statement "import numpy as np",
      statement "import json", statement "import time", blank,
      comment ("Initialize program with " ++ toString count ++ " modes"),
      statement ("prog = sf.Program(" ++ toString count ++ ")"), blank] ++
      (StrawberryFields.engine kerr ++ [blank, comment "Circuit definition"]) := by
    cases kerr <;> rfl
  rw [hshape]
  refine .append (.statement ?_ (.statement ?_ (.statement ?_ (.statement ?_ (.statement ?_
    (.blank (.comment (.statement ?_ (.blank .nil)))))))))
    (.append (suite_engine kerr) (.blank (.comment .nil)))
  · exact isStatement_ofList (by decide) (by decide)
  · exact isStatement_ofList (by decide) (by decide)
  · exact isStatement_ofList (by decide) (by decide)
  · exact isStatement_ofList (by decide) (by decide)
  · exact isStatement_ofList (by decide) (by decide)
  · exact isStatement_number (by decide) (by decide) count

theorem suite_preamble_perceval (count : Nat) (kerr : Bool) :
    Suite (preamble .perceval count kerr) := by
  refine .statement ?_ (.statement ?_ (.statement ?_ (.statement ?_ (.blank (.comment (.statement ?_
    (.statement ?_ (.blank .nil))))))))
  · exact isStatement_ofList (by decide) (by decide)
  · exact isStatement_ofList (by decide) (by decide)
  · exact isStatement_ofList (by decide) (by decide)
  · exact isStatement_ofList (by decide) (by decide)
  · exact isStatement_number (by decide) (by decide) count
  · exact isStatement_ofList (by decide) (by decide)

theorem isStatement_uniform (count : Nat) :
    IsStatement ("probabilities = " ++ Literal.uniform count) := by
  rw [Literal.uniform]
  exact .append (begins_ofList (by decide)) (endsPlainly_append (endsPlainly_ofList (by decide)) _)

theorem suite_extraction (count shots : Nat) : Suite (extraction count shots) := by
  have huniform := isStatement_uniform count
  have hshots : IsStatement ("shots = " ++ toString shots) :=
    isStatement_append_number (by decide) shots
  have hmodes : IsHeader ("for i in range(" ++ toString count ++ "):") :=
    isHeader_append (begins_append (begins_ofList (by decide)) _) (by decide)
  have hdetections : IsStatement
      ("photon_detections[f\"mode_\x7bi\x7d\"] = sum(prob for label, prob in " ++
        "probabilities.items() if len(label) > i and label[i] != \"0\")") :=
    .append (begins_ofList (by decide)) (endsPlainly_ofList (by decide))
  refine .append (.append (.append (.append (.append (.opened ?_ ?_ (.comment (.statement huniform
    (.statement ?_ .nil)))) (.blank (.comment (.statement hshots (.statement ?_ .nil)))))
    (.opened ?_ ?_ (.opened ?_ ?_ .nil))) (.blank (.comment (.statement ?_ .nil))))
    (.opened hmodes hdetections .nil)) (.blank (.statement ?_ (.statement ?_ (.blank (.statement ?_
    (.statement ?_ (.statement ?_ .nil)))))))
  all_goals first
    | exact isStatement_ofList (by decide) (by decide)
    | exact isHeader_ofList (by decide) (by decide)

theorem suite_epilogue (f : Framework) (count shots : Nat) : Suite (epilogue f count shots) := by
  cases f with
  | strawberryFields =>
    have hindices : IsHeader ("for index in np.ndindex(*([" ++
        toString StrawberryFields.probabilityCutoff ++ "] * " ++ toString count ++ ")):") :=
      isHeader_append (begins_append (begins_append (begins_append (begins_ofList (by decide)) _) _)
        _) (by decide)
    refine .append (.append (.blank (.comment (.statement ?_ (.statement ?_ (.blank (.comment
      (.statement ?_ .nil))))))) (.opened ?_ ?_ (.statement ?_ (.append (.opened hindices ?_
      (.opened ?_ ?_ .nil)) (.opened ?_ ?_ .nil))))) (suite_extraction count shots)
    all_goals first
      | exact isStatement_ofList (by decide) (by decide)
      | exact isHeader_ofList (by decide) (by decide)
  | perceval =>
    have hinput : IsStatement
        ("input_state = pcvl.BasicState([1] + [0] * (" ++ toString count ++ " - 1))") :=
      isStatement_number (by decide) (by decide) count
    refine .append (.append (.append (.append (.blank (.comment (.statement hinput (.blank
      (.comment (.statement ?_ .nil)))))) (.opened ?_ ?_ .nil)) (.statement ?_ (.blank (.comment
      (.statement ?_ (.statement ?_ (.blank (.comment (.statement ?_ .nil))))))))) (.opened ?_ ?_
      (.statement ?_ (.append (.opened ?_ ?_ .nil) (.opened ?_ ?_ .nil)))))
      (suite_extraction count shots)
    all_goals first
      | exact isStatement_ofList (by decide) (by decide)
      | exact isHeader_ofList (by decide) (by decide)

/-! ## Operations and measurements -/

variable {f : Framework} {g : Gate} {e : Element} {arguments : List String}

theorem begins_call {cs : List Char} (hcs : beginsPlainly cs = true) (xs : List String) :
    beginsPlainly (call (String.ofList cs) xs).toList = true := by
  rw [call, String.append_assoc, String.append_assoc]
  exact begins_append (begins_ofList hcs) _

theorem begins_singleGate (h : StrawberryFields.singleGate? e arguments = some g) :
    beginsPlainly g.call.toList = true := by
  cases e <;> first
    | contradiction
    | (obtain rfl := Option.some.inj h
       exact begins_call (by decide) _)

theorem begins_dualGate {mode next : Nat}
    (h : StrawberryFields.dualGate? e arguments mode next = some g) :
    beginsPlainly g.call.toList = true := by
  cases e <;> first
    | contradiction
    | (obtain rfl := Option.some.inj h
       exact begins_call (by decide) _)

theorem endsPlainly_wire (mode : Nat) :
    endsPlainly (StrawberryFields.wire mode).toList = true :=
  endsPlainly_append (endsPlainly_ofList (by decide)) _

theorem flat_single (f : Framework) (e : Element) (arguments : List String) (mode : Nat) :
    Flat (single f e arguments mode) := by
  rw [single]
  cases hgate : singleGate? f e arguments with
  | none => exact List.forall_mem_singleton.2 (.inl ⟨_, rfl⟩)
  | some g =>
    have is_statement : IsStatement (singleStatement f g mode) := by
      cases f with
      | strawberryFields =>
        exact .append (begins_append (begins_singleGate hgate) _) (endsPlainly_wire mode)
      | perceval =>
        exact .append (begins_append (begins_append (begins_append (begins_ofList (by decide)) _) _)
          _) (endsPlainly_ofList (by decide))
    exact List.forall_mem_cons.2
      ⟨.inl ⟨_, rfl⟩, List.forall_mem_singleton.2 (.inr ⟨_, is_statement, rfl⟩)⟩

theorem flat_dual (f : Framework) (e : Element) (arguments : List String) (mode next : Nat) :
    Flat (dual f e arguments mode next) := by
  rw [dual]
  cases hgate : dualGate? f e arguments mode next with
  | none => exact List.forall_mem_singleton.2 (.inl ⟨_, rfl⟩)
  | some g =>
    have is_statement : IsStatement (dualStatement f g mode next) := by
      cases f with
      | strawberryFields =>
        exact .append (begins_append (begins_append (begins_append (begins_append
          (begins_dualGate hgate) _) _) _) _) (endsPlainly_ofList (by decide))
      | perceval =>
        exact .append (begins_append (begins_append (begins_append (begins_append (begins_append
          (begins_ofList (by decide)) _) _) _) _) _) (endsPlainly_ofList (by decide))
    exact List.forall_mem_cons.2
      ⟨.inl ⟨_, rfl⟩, List.forall_mem_singleton.2 (.inr ⟨_, is_statement, rfl⟩)⟩

theorem flat_items (f : Framework) (items : List Item) : Flat (items.flatMap (Item.lines f)) := by
  intro l hl
  obtain ⟨i, -, hl⟩ := List.mem_flatMap.1 hl
  cases i with
  | unsupported e mode => exact .inl ⟨_, List.mem_singleton.1 hl⟩
  | single e mode arguments => exact flat_single f e arguments mode l hl
  | dual e mode arguments => exact flat_dual f e arguments mode (mode + 1) l hl
  | dangling e mode => exact .inl ⟨_, List.mem_singleton.1 hl⟩

/-- The text of a measurement. -/
theorem exists_measurement (f : Framework) (mode : Nat) :
    ∃ s, IsStatement s ∧ measurement f mode = statement s := by
  cases f with
  | strawberryFields => exact ⟨_, .append (begins_ofList (by decide)) (endsPlainly_wire mode), rfl⟩
  | perceval => exact ⟨_, isStatement_number (by decide) (by decide) mode, rfl⟩

theorem flat_measurements (f : Framework) (count : ModeCount) : Flat (measurements f count) := by
  refine List.forall_mem_cons.2 ⟨.inl ⟨_, rfl⟩, fun l hl => ?_⟩
  obtain ⟨mode, -, rfl⟩ := List.mem_map.1 hl
  exact .inr (exists_measurement f mode)

theorem flat_body (f : Framework) (c : Circuit) :
    Flat ((Item.plan f c).flatMap (Item.lines f) ++ measurements f c.modeCount) :=
  (flat_items f _).append (flat_measurements f _)

/-! ## Programs -/

/-- A program for Strawberry Fields has its operations in a block. -/
theorem lines_strawberryFields (c : Circuit) (shots : Nat) :
    lines c .strawberryFields shots =
      opening c.modeCount.toNat (hasKerr c) ++
        (Line.block "with prog.context as q:"
          ((Item.plan .strawberryFields c).flatMap (Item.lines .strawberryFields) ++
            measurements .strawberryFields c.modeCount) ++
          epilogue .strawberryFields c.modeCount.toNat shots) := by
  rw [lines, ofItems, preamble_strawberryFields, body, Line.block]
  simp only [List.append_assoc, List.cons_append]
  rfl

/-- A program is a suite: the block of operations holds at least the measurement of a mode. -/
theorem suite_lines (c : Circuit) (f : Framework) (shots : Nat) : Suite (lines c f shots) := by
  cases f with
  | strawberryFields =>
    obtain ⟨s, is_statement, hs⟩ := exists_measurement .strawberryFields 0
    have hfilled : statement s ∈ (Item.plan .strawberryFields c).flatMap
        (Item.lines .strawberryFields) ++ measurements .strawberryFields c.modeCount := by
      rw [← hs]
      refine List.mem_append_right _ (List.mem_cons_of_mem _ (List.mem_map_of_mem ?_))
      exact List.mem_range.2 c.modeCount.one_le
    rw [lines_strawberryFields]
    refine .append (suite_opening _ _) (.block (isHeader_ofList (by decide) (by decide))
      (flat_body _ c).suite is_statement hfilled (suite_epilogue _ _ _))
  | perceval =>
    have hbody : body .perceval c.modeCount (Item.plan .perceval c) =
        (Item.plan .perceval c).flatMap (Item.lines .perceval) ++
          measurements .perceval c.modeCount :=
      List.map_id _
    rw [lines, ofItems, hbody]
    exact .append (.append (suite_preamble_perceval _ _) (flat_body _ c).suite)
      (suite_epilogue _ _ _)

/-- The rows of code of a program are those of its lines. -/
theorem code_generate (c : Circuit) (f : Framework) (shots : Nat) :
    Text.code (generate c f shots) = codeRows 0 (lines c f shots) := by
  rw [Text.code, generate, rows_render (areRows_lines c f shots), List.filter_append]
  exact List.append_nil _

/-- What is written ends with a line feed. -/
theorem getLast?_render {ls : List Line} (hls : ls ≠ []) :
    (render ls).toList.getLast? = some '\n' := by
  obtain ⟨ms, l, rfl⟩ := (List.eq_nil_or_concat' ls).resolve_left hls
  rw [render, String.toList_ofList, allCharacters_append, allCharacters_cons, allCharacters_nil,
    ← List.append_assoc, List.getLast?_concat]

/-- The attempt to get the probabilities, and what is done when it fails, are blocks. -/
theorem headers_mem_epilogue (f : Framework) (count shots : Nat) :
    ∀ header ∈ ["try:", "except Exception as probs_error:"],
      statement header ∈ epilogue f count shots := by
  have htry : statement "try:" ∈ epilogue f count shots := by
    cases f <;> exact List.mem_append_left _ (List.mem_append_right _ List.mem_cons_self)
  have hexcept : statement "except Exception as probs_error:" ∈ extraction count shots :=
    List.mem_append_left _ (List.mem_append_left _ (List.mem_append_left _
      (List.mem_append_left _ (List.mem_append_left _ List.mem_cons_self))))
  refine List.forall_mem_cons.2 ⟨htry, List.forall_mem_singleton.2 ?_⟩
  cases f <;> exact List.mem_append_right _ hexcept

/-- They begin like statements and open blocks on the outermost level. -/
theorem headers_open : ∀ header ∈ ["try:", "except Exception as probs_error:"],
    beginsPlainly header.toList = true ∧ Text.opensBlock header.toList = true ∧
      Text.indentation header.toList = 0 := by
  decide

theorem headers_mem_code (c : Circuit) (f : Framework) (shots : Nat) :
    ∀ header ∈ ["try:", "except Exception as probs_error:"],
      header.toList ∈ Text.code (generate c f shots) := by
  intro header hheader
  have hbegins := (headers_open header hheader).1
  have hrow := characters_eq_append hbegins 0
  have hcode := (isCode_of_begins hbegins 0).1
  rw [hrow] at hcode
  rw [code_generate]
  refine List.mem_filter.2 ⟨List.mem_map.2 ⟨statement header, ?_, hrow⟩, hcode⟩
  exact List.mem_append_right _ (headers_mem_epilogue f _ shots header hheader)

/-- The measurement of the last mode ends the block of operations. -/
theorem codeRows_body (c : Circuit) : ∃ inner,
    codeRows 1 ((Item.plan .strawberryFields c).flatMap (Item.lines .strawberryFields) ++
        measurements .strawberryFields c.modeCount) =
      inner ++ [("    MeasureFock() | q[" ++ toString (c.modeCount.toNat - 1) ++ "]").toList] ∧
      ∀ row ∈ inner, Text.indentation row = 4 := by
  let last := c.modeCount.toNat - 1
  have hmodes : c.modeCount.modes = List.range last ++ [last] := by
    rw [← List.range_succ, Nat.succ_eq_add_one, Nat.sub_add_cancel c.modeCount.one_le]
    rfl
  have hlast : codeRows 1 [measurement .strawberryFields last] =
      [("    MeasureFock() | q[" ++ toString last ++ "]").toList] := by
    have hbegins : beginsPlainly ("MeasureFock() | " ++ StrawberryFields.wire last).toList = true :=
      begins_append (begins_ofList (by decide)) _
    have hrow := characters_eq_append hbegins 1
    show codeRows 1 [statement ("MeasureFock() | " ++ StrawberryFields.wire last)] = _
    rw [codeRows_statement hbegins, hrow]
    simp only [StrawberryFields.wire, String.toList_append, List.append_assoc]
    rfl
  have hbody : codeRows 1 ((Item.plan .strawberryFields c).flatMap (Item.lines .strawberryFields) ++
      measurements .strawberryFields c.modeCount) =
        codeRows 1 ((Item.plan .strawberryFields c).flatMap (Item.lines .strawberryFields) ++
          comment "Measurements" :: (List.range last).map (measurement .strawberryFields)) ++
        codeRows 1 [measurement .strawberryFields last] := by
    rw [measurements, hmodes, List.map_append, ← List.cons_append, ← List.append_assoc,
      codeRows_append]
    rfl
  refine ⟨_, hlast ▸ hbody, fun row hrow => ?_⟩
  refine (flat_body .strawberryFields c).indentation_eq 1 ?_
  rw [hbody]
  exact List.mem_append_left _ hrow

/-- **Programs are well nested**, whatever the circuit holds: rows are indented by whole levels, one
more after a colon and only there, and no block is empty. The block of operations ends with the last
measurement. -/
theorem generate_hasBlockStructure (c : Circuit) (shots : Nat) :
    (∀ f, Text.HasBlockStructure (generate c f shots)) ∧
    (∀ f, ∀ header ∈ ["try:", "except Exception as probs_error:"], ∃ before next after,
      Text.code (generate c f shots) = before ++ header.toList :: next :: after ∧
        Text.indentation next = 4) ∧
    ∃ before inner next after, Text.code (generate c .strawberryFields shots) =
      before ++ "with prog.context as q:".toList :: (inner ++
        ("    MeasureFock() | q[" ++ toString (c.modeCount.toNat - 1) ++ "]").toList ::
          next :: after) ∧
      (∀ row ∈ inner, Text.indentation row = 4) ∧ Text.indentation next = 0 := by
  have hstructure : ∀ f, Text.HasBlockStructure (generate c f shots) := by
    intro f
    have hmem := headers_mem_code c f shots "try:" List.mem_cons_self
    have hcode := code_generate c f shots
    refine WellNested.hasBlockStructure (hcode ▸ (suite_lines c f shots).wellNested 0)
      (List.ne_nil_of_mem hmem) (getLast?_render ?_)
    intro hnil
    rw [hcode, hnil] at hmem
    exact absurd hmem List.not_mem_nil
  refine ⟨hstructure, fun f header hheader => ?_, ?_⟩
  · obtain ⟨before, after, hcode⟩ := List.append_of_mem (headers_mem_code c f shots header hheader)
    obtain ⟨-, hopens, hlevel⟩ := headers_open header hheader
    obtain ⟨next, rest, rfl, hnext⟩ := (hstructure f).opened _ _ _ hcode hopens
    exact ⟨before, next, rest, hcode, by rw [hnext, hlevel]⟩
  · have hbegins : beginsPlainly "with prog.context as q:".toList = true :=
      begins_ofList (by decide)
    have hheader := characters_eq_append hbegins 0
    obtain ⟨inner, hbody, hinner⟩ := codeRows_body c
    obtain ⟨next, after, hepilogue⟩ := List.exists_cons_of_ne_nil
      (codeRows_ne_nil (headers_open "try:" List.mem_cons_self).1
        (headers_mem_epilogue .strawberryFields c.modeCount.toNat shots _ List.mem_cons_self) 0)
    have hnext : Text.indentation next = 0 := by
      refine ((suite_epilogue .strawberryFields c.modeCount.toNat shots).wellNested 0).first next ?_
      rw [hepilogue]
      rfl
    refine ⟨codeRows 0 (opening c.modeCount.toNat (hasKerr c)), inner, next, after, ?_, hinner,
      hnext⟩
    rw [code_generate, lines_strawberryFields, codeRows_append, codeRows_append, Line.block,
      codeRows_statement hbegins, codeRows_map_indentBy, hheader, hbody, hepilogue,
      List.cons_append, List.append_assoc]
    rfl

end Program

end OpticalBench
