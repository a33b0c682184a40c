import OpticalBench.Proofs.Program.Measurement

/-!
# Rows with a landmark

A reader who looks for some kind of statement in a program looks for rows with a pattern: the call of a
gate, the beginning of an assignment. Where a row stands among others and how deep it is indented makes
no difference to him.

- `Text.hasAny`, `Text.rowsWith`: rows in which one of several patterns occurs.
- `Line.filter_characters`: which rows of a list of lines these are.
- `landmarks`: the beam splitters without a partner, the distribution that stands in for the result, and
  the shots.
- `exists_extraction`: the epilogue assigns the distribution once and the shots once.
- `rowsWith_parts`: rows of a program, part by part; `rowsWith_generate` for landmarks.
-/

namespace OpticalBench

namespace Text

/-- Whether one of several patterns occurs in a text. -/
def hasAny (patterns : List String) (cs : List Char) : Bool :=
  patterns.any fun p => decide (p.toList <:+: cs)

/-- The rows of a text in which one of several patterns occurs. -/
def rowsWith (patterns : List String) (s : String) : List (List Char) :=
  (rows s).filter (hasAny patterns)

variable {patterns : List String} {p s : String} {cs : List Char}

theorem hasAny_iff : hasAny patterns cs = true ↔ ∃ p ∈ patterns, p.toList <:+: cs := by
  simp only [hasAny, List.any_eq_true, decide_eq_true_eq]

theorem hasAny_of_lacks (h : Lacks patterns s) : hasAny patterns s.toList = false := by
  rw [Bool.eq_false_iff, Ne, hasAny_iff]
  rintro ⟨p, hp, hoccurs⟩
  exact h p hp hoccurs

theorem Lacks.mono {patterns' : List String} (h : Lacks patterns s) (hsub : patterns' ⊆ patterns) :
    Lacks patterns' s := fun p hp => h p (hsub hp)

theorem Lacks.single (h : Lacks patterns s) (hp : p ∈ patterns) : Lacks [p] s :=
  h.mono (List.cons_subset.2 ⟨hp, List.nil_subset _⟩)

/-- A pattern does not occur in the other rows. -/
theorem sum_occurrences_rowsWith (hp : p ∈ patterns) (hne : p.toList ≠ []) (s : String) :
    ((rows s).map (occurrences p.toList)).sum =
      ((rowsWith patterns s).map (occurrences p.toList)).sum := by
  rw [rowsWith]
  induction rows s with
  | nil => rfl
  | cons row rest ih =>
    by_cases h : hasAny patterns row = true
    · rw [List.filter_cons_of_pos h, List.map_cons, List.map_cons, List.sum_cons, List.sum_cons, ih]
    · have hzero : occurrences p.toList row = 0 :=
        (occurrences_eq_zero_iff hne).2 fun hoccurs => h (hasAny_iff.2 ⟨p, hp, hoccurs⟩)
      rw [List.filter_cons_of_neg h, List.map_cons, List.sum_cons, hzero, Nat.zero_add, ih]

end Text

namespace Line

open Text (hasAny Lacks)

/-- Patterns that do not begin with a blank. -/
def Solid (patterns : List String) : Prop :=
  ∀ p ∈ patterns, p.toList.head?.any (· != ' ') = true

instance (patterns : List String) : Decidable (Solid patterns) :=
  inferInstanceAs (Decidable (∀ _ ∈ _, _))

variable {patterns : List String} {levels : Nat} {l : Line} {ls ms : List Line}

/-- A pattern that does not begin with a blank occurs in a row if it occurs in the text of the line. -/
theorem hasAny_characters (hsolid : Solid patterns) (l : Line) :
    hasAny patterns l.characters = hasAny patterns l.text.toList := by
  have hiff : ∀ p ∈ patterns, p.toList <:+: l.characters ↔ p.toList <:+: l.text.toList := by
    intro p hp
    obtain ⟨c, hc, hblank⟩ := (Option.any_eq_true _ _).1 (hsolid p hp)
    obtain ⟨cs, hcs⟩ := List.head?_eq_some_iff.1 hc
    rw [characters]
    by_cases hempty : l.text.isEmpty = true
    · have htext : l.text.toList = [] :=
        String.toList_eq_nil_iff.2 (String.isEmpty_iff.1 hempty)
      rw [if_pos hempty, htext]
    · rw [if_neg hempty, hcs]
      refine Text.infix_append_of_not_mem fun hmem => ?_
      rw [List.eq_of_mem_replicate hmem] at hblank
      exact absurd hblank (by decide)
  rw [Bool.eq_iff_iff, Text.hasAny_iff, Text.hasAny_iff]
  exact exists_congr fun p => and_congr_right (hiff p)

/-- The lines in which one of several patterns occurs. -/
def marked (patterns : List String) (ls : List Line) : List Line :=
  ls.filter fun l => hasAny patterns l.text.toList

theorem marked_append :
    marked patterns (ls ++ ms) = marked patterns ls ++ marked patterns ms := List.filter_append ..

theorem marked_of_allLack (h : AllLack patterns ls) : marked patterns ls = [] := by
  refine List.filter_eq_nil_iff.2 fun l hl => ?_
  rw [Text.hasAny_of_lacks (h l hl)]
  exact Bool.false_ne_true

theorem marked_cons_of_has (h : hasAny patterns l.text.toList = true) :
    marked patterns (l :: ls) = l :: marked patterns ls := List.filter_cons_of_pos h

theorem marked_cons_of_lacks (h : Lacks patterns l.text) :
    marked patterns (l :: ls) = marked patterns ls := by
  refine List.filter_cons_of_neg ?_
  rw [Text.hasAny_of_lacks h]
  exact Bool.false_ne_true

theorem marked_map_indentBy :
    marked patterns (ls.map (indentBy levels)) = (marked patterns ls).map (indentBy levels) :=
  List.filter_map

/-- The rows with a pattern are those of the lines with a pattern. -/
theorem filter_characters (hsolid : Solid patterns) (ls : List Line) :
    (ls.map characters).filter (hasAny patterns) = (marked patterns ls).map characters := by
  rw [List.filter_map, marked]
  exact congrArg _ (List.filter_congr fun l _ => hasAny_characters hsolid l)

end Line

namespace Program

open Line
open Text (Lacks rowsWith lacks_ofList lacks_append_number_append NoDigits)

/-! ## Landmarks -/

/-- What the comment for a beam splitter without a partner says first. -/
def danglingMark : String := "# Beam Splitter at mode "

/-- What assigns the distribution that stands in for the result. -/
def fallbackMark : String := "probabilities = \x7b\""

/-- What assigns the shots. -/
def shotsMark : String := "shots = "

/-- The calls of the gates that every framework has. -/
def sharedCalls : Framework → List String
  | .strawberryFields => ["Rgate(", "BSgate("]
  | .perceval => ["pcvl.PS(", "pcvl.BS("]

/-- What else frameworks share is found by these. -/
def commonMarks : List String := [danglingMark, fallbackMark, shotsMark]

/-- What the parts of a program that frameworks share are found by. -/
def landmarks (f : Framework) : List String := sharedCalls f ++ commonMarks

/-- The landmarks, character by character. -/
def landmarkCharacters : Framework → List (List Char)
  | .strawberryFields => [['R', 'g', 'a', 't', 'e', '('], ['B', 'S', 'g', 'a', 't', 'e', '('],
      ['#', ' ', 'B', 'e', 'a', 'm', ' ', 'S', 'p', 'l', 'i', 't', 't', 'e', 'r', ' ', 'a', 't', ' ',
        'm', 'o', 'd', 'e', ' '],
      ['p', 'r', 'o', 'b', 'a', 'b', 'i', 'l', 'i', 't', 'i', 'e', 's', ' ', '=', ' ', '\x7b', '"'],
      ['s', 'h', 'o', 't', 's', ' ', '=', ' ']]
  | .perceval => [['p', 'c', 'v', 'l', '.', 'P', 'S', '('], ['p', 'c', 'v', 'l', '.', 'B', 'S', '('],
      ['#', ' ', 'B', 'e', 'a', 'm', ' ', 'S', 'p', 'l', 'i', 't', 't', 'e', 'r', ' ', 'a', 't', ' ',
        'm', 'o', 'd', 'e', ' '],
      ['p', 'r', 'o', 'b', 'a', 'b', 'i', 'l', 'i', 't', 'i', 'e', 's', ' ', '=', ' ', '\x7b', '"'],
      ['s', 'h', 'o', 't', 's', ' ', '=', ' ']]

theorem landmarks_eq (f : Framework) : landmarks f = (landmarkCharacters f).map String.ofList := by
  cases f <;> rfl

theorem solid_landmarks (f : Framework) : Solid (landmarks f) := by
  cases f <;> decide

theorem noDigits_landmarks (f : Framework) : NoDigits (landmarks f) := by
  rw [landmarks_eq]
  exact Text.noDigits_ofList (by cases f <;> decide)

theorem lacks_landmarks_number {f : Framework} {s t : String} {n : Nat} :
    Lacks (landmarks f) (s ++ toString n ++ t) ↔ Lacks (landmarks f) s ∧ Lacks (landmarks f) t :=
  lacks_append_number_append (noDigits_landmarks f) n

/-- A text that is written out is looked at character by character. -/
theorem lacks_landmarks {f : Framework} {cs : List Char}
    (h : (landmarkCharacters f).all (fun p => Text.occurrences p cs == 0) = true) :
    Lacks (landmarks f) (String.ofList cs) := by
  rw [landmarks_eq]
  exact lacks_ofList (by cases f <;> decide) h

/-- A pattern does not occur in a text without some of its characters. -/
theorem lacks_of_without (marks : List Char) {patterns : List String} {s : String}
    (hpatterns : patterns.all (fun p => p.toList.any marks.contains) = true)
    (h : Without marks s) : Lacks patterns s := by
  have hmap : (patterns.map String.toList).map String.ofList = patterns := by
    rw [List.map_map]
    exact List.map_id'' (fun _ => String.ofList_toList) _
  rw [← hmap]
  exact Text.lacks_of_marks _ marks (by rwa [List.all_map]) h

/-! ## What stands before the operations and after them -/

/-- The preamble has no landmark. -/
theorem allLack_preamble (f : Framework) (count : Nat) (kerr : Bool) :
    AllLack (landmarks f) (preamble f count kerr) := by
  cases f with
  | strawberryFields =>
    cases kerr <;>
    · simp only [preamble, StrawberryFields.preamble, StrawberryFields.engine, if_true,
        Bool.false_eq_true, if_false, allLack_append, allLack_cons, allLack_nil, text_statement,
        text_comment, text_blank, ← String.append_assoc, String.reduceAppend, lacks_landmarks_number,
        and_true]
      and_intros <;> exact lacks_landmarks (by decide)
  | perceval =>
    simp only [preamble, Perceval.preamble, allLack_cons, allLack_nil, text_statement, text_comment,
      text_blank, ← String.append_assoc, String.reduceAppend, lacks_landmarks_number, and_true]
    and_intros <;> exact lacks_landmarks (by decide)

/-- The line that assigns the distribution that stands in for the result. -/
def fallbackLine (count : Nat) : Line :=
  (statement ("probabilities = " ++ Literal.uniform count)).indentBy 1

/-- The line that assigns the shots. -/
def shotsLine (shots : Nat) : Line := statement ("shots = " ++ toString shots)

/-- The end of every program assigns both once, and has no other landmark. -/
theorem exists_extraction (f : Framework) (count shots : Nat) :
    ∃ before middle after, extraction count shots =
        before ++ fallbackLine count :: (middle ++ shotsLine shots :: after) ∧
      AllLack (landmarks f) before ∧ AllLack (landmarks f) middle ∧ AllLack (landmarks f) after := by
  -- the distribution is on the fourth line, the shots are on the eighth
  refine ⟨(extraction count shots).take 3, ((extraction count shots).drop 4).take 3,
    (extraction count shots).drop 8, rfl, ?_, ?_, ?_⟩
  · simp only [extraction, block, List.cons_append, List.map_cons, List.take_succ_cons,
      List.take_zero, allLack_cons, allLack_nil, text_comment, text_statement, indentBy,
      String.reduceAppend, and_true]
    and_intros <;> exact lacks_landmarks (by cases f <;> decide)
  · simp only [extraction, block, List.cons_append, List.map_cons, List.drop_succ_cons,
      List.drop_zero, List.map_nil, List.nil_append, List.take_succ_cons, List.take_zero,
      allLack_cons, allLack_nil, text_comment, text_statement, text_blank, indentBy,
      ← String.append_assoc, String.reduceAppend, lacks_landmarks_number, and_true]
    and_intros <;> exact lacks_landmarks (by cases f <;> decide)
  · simp only [extraction, block, List.cons_append, List.map_cons, List.drop_succ_cons,
      List.drop_zero, List.map_nil, List.nil_append, allLack_cons, allLack_nil, text_comment,
      text_statement, text_blank, indentBy, String.reduceAppend, lacks_landmarks_number, and_true]
    and_intros <;> exact lacks_landmarks (by cases f <;> decide)

/-- What stands before that has no landmark. -/
theorem exists_opening (f : Framework) (count shots : Nat) :
    ∃ opening, epilogue f count shots = opening ++ extraction count shots ∧
      AllLack (landmarks f) opening := by
  cases f with
  | strawberryFields =>
    refine ⟨_, rfl, ?_⟩
    simp only [allLack_append, allLack_cons, allLack_block, allLack_nil, text_statement,
      text_comment, text_blank, String.reduceAppend, lacks_landmarks_number, and_true]
    and_intros <;> exact lacks_landmarks (by decide)
  | perceval =>
    refine ⟨_, rfl, ?_⟩
    simp only [allLack_append, allLack_cons, allLack_block, allLack_nil, text_statement,
      text_comment, text_blank, String.reduceAppend, lacks_landmarks_number, and_true]
    and_intros <;> exact lacks_landmarks (by decide)

/-! ## Rows of a program -/

section

variable {f : Framework} {count shots : Nat} {patterns : List String}

/-- The first outcome stands behind the bracket of the distribution. -/
theorem hasAny_fallbackLine (count : Nat) :
    Text.hasAny [fallbackMark] (fallbackLine count).text.toList = true := by
  refine Text.hasAny_iff.2 ⟨fallbackMark, List.mem_singleton_self _, List.IsPrefix.isInfix ?_⟩
  obtain ⟨label, labels, hlabels⟩ : ∃ label labels, Literal.outcomeLabels count = label :: labels :=
    List.exists_cons_of_ne_nil (by simp [Literal.outcomeLabels])
  obtain ⟨rest, hrest⟩ : ∃ rest, (Literal.uniform count).toList = '\x7b' :: '"' :: rest := by
    rw [Literal.uniform, hlabels, List.map_cons, String.toList_append, String.toList_append,
      String.toList_intercalate, List.map_cons, String.toList_append, String.toList_append,
      String.toList_append]
    cases labels with
    | nil => exact ⟨_, rfl⟩
    | cons next labels =>
      rw [List.map_cons, List.map_cons, List.intercalate_cons_cons]
      exact ⟨_, rfl⟩
  have hline : (fallbackLine count).text.toList = fallbackMark.toList ++ rest := by
    show ("probabilities = " ++ Literal.uniform count).toList = _
    rw [String.toList_append, hrest]
    rfl
  rw [hline]
  exact List.prefix_append _ _

theorem hasAny_shotsLine (shots : Nat) :
    Text.hasAny [shotsMark] (shotsLine shots).text.toList = true := by
  refine Text.hasAny_iff.2 ⟨shotsMark, List.mem_singleton_self _, List.IsPrefix.isInfix ?_⟩
  show _ <+: ("shots = " ++ toString shots).toList
  rw [String.toList_append]
  exact List.prefix_append _ _

/-- The distribution is made of digits and of the marks of numbers and of entries. -/
theorem without_uniform {marks : List Char} (habsent : ∀ mark ∈ marks, mark.isDigit = false ∧
    mark ∉ Literal.marks ∧ mark ∉ Literal.entryMarks) (count : Nat) :
    Without marks (Literal.uniform count) := by
  intro mark hmark
  obtain ⟨hdigit, hliteral, hentry⟩ := habsent mark hmark
  exact Literal.not_mem_uniform hdigit hliteral hentry count

/-- The distribution has no other landmark. -/
theorem lacks_fallbackLine (f : Framework) (count : Nat) :
    Lacks (sharedCalls f ++ [danglingMark, shotsMark]) (fallbackLine count).text := by
  refine lacks_of_without ['R', 'B', 'v', '#', 'h'] (by cases f <;> decide) ?_
  show Without _ ("probabilities = " ++ Literal.uniform count)
  exact without_append.2 ⟨without_ofList (by decide), without_uniform (by decide) count⟩

/-- The shots have no other landmark. -/
theorem lacks_shotsLine (f : Framework) (shots : Nat) :
    Lacks (sharedCalls f ++ [danglingMark, fallbackMark]) (shotsLine shots).text := by
  have hdigits : NoDigits (sharedCalls f ++ [danglingMark, fallbackMark]) := by
    refine fun p hp => noDigits_landmarks f p ?_
    revert p
    cases f <;> decide
  have hfixed : ∀ p ∈ sharedCalls f ++ [danglingMark, fallbackMark],
      ¬ p.toList <:+: "shots = ".toList := by
    cases f <;> decide
  exact (Text.lacks_append_number hdigits shots).2 hfixed

/-- The measurements have no landmark. -/
theorem allLack_measurements (f : Framework) (count : ModeCount) :
    AllLack (landmarks f) (measurements f count) := by
  refine List.forall_mem_cons.2 ⟨?_, List.forall_mem_map.2 fun mode _ => ?_⟩
  · simp only [text_comment, String.reduceAppend]
    exact lacks_landmarks (by cases f <;> decide)
  · cases f with
    | strawberryFields =>
      show Lacks _ ("MeasureFock() | " ++ ("q[" ++ toString mode ++ "]"))
      simp only [← String.append_assoc, String.reduceAppend, lacks_landmarks_number]
      and_intros <;> exact lacks_landmarks (by decide)
    | perceval =>
      show Lacks _ ("detectors[" ++ toString mode ++ "] = pcvl.Detector.pnr()")
      rw [lacks_landmarks_number]
      and_intros <;> exact lacks_landmarks (by decide)

/-- The rows with a pattern, part by part. -/
theorem rowsWith_parts (hsolid : Solid patterns) (c : Circuit) (shots : Nat) :
    rowsWith patterns (generate c f shots) =
      (marked patterns (preamble f c.modeCount.toNat (hasKerr c))).map characters ++
        (marked patterns ((Item.plan f c).flatMap (Item.lines f)) ++
          marked patterns (measurements f c.modeCount)).map (Program.row (bodyDepth f)) ++
        (marked patterns (epilogue f c.modeCount.toNat shots)).map characters := by
  have hend : Text.hasAny patterns [] = false := by
    refine Text.hasAny_of_lacks (s := "") fun p hp hoccurs => ?_
    have hfirst := hsolid p hp
    rw [List.infix_nil.1 hoccurs] at hfirst
    exact nomatch hfirst
  rw [rowsWith, generate, rows_render (areRows_lines c f shots), List.filter_append,
    filter_characters hsolid, lines, ofItems, marked_append, marked_append, body,
    marked_map_indentBy, marked_append, List.filter_cons_of_neg (by simp [hend]), List.filter_nil,
    List.append_nil, List.map_append, List.map_append, List.map_map]
  rfl

/-- The rows with a landmark are those of the operations, of the distribution and of the shots. -/
theorem rowsWith_generate (hsub : patterns ⊆ landmarks f) (c : Circuit) (shots : Nat) :
    rowsWith patterns (generate c f shots) =
      (marked patterns ((Item.plan f c).flatMap (Item.lines f))).map (Program.row (bodyDepth f)) ++
        (marked patterns [fallbackLine c.modeCount.toNat, shotsLine shots]).map characters := by
  have hnone : ∀ {ls : List Line}, AllLack (landmarks f) ls → marked patterns ls = [] :=
    fun h => marked_of_allLack fun l hl => (h l hl).mono hsub
  obtain ⟨opening, hepilogue, hopening⟩ := exists_opening f c.modeCount.toNat shots
  obtain ⟨before, middle, after, hextraction, hbefore, hmiddle, hafter⟩ :=
    exists_extraction f c.modeCount.toNat shots
  have hassigned : marked patterns (epilogue f c.modeCount.toNat shots) =
      marked patterns [fallbackLine c.modeCount.toNat, shotsLine shots] := by
    rw [hepilogue, hextraction, marked_append, marked_append, ← List.singleton_append,
      marked_append, marked_append, ← List.singleton_append (l := after), marked_append,
      hnone hopening, hnone hbefore, hnone hmiddle, hnone hafter, List.nil_append, List.nil_append,
      List.nil_append, List.append_nil, ← marked_append]
    rfl
  rw [rowsWith_parts fun p hp => solid_landmarks f p (hsub hp), hnone (allLack_preamble f _ _),
    hnone (allLack_measurements f _), hassigned, List.map_nil, List.nil_append, List.append_nil]

end

end Program

end OpticalBench
