import OpticalBench.Program.Generate
import OpticalBench.Proofs.Literal
import OpticalBench.Proofs.Text.Rows

/-!
# Programs row by row

The text of a program is cut at its line feeds. No line has one within its text, so the rows between
line feeds are the lines of the program, and programs with the same text have the same rows.

- `IsRow`, `AreRows`: texts and lines without a line feed.
- `Line.rows_render`: the rows of a text are its lines.
- `Line.map_characters_eq`: equal texts have equal rows.
- `Line.eq_of_characters_eq`: a row determines the line, if its depth is known.
- `areRows_preamble`, `areRows_epilogue`: what stands before and after the gates has no line feed within
  its lines.
-/

namespace OpticalBench

namespace Line

/-! ## Texts without a line feed -/

/-- A text that stays on one row. -/
def IsRow (s : String) : Prop := '\n' ∉ s.toList

instance (s : String) : Decidable (IsRow s) := inferInstanceAs (Decidable (¬ _))

@[simp] theorem isRow_append {s t : String} : IsRow (s ++ t) ↔ IsRow s ∧ IsRow t := by
  rw [IsRow, String.toList_append, List.mem_append, not_or]
  rfl

@[simp] theorem isRow_toString (n : Nat) : IsRow (toString n) := Text.not_mem_toString rfl n

/-- A literal is compared character by character. -/
theorem isRow_ofList {cs : List Char} (h : '\n' ∉ cs) : IsRow (String.ofList cs) := by
  rw [IsRow, String.toList_ofList]
  exact h

theorem isRow_number (x : Binary64) : IsRow (Literal.number x) :=
  Literal.not_mem_number rfl (by decide) x

theorem isRow_intercalate {separator : String} {parts : List String} (hseparator : IsRow separator)
    (hparts : ∀ s ∈ parts, IsRow s) : IsRow (separator.intercalate parts) := by
  rw [IsRow, String.toList_intercalate]
  intro hmem
  rcases Text.mem_intercalate hmem with h | ⟨part, hpart, h⟩
  · exact hseparator h
  · obtain ⟨s, hs, rfl⟩ := List.mem_map.1 hpart
    exact hparts s hs h

/-- Lines whose texts stay on one row. -/
def AreRows (ls : List Line) : Prop := ∀ l ∈ ls, IsRow l.text

section

variable {l : Line} {ls ms : List Line}

@[simp] theorem areRows_nil : AreRows [] := nofun

@[simp] theorem areRows_cons : AreRows (l :: ls) ↔ IsRow l.text ∧ AreRows ls :=
  List.forall_mem_cons

@[simp] theorem areRows_append : AreRows (ls ++ ms) ↔ AreRows ls ∧ AreRows ms :=
  List.forall_mem_append

@[simp] theorem areRows_map_indentBy {levels : Nat} :
    AreRows (ls.map (indentBy levels)) ↔ AreRows ls := List.forall_mem_map

@[simp] theorem areRows_block {header : String} :
    AreRows (block header ls) ↔ IsRow header ∧ AreRows ls := by
  rw [block, areRows_cons, areRows_map_indentBy]
  rfl

@[simp] theorem text_statement (s : String) : (statement s).text = s := rfl

@[simp] theorem text_comment (s : String) : (comment s).text = "# " ++ s := rfl

@[simp] theorem text_blank : blank.text = "" := rfl

end

/-! ## Rows of a text -/

variable {l m : Line}

theorem not_mem_characters (h : IsRow l.text) : '\n' ∉ l.characters := by
  rw [characters]
  by_cases hempty : l.text.isEmpty = true
  · rw [if_pos hempty]
    exact List.not_mem_nil
  · rw [if_neg hempty, List.mem_append, not_or]
    refine ⟨fun hmem => ?_, h⟩
    exact absurd (List.eq_of_mem_replicate hmem) (by decide)

/-- The rows of a text are its lines, and nothing follows the last line feed. -/
theorem rows_render {ls : List Line} (h : AreRows ls) :
    Text.rows (render ls) = ls.map characters ++ [[]] := by
  rw [Text.rows, render, String.toList_ofList]
  induction ls with
  | nil => rfl
  | cons l ls ih =>
    rw [areRows_cons] at h
    have hrow : ∀ c ∈ l.characters, (c == '\n') = false := by
      intro c hc
      rw [beq_eq_false_iff_ne]
      rintro rfl
      exact not_mem_characters h.1 hc
    rw [allCharacters_cons, Text.fields_append_cons hrow rfl, ih h.2]
    rfl

/-- A row determines the line, if its depth is known. -/
theorem eq_of_characters_eq (hdepth : l.depth = m.depth) (h : l.characters = m.characters) :
    l = m := by
  have hne : ∀ l : Line, ¬ l.text.isEmpty = true → l.characters ≠ [] := by
    intro l hl hnil
    rw [characters, if_neg hl] at hnil
    have htext : l.text.toList = [] := (List.append_eq_nil_iff.1 hnil).2
    exact hl (String.isEmpty_iff.2 (String.toList_eq_nil_iff.1 htext))
  have htext : l.text = m.text := by
    by_cases hl : l.text.isEmpty = true
    · by_cases hm : m.text.isEmpty = true
      · rw [String.isEmpty_iff.1 hl, String.isEmpty_iff.1 hm]
      · rw [characters, if_pos hl] at h
        exact absurd h.symm (hne m hm)
    · by_cases hm : m.text.isEmpty = true
      · rw [characters.eq_1 m, if_pos hm] at h
        exact absurd h (hne l hl)
      · rw [characters, characters, if_neg hl, if_neg hm, hdepth] at h
        exact String.toList_inj.1 (List.append_cancel_left h)
  cases l
  cases m
  cases hdepth
  cases htext
  rfl

/-- Equal texts have equal rows. -/
theorem map_characters_eq {ls ms : List Line} (hls : AreRows ls) (hms : AreRows ms)
    (h : render ls = render ms) : ls.map characters = ms.map characters := by
  have hcharacters : allCharacters ls = allCharacters ms := by
    have htext := congrArg String.toList h
    rwa [render, render, String.toList_ofList, String.toList_ofList] at htext
  clear h
  induction ls generalizing ms with
  | nil =>
    cases ms with
    | nil => rfl
    | cons m ms => simp at hcharacters
  | cons l ls ih =>
    cases ms with
    | nil => simp at hcharacters
    | cons m ms =>
      rw [areRows_cons] at hls hms
      rw [allCharacters_cons, allCharacters_cons] at hcharacters
      obtain ⟨hrow, hrest⟩ := Text.append_cons_inj (not_mem_characters hls.1)
        (not_mem_characters hms.1) hcharacters
      rw [List.map_cons, List.map_cons, hrow, ih hls.2 hms.2 hrest]

end Line

/-! ## The lines of a program -/

namespace Program

open Line

theorem areRows_preamble (f : Framework) (count : Nat) (kerr : Bool) :
    AreRows (preamble f count kerr) := by
  cases f with
  | strawberryFields =>
    cases kerr <;>
    · simp only [preamble, StrawberryFields.preamble, StrawberryFields.engine, if_true,
        Bool.false_eq_true, if_false, areRows_append, areRows_cons, areRows_nil, text_statement,
        text_comment, text_blank, isRow_append, isRow_toString, and_true]
      and_intros <;> exact isRow_ofList (by decide)
  | perceval =>
    simp only [preamble, Perceval.preamble, areRows_cons, areRows_nil, text_statement,
      text_comment, text_blank, isRow_append, isRow_toString, and_true]
    and_intros <;> exact isRow_ofList (by decide)

theorem isRow_uniform (count : Nat) : IsRow (Literal.uniform count) := by
  have hlabels : ∀ label ∈ Literal.outcomeLabels count, IsRow label := by
    intro label hlabel hmem
    obtain ⟨k, -, rfl⟩ := List.mem_map.1 hlabel
    rw [String.toList_ofList] at hmem
    rcases Literal.mem_binaryDigits hmem with h | h <;> exact absurd h (by decide)
  rw [Literal.uniform, isRow_append, isRow_append]
  refine ⟨⟨by decide, isRow_intercalate (by decide) ?_⟩, by decide⟩
  intro entry hentry
  obtain ⟨label, hlabel, rfl⟩ := List.mem_map.1 hentry
  rw [isRow_append, isRow_append, isRow_append]
  exact ⟨⟨⟨by decide, hlabels label hlabel⟩, by decide⟩, isRow_number _⟩

theorem areRows_extraction (count shots : Nat) : AreRows (extraction count shots) := by
  simp only [extraction, areRows_append, areRows_cons, areRows_nil, areRows_block, text_statement,
    text_comment, text_blank, isRow_append, isRow_toString, isRow_uniform, and_true]
  and_intros <;> exact isRow_ofList (by decide)

theorem areRows_epilogue (f : Framework) (count shots : Nat) :
    AreRows (epilogue f count shots) := by
  cases f with
  | strawberryFields =>
    simp only [epilogue, StrawberryFields.epilogue, areRows_append, areRows_cons, areRows_nil,
      areRows_block, text_statement, text_comment, text_blank, isRow_append, isRow_toString,
      areRows_extraction, and_true]
    and_intros <;> exact isRow_ofList (by decide)
  | perceval =>
    simp only [epilogue, Perceval.epilogue, areRows_append, areRows_cons, areRows_nil,
      areRows_block, text_statement, text_comment, text_blank, isRow_append, isRow_toString,
      areRows_extraction, and_true]
    and_intros <;> exact isRow_ofList (by decide)

theorem isRow_label (e : Element) : IsRow e.label := by
  cases e <;> exact isRow_ofList (by decide)

theorem isRow_displayName (f : Framework) : IsRow f.displayName := by
  cases f <;> decide

end Program

end OpticalBench
