import OpticalBench.Proofs.Program.Measurement
import OpticalBench.Proofs.Text.Bracket

/-!
# Programs name only modes that they declare

Whatever mode an operation was placed on, a program refers only to modes that it declares. This is read
off its text: what stands behind a bracket that names modes, up to where it is closed.

- `IsModes`: the modes that a gate can bind among the first `count`.
- `closes_item`, `closes_measurement`, `closes_declaration`: the brackets of single lines.
- `closes_generate`: the brackets of a program, line by line.
- `generate_names_declared_modes`: what stands between the brackets of a program.
-/

namespace OpticalBench.Program

open Line
open Text (Between Closes closes_once closes_of_absent)

/-! ## The brackets of single lines -/

/-- The index of one of the first `count` modes. -/
def IsIndex (count : Nat) (cs : List Char) : Prop := ∃ mode < count, cs = (toString mode).toList

/-- One of the first `count` modes, or two of them side by side, as they are passed to a circuit. -/
def IsModes (count : Nat) (cs : List Char) : Prop :=
  (∃ mode < count, cs = (toString mode ++ ",").toList) ∨
    ∃ mode, mode + 1 < count ∧ cs = (toString mode ++ ", " ++ toString (mode + 1)).toList

/-- What the statements of gates have between their brackets. -/
def IsBinding : Framework → Nat → List Char → Prop
  | .strawberryFields => IsIndex
  | .perceval => IsModes

/-- What closes the bracket of a gate. -/
def closing : Framework → Char
  | .strawberryFields => ']'
  | .perceval => ')'

variable {f : Framework} {g : Gate} {count mode : Nat} {l : Line}

/-- An index stands between its square brackets, if there are no others. -/
theorem closes_index {word front tail : List Char} (hmode : mode < count) (hfront : '[' ∉ front)
    (htail : '[' ∉ tail) :
    Closes (word ++ ['[']) ']' (IsIndex count)
      (front ++ '[' :: ((toString mode).toList ++ ']' :: tail)) := by
  have hbracket := Text.not_mem_toString (c := '[') rfl mode
  have hclosing := Text.not_mem_toString (c := ']') rfl mode
  refine closes_once word [] hfront ?_ hclosing ⟨mode, hmode, rfl⟩
  rw [List.nil_append, List.mem_append, List.mem_cons]
  rintro (h | h | h)
  · exact hbracket h
  · exact absurd h (by decide)
  · exact htail h

theorem bracket_strawberryFields : (bracket .strawberryFields).toList = ['q'] ++ ['['] := by decide

/-- What a gate is added to stands between the brackets of the statement. -/
theorem closes_binding {modes called : String} {good : List Char → Prop} (hgood : good modes.toList)
    (hmodes : ∀ mark ∈ modes.toList, mark.isDigit = true ∨ mark ∈ [',', ' '])
    (hcall : 'u' ∉ called.toList) :
    Closes "circuit.add((".toList ')' good
      ("circuit.add((" ++ modes ++ "), " ++ called ++ ")").toList := by
  have hletter : 'u' ∉ modes.toList := fun h => (hmodes 'u' h).elim nofun (by decide)
  have hclosing : ')' ∉ modes.toList := fun h => (hmodes ')' h).elim nofun (by decide)
  have hsplit : ("circuit.add((" ++ modes ++ "), " ++ called ++ ")").toList =
      ['c', 'i', 'r', 'c'] ++ 'u' :: (['i', 't', '.', 'a', 'd', 'd', '(', '('] ++
        (modes.toList ++ ')' :: (", ".toList ++ (called.toList ++ ")".toList)))) := by
    simp only [String.toList_append, List.append_assoc]
    rfl
  have hopening : "circuit.add((".toList =
      ['c', 'i', 'r', 'c'] ++ 'u' :: ['i', 't', '.', 'a', 'd', 'd', '(', '('] := by
    decide
  rw [hsplit, hopening]
  refine closes_once _ _ (by decide) ?_ hclosing hgood
  simp only [List.mem_append, List.mem_cons, hletter, hcall, not_or, false_or]
  decide

theorem closes_singleStatement (hcall : IsCall f g.call) (hmode : mode < count) :
    Closes (bracket f).toList (closing f) (IsBinding f count) (singleStatement f g mode).toList := by
  cases f with
  | strawberryFields =>
    have hfront : '[' ∉ (g.call ++ " | q").toList := by
      rw [String.toList_append, List.mem_append, not_or]
      exact ⟨hcall.marks '[' (by decide), by decide⟩
    have hsplit : (singleStatement .strawberryFields g mode).toList =
        (g.call ++ " | q").toList ++ '[' :: ((toString mode).toList ++ ']' :: []) := by
      show (g.call ++ " | " ++ ("q[" ++ toString mode ++ "]")).toList = _
      simp only [String.toList_append, List.append_assoc]
      rfl
    rw [hsplit, bracket_strawberryFields]
    exact closes_index hmode hfront List.not_mem_nil
  | perceval =>
    have hsplit : singleStatement .perceval g mode =
        "circuit.add((" ++ (toString mode ++ ",") ++ "), " ++ g.call ++ ")" := by
      show "circuit.add((" ++ toString mode ++ ",), " ++ g.call ++ ")" = _
      rw [← String.toList_inj]
      simp only [String.toList_append, List.append_assoc]
      rfl
    rw [hsplit]
    refine closes_binding (.inl ⟨mode, hmode, rfl⟩) (fun mark hmark => ?_)
      (hcall.marks 'u' (by decide))
    rw [String.toList_append, List.mem_append] at hmark
    exact hmark.imp Text.isDigit_of_mem_toString fun h =>
      List.mem_cons.2 (.inl (List.mem_singleton.1 h))

theorem closes_dualStatement (hcall : IsCall f g.call) (hmode : mode + 1 < count) :
    Closes (bracket f).toList (closing f) (IsBinding f count)
      (dualStatement f g mode (mode + 1)).toList := by
  cases f with
  | strawberryFields =>
    have hfront : '[' ∉ (g.call ++ " | (q").toList := by
      rw [String.toList_append, List.mem_append, not_or]
      exact ⟨hcall.marks '[' (by decide), by decide⟩
    have hsplit : (dualStatement .strawberryFields g mode (mode + 1)).toList =
        ((g.call ++ " | (q").toList ++ '[' :: ((toString mode).toList ++ ']' :: [','])) ++
          ' ' :: (['q'] ++ '[' :: ((toString (mode + 1)).toList ++ ']' :: [')'])) := by
      show (g.call ++ " | (" ++ ("q[" ++ toString mode ++ "]") ++ ", " ++
        ("q[" ++ toString (mode + 1) ++ "]") ++ ")").toList = _
      simp only [String.toList_append, List.append_assoc, List.cons_append]
      rfl
    rw [hsplit, bracket_strawberryFields]
    -- the two brackets stand on either side of a blank
    exact .append_cons (by decide) (closes_index (Nat.lt_of_succ_lt hmode) hfront (by decide))
      (closes_index hmode (by decide) (by decide))
  | perceval =>
    have hsplit : dualStatement .perceval g mode (mode + 1) =
        "circuit.add((" ++ (toString mode ++ ", " ++ toString (mode + 1)) ++ "), " ++ g.call ++
          ")" := by
      show "circuit.add((" ++ toString mode ++ ", " ++ toString (mode + 1) ++ "), " ++ g.call ++
        ")" = _
      simp only [String.append_assoc]
    rw [hsplit]
    refine closes_binding (.inr ⟨mode, hmode, rfl⟩) (fun mark hmark => ?_)
      (hcall.marks 'u' (by decide))
    rw [String.toList_append, String.toList_append, List.mem_append, List.mem_append] at hmark
    rcases hmark with (h | h) | h
    · exact .inl (Text.isDigit_of_mem_toString h)
    · exact .inr h
    · exact .inl (Text.isDigit_of_mem_toString h)

/-- The brackets of an item. -/
theorem closes_item (h : Says f count l) :
    Closes (bracket f).toList (closing f) (IsBinding f count) l.text.toList := by
  cases h with
  | remark marks =>
    refine closes_of_absent (not_infix_of_without remarkMarks [] (by decide)
      (s := "# " ++ _) ?_ ?_ List.not_mem_nil)
    · exact without_append.2 ⟨without_ofList (by decide), marks⟩
    · cases f <;> decide
  | single call declared => exact closes_singleStatement call declared
  | dual call declared => exact closes_dualStatement call declared

/-- What names the mode of a measurement. -/
def measured : Framework → String
  | .strawberryFields => "q["
  | .perceval => "detectors["

/-- The brackets of a measurement. -/
theorem closes_measurement (hmode : mode < count) :
    Closes (measured f).toList ']' (IsIndex count) (measurement f mode).text.toList := by
  cases f with
  | strawberryFields =>
    have hsplit : (measurement .strawberryFields mode).text.toList =
        "MeasureFock() | q".toList ++ '[' :: ((toString mode).toList ++ ']' :: []) := by
      show ("MeasureFock() | " ++ ("q[" ++ toString mode ++ "]")).toList = _
      simp only [String.toList_append, List.append_assoc]
      rfl
    have hopening : (measured .strawberryFields).toList = ['q'] ++ ['['] := by decide
    rw [hsplit, hopening]
    exact closes_index hmode (by decide) List.not_mem_nil
  | perceval =>
    have hsplit : (measurement .perceval mode).text.toList = "detectors".toList ++
        '[' :: ((toString mode).toList ++ ']' :: " = pcvl.Detector.pnr()".toList) := by
      show ("detectors[" ++ toString mode ++ "] = pcvl.Detector.pnr()").toList = _
      simp only [String.toList_append, List.append_assoc]
      rfl
    have hopening : (measured .perceval).toList = "detectors".toList ++ ['['] := by decide
    rw [hsplit, hopening]
    exact closes_index hmode (by decide) (by decide)

/-- The brackets of a declaration. -/
theorem closes_declaration (f : Framework) (count : Nat) :
    Closes (declares f).toList ')' (· = (toString count).toList)
      (declaration f count).text.toList := by
  have hclosing := Text.not_mem_toString (c := ')') rfl count
  cases f with
  | strawberryFields =>
    have hletter := Text.not_mem_toString (c := 'P') rfl count
    have hsplit : (declaration .strawberryFields count).text.toList =
        "prog = sf.".toList ++ 'P' :: (['r', 'o', 'g', 'r', 'a', 'm', '('] ++
          ((toString count).toList ++ ')' :: [])) := by
      show ("prog = sf.Program(" ++ toString count ++ ")").toList = _
      simp only [String.toList_append, List.append_assoc]
      rfl
    have hopening : (declares .strawberryFields).toList =
        ['s', 'f', '.'] ++ 'P' :: ['r', 'o', 'g', 'r', 'a', 'm', '('] := by
      decide
    rw [hsplit, hopening]
    refine closes_once _ _ (by decide) ?_ hclosing rfl
    simp only [List.mem_append, hletter, not_or, false_or]
    decide
  | perceval =>
    have hletter := Text.not_mem_toString (c := 'C') rfl count
    have hsplit : (declaration .perceval count).text.toList =
        "circuit = pcvl.".toList ++ 'C' :: (['i', 'r', 'c', 'u', 'i', 't', '('] ++
          ((toString count).toList ++ ')' :: [])) := by
      show ("circuit = pcvl.Circuit(" ++ toString count ++ ")").toList = _
      simp only [String.toList_append, List.append_assoc]
      rfl
    have hopening : (declares .perceval).toList =
        ['p', 'c', 'v', 'l', '.'] ++ 'C' :: ['i', 'r', 'c', 'u', 'i', 't', '('] := by
      decide
    rw [hsplit, hopening]
    refine closes_once _ _ (by decide) ?_ hclosing rfl
    simp only [List.mem_append, hletter, not_or, false_or]
    decide

/-! ## The brackets of a program -/

/-- If every line closes its brackets, so does their text. -/
theorem closes_render {opening : String} {closing : Char} {good : List Char → Prop}
    (hopening : opening ∈ needles) {ls : List Line}
    (h : ∀ l ∈ ls, Closes opening.toList closing good l.text.toList) :
    Closes opening.toList closing good (render ls).toList := by
  obtain ⟨hne, hblank, hnewline⟩ := of_mem_needles hopening
  have hnil : Closes opening.toList closing good [] :=
    closes_of_absent (by rwa [List.infix_nil])
  rw [render, String.toList_ofList]
  induction ls with
  | nil => exact hnil
  | cons l ls ih =>
    obtain ⟨hl, hls⟩ := List.forall_mem_cons.1 h
    rw [allCharacters_cons]
    refine .append_cons hnewline ?_ (ih hls)
    rw [characters]
    by_cases hempty : l.text.isEmpty = true
    · rwa [if_pos hempty]
    · rw [if_neg hempty]
      refine hl.foreign_append (fun c hc => ?_) hne
      rw [List.eq_of_mem_replicate hc]
      exact hblank

variable {c : Circuit} {shots : Nat}

/-- The lines of a program, up to how deep they are: those without brackets, the declaration, the lines
of the operations and the measurements. -/
theorem mem_lines (hl : l ∈ lines c f shots) :
    Text.Lacks references l.text ∨ l.text = (declaration f c.modeCount.toNat).text ∨
      (∃ m, Says f c.modeCount.toNat m ∧ l.text = m.text) ∨
        ∃ mode < c.modeCount.toNat, l.text = (measurement f mode).text := by
  obtain ⟨before, after, hpreamble, hbefore, hafter⟩ :=
    exists_declaration f c.modeCount.toNat (hasKerr c)
  have hreferences : ∀ {s : String}, Text.Lacks needles s → Text.Lacks references s :=
    fun hs p hp => hs p (mem_needles hp)
  rw [lines, ofItems, hpreamble, List.mem_append, List.mem_append, List.mem_append,
    List.mem_cons] at hl
  rcases hl with ((hl | rfl | hl) | hl) | hl
  · exact .inl (hreferences (hbefore l hl))
  · exact .inr (.inl rfl)
  · exact .inl (hreferences (hafter l hl))
  · obtain ⟨m, hm, rfl⟩ := List.mem_map.1 hl
    rcases List.mem_append.1 hm with hm | hm
    · obtain ⟨i, hi, hm⟩ := List.mem_flatMap.1 hm
      exact .inr (.inr (.inl ⟨m, says_of_mem_plan hi hm, rfl⟩))
    · rcases List.mem_cons.1 hm with rfl | hm
      · exact .inl (hreferences lacks_heading)
      · obtain ⟨mode, hmode, rfl⟩ := List.mem_map.1 hm
        exact .inr (.inr (.inr ⟨mode, List.mem_range.1 hmode, rfl⟩))
  · exact .inl (allLack_epilogue f _ shots l hl)

/-- A program closes its brackets if its declaration, its operations and its measurements do. -/
theorem closes_generate {opening : String} {closing : Char} {good : List Char → Prop}
    (hopening : opening ∈ references)
    (hdeclaration : Closes opening.toList closing good (declaration f c.modeCount.toNat).text.toList)
    (hitem : ∀ l, Says f c.modeCount.toNat l → Closes opening.toList closing good l.text.toList)
    (hmeasurement : ∀ mode < c.modeCount.toNat,
      Closes opening.toList closing good (measurement f mode).text.toList) :
    Closes opening.toList closing good (generate c f shots).toList := by
  refine closes_render (mem_needles hopening) fun l hl => ?_
  rcases mem_lines hl with hlacks | hl | ⟨m, hm, hl⟩ | ⟨mode, hmode, hl⟩
  · exact closes_of_absent (hlacks opening hopening)
  · exact hl ▸ hdeclaration
  · exact hl ▸ hitem m hm
  · exact hl ▸ hmeasurement mode hmode

/-- An opening that stands in no line of a program needs no closing. -/
theorem closes_generate_of_ne {opening : String} {closing : Char} {good : List Char → Prop}
    (hopening : opening ∈ references) (hdeclares : opening ≠ declares f)
    (hbracket : opening ≠ bracket f) (hmeasuring : opening ∉ measuring f) :
    Closes opening.toList closing good (generate c f shots).toList :=
  closes_generate hopening
    (closes_of_absent (not_infix_declaration _ (mem_needles hopening) hdeclares))
    (fun _ h => closes_of_absent (h.absent (mem_needles hopening) hbracket))
    fun mode _ => closes_of_absent (not_infix_measurement mode (mem_needles hopening) hmeasuring)

/-- Wires are those of declared modes. -/
theorem closes_wires (c : Circuit) (f : Framework) (shots : Nat) :
    Closes "q[".toList ']' (IsIndex c.modeCount.toNat) (generate c f shots).toList := by
  cases f with
  | strawberryFields =>
    refine closes_generate (by decide) (closes_of_absent ?_) (fun l h => closes_item h)
      fun mode hmode => closes_measurement hmode
    exact not_infix_declaration _ (by decide) (by decide)
  | perceval => exact closes_generate_of_ne (by decide) (by decide) (by decide) (by decide)

/-- Detectors are on declared modes. -/
theorem closes_detectors (c : Circuit) (f : Framework) (shots : Nat) :
    Closes "detectors[".toList ']' (IsIndex c.modeCount.toNat) (generate c f shots).toList := by
  cases f with
  | strawberryFields => exact closes_generate_of_ne (by decide) (by decide) (by decide) (by decide)
  | perceval =>
    refine closes_generate (by decide) (closes_of_absent ?_) (fun l h => closes_of_absent ?_)
      fun mode hmode => closes_measurement hmode
    · exact not_infix_declaration _ (by decide) (by decide)
    · exact h.absent (by decide) (by decide)

/-- Components are added to declared modes. -/
theorem closes_components (c : Circuit) (f : Framework) (shots : Nat) :
    Closes "circuit.add((".toList ')' (IsModes c.modeCount.toNat) (generate c f shots).toList := by
  cases f with
  | strawberryFields => exact closes_generate_of_ne (by decide) (by decide) (by decide) (by decide)
  | perceval =>
    refine closes_generate (by decide) (closes_of_absent ?_) (fun l h => closes_item h)
      fun mode _ => closes_of_absent ?_
    · exact not_infix_declaration _ (by decide) (by decide)
    · exact not_infix_measurement mode (by decide) (by decide)

/-- As many modes are declared as the circuit has. -/
theorem closes_declares (c : Circuit) (f : Framework) (shots : Nat) :
    Closes (declares f).toList ')' (· = (toString c.modeCount.toNat).toList)
      (generate c f shots).toList := by
  have hmem : declares f ∈ references := by cases f <;> decide
  refine closes_generate hmem (closes_declaration f _)
    (fun l h => closes_of_absent (h.absent (mem_needles hmem) ?_))
    fun mode _ => closes_of_absent (not_infix_measurement mode (mem_needles hmem) ?_)
  · cases f <;> decide
  · cases f <;> decide

/-- The text of a line is part of the text of the lines. -/
theorem text_infix_render {ls : List Line} (hl : l ∈ ls) :
    l.text.toList <:+: (render ls).toList := by
  obtain ⟨before, after, rfl⟩ := List.append_of_mem hl
  have hrow : l.text.toList <:+ l.characters := by
    rw [characters]
    by_cases hempty : l.text.isEmpty = true
    · rw [String.isEmpty_iff.1 hempty]
      exact List.nil_suffix
    · rw [if_neg hempty]
      exact List.suffix_append _ _
  rw [render, String.toList_ofList, allCharacters_append, allCharacters_cons]
  exact hrow.isInfix.trans ((List.prefix_append _ _).isInfix.trans (List.suffix_append _ _).isInfix)

/-- The declaration is in the program. -/
theorem between_declares (c : Circuit) (f : Framework) (shots : Nat) :
    Between (declares f) ')' (generate c f shots) (toString c.modeCount.toNat) := by
  obtain ⟨before, after, hpreamble, -⟩ := exists_declaration f c.modeCount.toNat (hasKerr c)
  have hmem : declaration f c.modeCount.toNat ∈ lines c f shots := by
    rw [lines, ofItems, hpreamble]
    exact List.mem_append_left _ (List.mem_append_left _ (List.mem_append_right _ List.mem_cons_self))
  refine ⟨Text.not_mem_toString rfl _, List.IsInfix.trans ?_ (text_infix_render hmem)⟩
  refine List.IsSuffix.isInfix ?_
  cases f with
  | strawberryFields =>
    refine ⟨"prog = ".toList, ?_⟩
    show _ = ("prog = sf.Program(" ++ toString c.modeCount.toNat ++ ")").toList
    simp only [String.toList_append, List.append_assoc]
    rfl
  | perceval =>
    refine ⟨"circuit = ".toList, ?_⟩
    show _ = ("circuit = pcvl.Circuit(" ++ toString c.modeCount.toNat ++ ")").toList
    simp only [String.toList_append, List.append_assoc]
    rfl

/-- **Programs name only modes that they declare**, whatever modes the operations were placed on: as
many are declared as the circuit has, between one and eight, and what stands between the brackets that
name modes are indices below. -/
theorem generate_names_declared_modes (c : Circuit) (f : Framework) (shots : Nat) :
    let count := c.modeCount.toNat
    let source := generate c f shots
    1 ≤ count ∧ count ≤ 8 ∧
    (∀ declared, Between (declares f) ')' source declared ↔ declared = toString count) ∧
    (∀ index, Between "q[" ']' source index → ∃ mode < count, index = toString mode) ∧
    (∀ index, Between "detectors[" ']' source index → ∃ mode < count, index = toString mode) ∧
    ∀ modes, Between "circuit.add((" ')' source modes →
      (∃ mode < count, modes = toString mode ++ ",") ∨
        ∃ mode, mode + 1 < count ∧ modes = toString mode ++ ", " ++ toString (mode + 1) := by
  intro count source
  have hindex : ∀ {index : String}, IsIndex count index.toList →
      ∃ mode < count, index = toString mode := by
    rintro index ⟨mode, hmode, hindex⟩
    exact ⟨mode, hmode, String.toList_inj.1 hindex⟩
  refine ⟨c.modeCount.one_le, c.modeCount.le_eight, fun declared => ⟨fun h => ?_, ?_⟩,
    fun index h => hindex ((closes_wires c f shots).holds h),
    fun index h => hindex ((closes_detectors c f shots).holds h), fun modes h => ?_⟩
  · exact String.toList_inj.1 ((closes_declares c f shots).holds h)
  · rintro rfl
    exact between_declares c f shots
  · rcases (closes_components c f shots).holds h with ⟨mode, hmode, hmodes⟩ | ⟨mode, hmode, hmodes⟩
    · exact .inl ⟨mode, hmode, String.toList_inj.1 hmodes⟩
    · exact .inr ⟨mode, hmode, String.toList_inj.1 hmodes⟩

end OpticalBench.Program
