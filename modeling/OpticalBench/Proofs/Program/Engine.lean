import OpticalBench.Proofs.Circuit.Partition
import OpticalBench.Proofs.Program.SharedStatements

/-!
# The engine matches the gates

A program for Strawberry Fields creates its engine before it applies any gate, and a Kerr gate runs on
the Fock engine only. Both are seen in the text: the engine is created once, and it is the Fock engine
if and only if a row applies a Kerr gate.

- `engineRow`, `kerrStatement`: what creates the engine, and what applies a Kerr gate.
- `kerrGates`: the Kerr gates of a circuit, mode by mode; dormant ones are not among them.
- `marked_item`: what is found of them in the lines of an item.
- `rowsWith_engineMarks`: the rows that create an engine or apply a Kerr gate, in order.
- `EngineMatches`: what it means that the engine matches the gates.
- `generate_engineMatches`: it does in every program.
-/

namespace OpticalBench.Program

open Line
open Text (Lacks rowsWith)

/-! ## Engines and Kerr gates -/

/-- What creates an engine, and what applies a Kerr gate. -/
def engineMarks : List String := ["sf.Engine(", "Kgate("]

/-- The row that creates the engine. -/
def engineRow (fock : Bool) : String :=
  if fock then "eng = sf.Engine(\"fock\", backend_options=\x7b\"cutoff_dim\": 5\x7d)"
  else "eng = sf.Engine(\"gaussian\")"

/-- The statement that applies a Kerr gate, given by its mode and the literal of its strength. -/
def kerrStatement (g : Nat × String) : String := "Kgate(" ++ g.2 ++ ") | q[" ++ toString g.1 ++ "]"

/-- The Kerr gates of a circuit, mode by mode: the modes and the literals of their strengths. -/
def kerrGates (c : Circuit) : List (Nat × String) :=
  c.modeCount.modes.flatMap fun mode =>
    (having c .kerrGate mode).map fun op => (mode, literal op "kappa")

/-- What it means that a source has the engine that its gates need, with `c` as the circuit. -/
structure EngineMatches (c : Circuit) (source : String) : Prop where
  /-- An engine is created, then the Kerr gates are applied. No other row does either. -/
  rows : rowsWith engineMarks source = (engineRow !(kerrGates c).isEmpty).toList ::
    (kerrGates c).map fun g => ("    " ++ kerrStatement g).toList
  /-- No second engine is created, on the same row or on another. -/
  once : Text.occurrences "sf.Engine(".toList source.toList = 1
  fock : (engineRow true).toList ∈ Text.rows source ↔
    ∃ row ∈ Text.rows source, "Kgate(".toList <:+: row
  gaussian : (engineRow false).toList ∈ Text.rows source ↔
    ¬∃ row ∈ Text.rows source, "Kgate(".toList <:+: row
  /-- A Kerr gate is applied if there is one on a mode of the circuit, whatever is dormant. -/
  live : (∃ row ∈ Text.rows source, "Kgate(".toList <:+: row) ↔
    ∃ op ∈ c.operations, c.containsMode op.mode = true ∧ op.element = .kerrGate

/-! ## Kerr gates of a circuit -/

theorem mem_having {c : Circuit} {e : Element} {mode : Nat} {op : Operation} :
    op ∈ having c e mode ↔ (op ∈ c.operations ∧ op.mode.index = mode) ∧ op.element = e := by
  rw [having, List.mem_filter, Circuit.mem_onMode, beq_iff_eq]

/-- A Kerr gate takes part in a circuit if it is on one of its modes. -/
theorem hasKerr_iff_exists_live (c : Circuit) : hasKerr c = true ↔
    ∃ op ∈ c.operations, c.containsMode op.mode = true ∧ op.element = .kerrGate := by
  simp only [hasKerr, List.any_eq_true, Circuit.mem_flatten_byMode, beq_iff_eq, and_assoc]

theorem kerrGates_eq_nil_iff (c : Circuit) : kerrGates c = [] ↔ ¬hasKerr c = true := by
  rw [hasKerr_iff_exists_live, kerrGates, List.flatMap_eq_nil_iff]
  constructor
  · rintro hnone ⟨op, hop, hlive, hkerr⟩
    have hmode := List.map_eq_nil_iff.1
      (hnone op.mode.index (List.mem_range.2 (of_decide_eq_true hlive)))
    exact List.ne_nil_of_mem (mem_having.2 ⟨⟨hop, rfl⟩, hkerr⟩) hmode
  · intro hnone mode hmode
    rw [List.map_eq_nil_iff, List.eq_nil_iff_forall_not_mem]
    intro op hop
    obtain ⟨⟨hplaced, rfl⟩, hkerr⟩ := mem_having.1 hop
    exact hnone ⟨op, hplaced, decide_eq_true (List.mem_range.1 hmode), hkerr⟩

theorem isEmpty_kerrGates (c : Circuit) : (!(kerrGates c).isEmpty) = hasKerr c := by
  rw [Bool.not_eq_eq_eq_not, Bool.eq_iff_iff, List.isEmpty_iff, kerrGates_eq_nil_iff,
    Bool.not_eq_true', Bool.not_eq_true]

/-! ## Texts without either -/

/-- The marks, character by character. -/
def engineCharacters : List (List Char) :=
  [['s', 'f', '.', 'E', 'n', 'g', 'i', 'n', 'e', '('], ['K', 'g', 'a', 't', 'e', '(']]

theorem engineMarks_eq : engineMarks = engineCharacters.map String.ofList := rfl

theorem noDigits_engineMarks : Text.NoDigits engineMarks := by
  rw [engineMarks_eq]
  exact Text.noDigits_ofList (by decide)

theorem lacks_engineMarks {cs : List Char}
    (h : engineCharacters.all (fun p => Text.occurrences p cs == 0) = true) :
    Lacks engineMarks (String.ofList cs) := Text.lacks_ofList (by decide) h

theorem lacks_engineMarks_number {s t : String} {n : Nat} :
    Lacks engineMarks (s ++ toString n ++ t) ↔ Lacks engineMarks s ∧ Lacks engineMarks t :=
  Text.lacks_append_number_append noDigits_engineMarks n

/-- Characters without which there is neither. -/
def capitals : List Char := ['E', 'K']

theorem lacks_of_capitals {s : String} (h : Without capitals s) : Lacks engineMarks s :=
  lacks_of_without capitals (by decide) h

/-- One line of the preamble creates the engine, and the others do not. -/
theorem marked_preamble (count : Nat) (fock : Bool) :
    marked engineMarks (preamble .strawberryFields count fock) = [statement (engineRow fock)] := by
  have hsplit : preamble .strawberryFields count fock =
      (preamble .strawberryFields count fock).take 10 ++ statement (engineRow fock) ::
        (preamble .strawberryFields count fock).drop 11 := by
    cases fock <;> rfl
  have hbefore : AllLack engineMarks ((preamble .strawberryFields count fock).take 10) := by
    cases fock <;>
    · simp only [preamble, StrawberryFields.preamble, StrawberryFields.engine, if_true,
        Bool.false_eq_true, if_false, List.cons_append, List.nil_append, List.take_succ_cons,
        List.take_zero, allLack_cons, allLack_nil, text_statement, text_comment, text_blank,
        ← String.append_assoc, String.reduceAppend, lacks_engineMarks_number, and_true]
      and_intros <;> exact lacks_engineMarks (by decide)
  have hafter : AllLack engineMarks ((preamble .strawberryFields count fock).drop 11) := by
    cases fock <;>
    · simp only [preamble, StrawberryFields.preamble, StrawberryFields.engine, if_true,
        Bool.false_eq_true, if_false, List.cons_append, List.nil_append, List.drop_succ_cons,
        List.drop_zero, allLack_cons, allLack_nil, text_statement, text_comment, text_blank,
        String.reduceAppend, and_true]
      and_intros <;> exact lacks_engineMarks (by decide)
  have hcreates : Text.hasAny engineMarks (statement (engineRow fock)).text.toList = true := by
    cases fock <;> decide
  rw [hsplit, marked_append, marked_cons_of_has hcreates, marked_of_allLack hbefore,
    marked_of_allLack hafter, List.nil_append]

/-- The measurements have neither. -/
theorem allLack_engineMarks_measurements (count : ModeCount) :
    AllLack engineMarks (measurements .strawberryFields count) := by
  refine List.forall_mem_cons.2 ⟨lacks_of_capitals (by decide), List.forall_mem_map.2 fun mode _ => ?_⟩
  refine lacks_of_capitals ?_
  show Without _ ("MeasureFock() | " ++ ("q[" ++ toString mode ++ "]"))
  simp only [without_append, without_toString capitals (by decide) mode, and_true]
  and_intros <;> exact without_ofList (by decide)

/-- What stands after the operations has neither. -/
theorem allLack_engineMarks_epilogue (count shots : Nat) :
    AllLack engineMarks (epilogue .strawberryFields count shots) := by
  have hend := fun s n => Text.lacks_append_number (s := s) noDigits_engineMarks n
  have huniform : Lacks engineMarks ("probabilities = " ++ Literal.uniform count) :=
    lacks_of_capitals (without_append.2 ⟨without_ofList (by decide), without_uniform (by decide) count⟩)
  simp only [epilogue, StrawberryFields.epilogue, extraction, allLack_append, allLack_cons,
    allLack_block, allLack_nil, text_statement, text_comment, text_blank, ← String.append_assoc,
    String.reduceAppend, lacks_engineMarks_number, hend, huniform, and_true, true_and]
  and_intros <;> exact lacks_engineMarks (by decide)

/-! ## What is found in an item -/

/-- The Kerr gate of an item. -/
def kerr? : Item → Option (Nat × String)
  | .single .kerrGate mode [kappa] => some (mode, kappa)
  | _ => none

section

variable {e : Element} {g : Gate} {mode next : Nat} {op : Operation}

theorem arguments_kerrGate (h : op.element = .kerrGate) : op.arguments = [literal op "kappa"] := by
  rw [Operation.arguments, h]
  rfl

theorem without_arguments_capitals (op : Operation) : ∀ x ∈ op.arguments, Without capitals x :=
  without_arguments_of (by decide) op

/-- A gate on one mode that is no Kerr gate is written without capitals. -/
theorem without_single (he : e ≠ .kerrGate)
    (h : singleGate? .strawberryFields e op.arguments = some g) (mode : Nat) :
    Without capitals g.remark ∧ Without capitals (singleStatement .strawberryFields g mode) := by
  have hbrackets : ∀ s ∈ ["(", ")", ", ", "="], Without capitals s := by decide
  have hcall : Without capitals g.remark ∧ Without capitals g.call := by
    cases e with
    | laser =>
      obtain rfl := Option.some.inj h
      exact ⟨without_ofList (by decide),
        without_call_of_brackets hbrackets (by decide) (by decide)⟩
    | phaseShifter | squeezeGate | displacementGate =>
      obtain rfl := Option.some.inj h
      exact ⟨without_ofList (by decide), without_call_of_brackets hbrackets
        (without_ofList (by decide)) (without_arguments_capitals op)⟩
    | _ => contradiction
  refine ⟨hcall.1, ?_⟩
  show Without _ (g.call ++ " | " ++ ("q[" ++ toString mode ++ "]"))
  simp only [without_append, hcall.2, without_toString capitals (by decide) mode, and_true, true_and]
  and_intros <;> exact without_ofList (by decide)

/-- So is a gate on two modes. -/
theorem without_dual (h : dualGate? .strawberryFields e op.arguments mode next = some g) :
    Without capitals g.remark ∧ Without capitals (dualStatement .strawberryFields g mode next) := by
  have hbrackets : ∀ s ∈ ["(", ")", ", ", "="], Without capitals s := by decide
  have hnumber := without_toString capitals (by decide)
  cases e with
  | beamSplitter =>
    obtain rfl := Option.some.inj h
    have hcall : Without capitals (call "BSgate" op.arguments) :=
      without_call_of_brackets hbrackets (by decide) (without_arguments_capitals op)
    constructor
    · simp only [without_append, hnumber, and_true]
      and_intros <;> exact without_ofList (by decide)
    · show Without _ (call "BSgate" op.arguments ++ " | (" ++ ("q[" ++ toString mode ++ "]") ++ ", " ++
        ("q[" ++ toString next ++ "]") ++ ")")
      simp only [without_append, hcall, hnumber, and_true, true_and]
      and_intros <;> exact without_ofList (by decide)
  | _ => contradiction

theorem lacks_comment {s : String} (h : Without capitals s) : Lacks engineMarks (comment s).text :=
  lacks_of_capitals (without_append.2 ⟨without_ofList (by decide), h⟩)

theorem statement_kerr {kappa : String}
    (h : singleGate? .strawberryFields .kerrGate [kappa] = some g) :
    singleStatement .strawberryFields g mode = kerrStatement (mode, kappa) := by
  obtain rfl := Option.some.inj h
  rw [← String.toList_inj]
  show (call "Kgate" [kappa] ++ " | " ++ ("q[" ++ toString mode ++ "]")).toList =
    ("Kgate(" ++ kappa ++ ") | q[" ++ toString mode ++ "]").toList
  simp only [call, String.toList_append, String.toList_intercalate, List.map_cons, List.map_nil,
    List.intercalate_singleton, List.append_assoc]
  rfl

theorem hasAny_kerr (g : Nat × String) :
    Text.hasAny engineMarks (statement (kerrStatement g)).text.toList = true := by
  refine Text.hasAny_iff.2 ⟨"Kgate(", by decide, List.IsPrefix.isInfix ?_⟩
  show _ <+: ("Kgate(" ++ g.2 ++ ") | q[" ++ toString g.1 ++ "]").toList
  simp only [String.toList_append, List.append_assoc]
  exact List.prefix_append _ _

/-- Only a Kerr gate is found in the lines of an item, and it is found there. -/
theorem marked_item {i : Item} (h : Fits .strawberryFields i) :
    marked engineMarks (i.lines .strawberryFields) =
      ((kerr? i).map fun g => statement (kerrStatement g)).toList := by
  have hnumber := without_toString capitals (by decide)
  cases h with
  | @unsupported e mode unsupported =>
    refine marked_cons_of_lacks (lacks_comment ?_)
    simp only [without_append, hnumber, and_true]
    cases e <;> first | contradiction | (and_intros <;> exact without_ofList (by decide))
  | @single e mode op supported arity element operation =>
    obtain ⟨g, hg⟩ := exists_singleGate supported arity element op.arguments
    have hlines : Item.lines .strawberryFields (.single e mode op.arguments) =
        [comment g.remark, .statement (singleStatement .strawberryFields g mode)] := by
      simp only [Item.lines, single, hg]
    rw [hlines]
    by_cases he : e = .kerrGate
    · subst he
      rw [arguments_kerrGate operation] at hg ⊢
      have hremark : Lacks engineMarks (comment g.remark).text := by
        obtain rfl := Option.some.inj hg
        simp only [text_comment, String.reduceAppend]
        exact lacks_engineMarks (by decide)
      rw [statement_kerr hg, marked_cons_of_lacks hremark, marked_cons_of_has (hasAny_kerr _)]
      rfl
    · obtain ⟨hremark, hstatement⟩ := without_single he hg mode
      have hnone : kerr? (.single e mode op.arguments) = none := by
        cases e <;> first | rfl | contradiction
      rw [marked_cons_of_lacks (lacks_comment hremark), hnone]
      exact marked_cons_of_lacks (lacks_of_capitals hstatement)
  | @dual e mode op supported arity operation =>
    obtain ⟨g, hg⟩ := exists_dualGate supported arity op.arguments mode (mode + 1)
    obtain ⟨hremark, hstatement⟩ := without_dual hg
    have hlines : Item.lines .strawberryFields (.dual e mode op.arguments) =
        [comment g.remark, .statement (dualStatement .strawberryFields g mode (mode + 1))] := by
      simp only [Item.lines, dual, hg]
    rw [hlines, marked_cons_of_lacks (lacks_comment hremark)]
    exact marked_cons_of_lacks (lacks_of_capitals hstatement)
  | @dangling e mode supported arity =>
    refine marked_cons_of_lacks (lacks_comment ?_)
    simp only [without_append, hnumber, and_true]
    cases e <;> first | contradiction | (and_intros <;> exact without_ofList (by decide))

end

/-! ## What is found in a program -/

/-- The first pass has the Kerr gates. -/
theorem kerr?_firstPass (mode : Nat) (op : Operation) :
    (Item.firstPass? .strawberryFields mode op).bind kerr? =
      if op.element == .kerrGate then some (mode, literal op "kappa") else none := by
  by_cases he : op.element = .kerrGate
  · rw [if_pos (by simp [he]), Item.firstPass?, arguments_kerrGate he, he]
    rfl
  · rw [if_neg (by simp [he])]
    cases hitem : Item.firstPass? .strawberryFields mode op with
    | none => rfl
    | some i =>
      rcases firstPass?_cases hitem with ⟨-, rfl⟩ | ⟨-, -, -, rfl⟩
      · rfl
      · cases hop : op.element <;> first | rfl | contradiction

theorem kerr?_secondPass (count mode : Nat) (op : Operation) :
    (Item.secondPass? .strawberryFields count mode op).bind kerr? = none := by
  cases hitem : Item.secondPass? .strawberryFields count mode op with
  | none => rfl
  | some i => obtain ⟨-, -, ⟨-, rfl⟩ | ⟨-, rfl⟩⟩ := secondPass?_cases hitem <;> rfl

/-- The Kerr gates of a plan are those of the circuit. -/
theorem filterMap_kerr? (c : Circuit) :
    (Item.plan .strawberryFields c).filterMap kerr? = kerrGates c := by
  rw [Item.plan, List.filterMap_append, List.filterMap_flatMap, List.filterMap_flatMap]
  simp only [List.filterMap_filterMap, kerr?_secondPass, List.filterMap_none]
  have hnil : (c.modeCount.modes.flatMap fun _ => ([] : List (Nat × String))) = [] :=
    List.flatMap_eq_nil_iff.2 fun _ _ => rfl
  rw [hnil, List.append_nil, kerrGates]
  refine List.flatMap_congr fun mode _ => ?_
  rw [map_having]
  exact List.filterMap_congr fun op _ => kerr?_firstPass mode op

/-- A program creates the engine and then applies the Kerr gates. -/
theorem rowsWith_engineMarks (c : Circuit) (shots : Nat) :
    rowsWith engineMarks (generate c .strawberryFields shots) =
      (engineRow !(kerrGates c).isEmpty).toList ::
        (kerrGates c).map fun g => ("    " ++ kerrStatement g).toList := by
  have hengine : (statement (engineRow (hasKerr c))).characters = (engineRow (hasKerr c)).toList := by
    refine characters_eq_append ?_ 0
    cases hasKerr c <;> decide
  rw [rowsWith_parts (by decide), marked_preamble,
    marked_items fun i hi => marked_item (fits_of_mem_plan hi), filterMap_kerr?,
    marked_of_allLack (allLack_engineMarks_measurements _),
    marked_of_allLack (allLack_engineMarks_epilogue _ _), List.append_nil, List.map_nil,
    List.append_nil, List.map_map, isEmpty_kerrGates]
  refine congrArg₂ List.cons hengine (List.map_congr_left fun g _ => row_eq_margin fun hnil => ?_)
  have hkerr := hasAny_kerr g
  rw [text_statement, hnil] at hkerr
  exact absurd hkerr (by decide)

/-! ## The engine and the gates -/

section

variable {c : Circuit} {shots : Nat}

/-- A row of the engine applies no Kerr gate. -/
theorem not_infix_engineRow (fock : Bool) : ¬"Kgate(".toList <:+: (engineRow fock).toList := by
  cases fock <;> decide

theorem infix_kerrStatement (g : Nat × String) :
    "Kgate(".toList <:+: ("    " ++ kerrStatement g).toList := by
  refine ⟨"    ".toList, (g.2 ++ ") | q[" ++ toString g.1 ++ "]").toList, ?_⟩
  show _ = ("    " ++ ("Kgate(" ++ g.2 ++ ") | q[" ++ toString g.1 ++ "]")).toList
  simp only [String.toList_append, List.append_assoc]

/-- A row of a Kerr gate creates no engine. -/
theorem occurrences_kerrStatement {g : Nat × String} (hg : g ∈ kerrGates c) :
    Text.occurrences "sf.Engine(".toList ("    " ++ kerrStatement g).toList = 0 := by
  obtain ⟨mode, -, hg⟩ := List.mem_flatMap.1 hg
  obtain ⟨op, -, rfl⟩ := List.mem_map.1 hg
  refine (Text.occurrences_eq_zero_iff (by decide)).2 fun hoccurs => ?_
  have hkappa : 'E' ∉ (literal op "kappa").toList := Literal.not_mem_number rfl (by decide) _
  have hmode : 'E' ∉ (toString mode).toList := Text.not_mem_toString rfl mode
  have hmem : 'E' ∈ ("    " ++ kerrStatement (mode, literal op "kappa")).toList :=
    hoccurs.subset (by decide)
  simp only [kerrStatement, String.toList_append, List.mem_append, hkappa, hmode, or_false] at hmem
  revert hmem
  decide

/-- A row applies a Kerr gate just when the circuit has one on its modes. -/
theorem exists_kerr_row_iff :
    (∃ row ∈ Text.rows (generate c .strawberryFields shots), "Kgate(".toList <:+: row) ↔
      hasKerr c = true := by
  have hrows := rowsWith_engineMarks c shots
  rw [← isEmpty_kerrGates]
  constructor
  · rintro ⟨row, hrow, hkerr⟩
    have hfound : row ∈ rowsWith engineMarks (generate c .strawberryFields shots) :=
      List.mem_filter.2 ⟨hrow, Text.hasAny_iff.2 ⟨_, by decide, hkerr⟩⟩
    rw [hrows, List.mem_cons, List.mem_map] at hfound
    rcases hfound with rfl | ⟨g, hg, -⟩
    · exact absurd hkerr (not_infix_engineRow _)
    · simp [List.ne_nil_of_mem hg]
  · intro hsome
    obtain ⟨g, gates, hgates⟩ := List.exists_cons_of_ne_nil (l := kerrGates c) (by simpa using hsome)
    have hfound : ("    " ++ kerrStatement g).toList ∈
        rowsWith engineMarks (generate c .strawberryFields shots) := by
      rw [hrows, hgates]
      exact List.mem_cons_of_mem _ List.mem_cons_self
    exact ⟨_, (List.mem_filter.1 hfound).1, infix_kerrStatement g⟩

/-- The engine that is created is the one that the gates need. -/
theorem mem_rows_engineRow_iff (fock : Bool) :
    (engineRow fock).toList ∈ Text.rows (generate c .strawberryFields shots) ↔ fock = hasKerr c := by
  have hrows := rowsWith_engineMarks c shots
  rw [isEmpty_kerrGates] at hrows
  constructor
  · intro hrow
    have hcreates : Text.hasAny engineMarks (engineRow fock).toList = true := by
      cases fock <;> decide
    have hfound := List.mem_filter.2 ⟨hrow, hcreates⟩
    rw [← rowsWith, hrows, List.mem_cons, List.mem_map] at hfound
    rcases hfound with heq | ⟨g, -, hg⟩
    · have hinj : ∀ b b' : Bool, (engineRow b).toList = (engineRow b').toList → b = b' := by decide
      exact hinj _ _ heq
    · exact absurd (hg ▸ infix_kerrStatement g) (not_infix_engineRow fock)
  · rintro rfl
    refine (List.mem_filter.1 (?_ : _ ∈ rowsWith engineMarks _)).1
    rw [hrows]
    exact List.mem_cons_self

/-- **The engine matches the gates**: one engine is created, before any Kerr gate is applied; it is the
Fock engine with its cutoff if a Kerr gate is applied, and the Gaussian engine otherwise. -/
theorem generate_engineMatches (c : Circuit) (shots : Nat) :
    EngineMatches c (generate c .strawberryFields shots) where
  rows := rowsWith_engineMarks c shots
  once := by
    have hmark : "sf.Engine(" ∈ engineMarks := by decide
    have hne : "sf.Engine(".toList ≠ [] := by decide
    have honce : ∀ fock, Text.occurrences "sf.Engine(".toList (engineRow fock).toList = 1 := by decide
    have hnone : ((kerrGates c).map fun g =>
        Text.occurrences "sf.Engine(".toList ("    " ++ kerrStatement g).toList).sum = 0 :=
      List.sum_eq_zero (List.forall_mem_map.2 fun g hg => occurrences_kerrStatement hg)
    rw [occurrences_generate c _ shots hne (by decide),
      Text.sum_occurrences_rowsWith hmark hne,
      rowsWith_engineMarks, List.map_cons, List.sum_cons, honce, List.map_map]
    exact congrArg (1 + ·) hnone
  fock := by rw [mem_rows_engineRow_iff, exists_kerr_row_iff, eq_comm]
  gaussian := by rw [mem_rows_engineRow_iff, exists_kerr_row_iff, eq_comm, Bool.not_eq_true]
  live := exists_kerr_row_iff.trans (hasKerr_iff_exists_live c)

end

end OpticalBench.Program
