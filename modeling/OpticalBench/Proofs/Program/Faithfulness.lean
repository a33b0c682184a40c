import OpticalBench.Proofs.Program.GateText

/-!
# Programs are faithful

The text of a program tells everything that went into it: no two different plans, numbers of modes or
numbers of shots have the same text.

- `firstPass?_cases`, `secondPass?_cases`: all that an operation can become.
- `Fits`: the items that the plan of a program can have; `fits_of_mem_plan` shows that it has no
  others.
- `front`: what the remark of an item says before it names a mode. `nodup_front` shows that it tells
  what kind of item this is, and that the measurements do not begin like an item.
- `item_inj`: an item is told by its rows, whatever follows them.
- `items_inj`: so are the items of a plan.
- `generate_eq_iff`: programs have the same text if and only if they have the same plan, number of
  modes and number of shots.
-/

namespace OpticalBench.Program

open Line

/-! ## The items of a plan -/

/-- The items that a program for a framework can have. -/
inductive Fits (f : Framework) : Item → Prop
  | unsupported {e : Element} {mode : Nat} (unsupported : e.supportedBy f = false) :
    Fits f (.unsupported e mode)
  | single {e : Element} {mode : Nat} {op : Operation} (supported : e.supportedBy f = true)
    (arity : e.arity = .single) (element : e ≠ .measure) (operation : op.element = e) :
    Fits f (.single e mode op.arguments)
  | dual {e : Element} {mode : Nat} {op : Operation} (supported : e.supportedBy f = true)
    (arity : e.arity = .dual) (operation : op.element = e) : Fits f (.dual e mode op.arguments)
  | dangling {e : Element} {mode : Nat} (supported : e.supportedBy f = true)
    (arity : e.arity = .dual) : Fits f (.dangling e mode)

variable {f : Framework} {c d : Circuit} {i j : Item}

/-- All that the first pass can make of an operation. -/
theorem firstPass?_cases {mode : Nat} {op : Operation}
    (h : Item.firstPass? f mode op = some i) :
    (op.element.supportedBy f = false ∧ i = .unsupported op.element mode) ∨
      (op.element.supportedBy f = true ∧ op.element.arity = .single ∧ op.element ≠ .measure ∧
        i = .single op.element mode op.arguments) := by
  rw [Item.firstPass?] at h
  by_cases hsupported : op.element.supportedBy f = true
  · rw [if_pos hsupported] at h
    obtain ⟨hskip, hitem⟩ := Option.ite_none_left_eq_some.1 h
    rw [Bool.or_eq_true, not_or, isMeasurement_iff, Bool.not_eq_true, isDual_eq_false_iff] at hskip
    exact .inr ⟨hsupported, hskip.2, hskip.1, (Option.some.inj hitem).symm⟩
  · rw [if_neg hsupported] at h
    exact .inl ⟨Bool.eq_false_iff.2 hsupported, (Option.some.inj h).symm⟩

/-- All that the second pass can make of an operation. -/
theorem secondPass?_cases {count mode : Nat} {op : Operation}
    (h : Item.secondPass? f count mode op = some i) :
    op.element.supportedBy f = true ∧ op.element.arity = .dual ∧
      ((mode + 1 < count ∧ i = .dual op.element mode op.arguments) ∨
        (¬ mode + 1 < count ∧ i = .dangling op.element mode)) := by
  rw [Item.secondPass?] at h
  obtain ⟨hhandled, h⟩ := Option.ite_none_right_eq_some.1 h
  rw [Bool.and_eq_true, isDual_iff] at hhandled
  refine ⟨hhandled.2, hhandled.1, ?_⟩
  by_cases hadjacent : mode + 1 < count
  · rw [if_pos hadjacent] at h
    exact .inl ⟨hadjacent, (Option.some.inj h).symm⟩
  · rw [if_neg hadjacent] at h
    exact .inr ⟨hadjacent, (Option.some.inj h).symm⟩

/-- The items of a plan are those that the passes make of the live operations. -/
theorem mem_plan : i ∈ Item.plan f c ↔ ∃ mode ∈ c.modeCount.modes, ∃ op ∈ c.onMode mode,
    Item.firstPass? f mode op = some i ∨ Item.secondPass? f c.modeCount.toNat mode op = some i := by
  simp only [Item.plan, List.mem_append, List.mem_flatMap, List.mem_filterMap]
  constructor
  · rintro (⟨mode, hmode, op, hop, h⟩ | ⟨mode, hmode, op, hop, h⟩)
    · exact ⟨mode, hmode, op, hop, .inl h⟩
    · exact ⟨mode, hmode, op, hop, .inr h⟩
  · rintro ⟨mode, hmode, op, hop, h | h⟩
    · exact .inl ⟨mode, hmode, op, hop, h⟩
    · exact .inr ⟨mode, hmode, op, hop, h⟩

/-- A plan has no other items. -/
theorem fits_of_mem_plan (h : i ∈ Item.plan f c) : Fits f i := by
  obtain ⟨mode, -, op, -, hfirst | hsecond⟩ := mem_plan.1 h
  · rcases firstPass?_cases hfirst with ⟨unsupported, rfl⟩ | ⟨supported, arity, element, rfl⟩
    · exact .unsupported unsupported
    · exact .single supported arity element rfl
  · obtain ⟨supported, arity, ⟨-, rfl⟩ | ⟨-, rfl⟩⟩ := secondPass?_cases hsecond
    · exact .dual supported arity rfl
    · exact .dangling supported arity

theorem length_arguments (op : Operation) :
    op.arguments.length = op.element.parameterKeys.length := List.length_map _

/-- An argument has no mark that a literal does not have. -/
theorem not_mem_arguments {op : Operation} {mark : Char} (hdigit : mark.isDigit = false)
    (hmark : mark ∉ Literal.marks) : ∀ a ∈ op.arguments, mark ∉ a.toList := by
  intro a ha
  obtain ⟨key, -, rfl⟩ := List.mem_map.1 ha
  exact Literal.not_mem_number hdigit hmark _

/-! ## Remarks -/

/-- What the remark of an item says before it names a mode. -/
def front (f : Framework) : Item → String
  | .unsupported e _ => e.label ++ " on mode "
  | .single e _ _ => singleRemark f e
  | .dual e _ _ => dualRemark e
  | .dangling e _ => e.label ++ " at mode "

/-- An item without its mode and its arguments. -/
def kind : Item → Item
  | .unsupported e _ => .unsupported e 0
  | .single e _ _ => .single e 0 []
  | .dual e _ _ => .dual e 0 []
  | .dangling e _ => .dangling e 0

/-- The kinds of items that a program for a framework can have. -/
def kinds (f : Framework) : List Item :=
  Element.all.flatMap fun e =>
    if e.supportedBy f then
      if e.isDual then [.dual e 0 [], .dangling e 0]
      else if e.isMeasurement then [] else [.single e 0 []]
    else [.unsupported e 0]

theorem kind_mem_kinds (h : Fits f i) : kind i ∈ kinds f := by
  have hall : ∀ e : Element, e ∈ Element.all := by
    intro e
    cases e <;> decide
  rw [kinds, List.mem_flatMap]
  cases h with
  | @unsupported e _ unsupported => exact ⟨e, hall e, by simp [unsupported, kind]⟩
  | @single e _ _ supported arity element =>
    exact ⟨e, hall e, by simp [supported, isDual_eq_false_iff.2 arity, element, kind,
      Element.isMeasurement]⟩
  | @dual e _ _ supported arity =>
    exact ⟨e, hall e, by simp [supported, isDual_iff.2 arity, kind]⟩
  | @dangling e _ supported arity =>
    exact ⟨e, hall e, by simp [supported, isDual_iff.2 arity, kind]⟩

/-- The remarks of items of different kinds differ before they name a mode, and none is the heading of
the measurements. -/
theorem nodup_front (f : Framework) : ("Measurements" :: (kinds f).map (front f)).Nodup := by
  cases f <;> decide +kernel

theorem front_kind (i : Item) : front f (kind i) = front f i := by
  cases i <;> rfl

theorem kind_eq_of_front_eq (hi : Fits f i) (hj : Fits f j) (h : front f i = front f j) :
    kind i = kind j := by
  have hnodup := (List.nodup_cons.1 (nodup_front f)).2
  refine List.inj_on_of_nodup_map hnodup (kind_mem_kinds hi) (kind_mem_kinds hj) ?_
  rw [front_kind, front_kind, h]

theorem front_ne_measurements (h : Fits f i) : front f i ≠ "Measurements" := by
  intro hfront
  have hmem := List.mem_map_of_mem (f := front f) (kind_mem_kinds h)
  rw [front_kind, hfront] at hmem
  exact (List.nodup_cons.1 (nodup_front f)).1 hmem

/-- A front has no digit and no line feed. -/
theorem of_mem_front (h : Fits f i) {mark : Char} (hmark : mark ∈ (front f i).toList) :
    mark.isDigit = false ∧ mark ≠ '\n' := by
  have hkinds : ((kinds f).all fun k => (front f k).toList.all fun mark =>
      !mark.isDigit && mark != '\n') = true := by
    cases f <;> decide +kernel
  rw [← front_kind] at hmark
  have hplain := List.all_eq_true.1 (List.all_eq_true.1 hkinds _ (kind_mem_kinds h)) mark hmark
  simpa using hplain

theorem noDigit_front (h : Fits f i) :
    (front f i).toList.all (fun mark => !mark.isDigit) = true := by
  rw [List.all_eq_true]
  intro mark hmark
  rw [(of_mem_front h hmark).1]
  rfl

theorem isRow_front (h : Fits f i) : IsRow (front f i) := fun hmem => (of_mem_front h hmem).2 rfl

/-- Every item begins with a remark, and the remark with its front, up to the first number. -/
theorem exists_remark (h : Fits f i) : ∃ remark tail, i.lines f = .comment remark :: tail ∧
    Text.beforeNumber remark = (front f i).toList := by
  have hfront := noDigit_front h
  cases h with
  | @unsupported e mode _ =>
    refine ⟨_, [], rfl, ?_⟩
    rw [String.append_assoc, String.append_assoc]
    exact Text.beforeNumber_append mode hfront
  | @dangling e mode _ _ =>
    exact ⟨_, [], rfl, Text.beforeNumber_append mode hfront⟩
  | @single e mode op supported arity element _ =>
    obtain ⟨text⟩ := exists_singleText supported arity element
    refine ⟨_, _, text.lines op.arguments mode, ?_⟩
    -- this remark names no mode, so all of it is front
    exact List.takeWhile_eq_self_iff.2 (Text.notDigit_of_all hfront)
  | @dual e mode op supported arity _ =>
    obtain ⟨text⟩ := exists_dualText supported arity
    refine ⟨_, _, text.lines op.arguments mode (mode + 1), ?_⟩
    rw [String.append_assoc, String.append_assoc]
    exact Text.beforeNumber_append mode hfront

/-! ## Rows -/

/-- The row of a line, some levels deeper. -/
def row (levels : Nat) (l : Line) : List Char := (l.indentBy levels).characters

variable {levels : Nat} {l m : Line} {X Y : List (List Char)}

theorem row_inj (hdepth : l.depth = m.depth) (h : row levels l = row levels m) : l = m := by
  have hdepths : (l.indentBy levels).depth = (m.indentBy levels).depth :=
    congrArg (· + levels) hdepth
  have hlines := Line.eq_of_characters_eq hdepths h
  cases l
  cases m
  cases hdepth
  exact congrArg _ (congrArg Line.text hlines)

theorem statement_inj {s t : String} (h : row levels (.statement s) = row levels (.statement t)) :
    s = t := by
  have hlines : Line.statement s = .statement t := row_inj rfl h
  exact congrArg Line.text hlines

theorem comment_inj {s t : String} (h : row levels (.comment s) = row levels (.comment t)) :
    s = t := (String.append_right_inj "# ").1 (statement_inj h)

/-- Arguments can be read back from a call. -/
theorem arguments_inj {e : Element} {pass : List String → List String} {function : String}
    (hpass : Passes e.parameterKeys.length pass) {a b : Operation} (ha : a.element = e)
    (hb : b.element = e)
    (h : call function (pass a.arguments) = call function (pass b.arguments)) :
    a.arguments = b.arguments := by
  refine hpass.inj ?_ ?_ (not_mem_arguments rfl (by decide)) (not_mem_arguments rfl (by decide)) h
  · rw [length_arguments, ha]
  · rw [length_arguments, hb]

/-- The first row of an item tells its kind. -/
theorem kind_eq_of_rows (hi : Fits f i) (hj : Fits f j)
    (h : (i.lines f).map (row levels) ++ X = (j.lines f).map (row levels) ++ Y) :
    kind i = kind j := by
  -- one front may be the beginning of another, so the remarks are cut at their first digits
  obtain ⟨remark, tail, hlines, hfront⟩ := exists_remark hi
  obtain ⟨remark', tail', hlines', hfront'⟩ := exists_remark hj
  rw [hlines, hlines', List.map_cons, List.map_cons, List.cons_append, List.cons_append] at h
  have hremark : remark = remark' := comment_inj (List.cons.inj h).1
  refine kind_eq_of_front_eq hi hj (String.toList_inj.1 ?_)
  rw [← hfront, ← hfront', hremark]

/-- An item is told by its rows, whatever follows them. -/
theorem item_inj (hi : Fits f i) (hj : Fits f j)
    (h : (i.lines f).map (row levels) ++ X = (j.lines f).map (row levels) ++ Y) :
    i = j ∧ X = Y := by
  -- both are of one kind, so they are written in one way and only modes and arguments are to be read
  have hkind := kind_eq_of_rows hi hj h
  cases hi with
  | @unsupported e m _ =>
    cases hj with
    | @unsupported e' n _ =>
      cases hkind
      obtain ⟨hrow, hrest⟩ := List.cons.inj h
      have hremark := comment_inj hrow
      rw [String.append_left_inj, String.append_left_inj, String.append_left_inj,
        String.append_right_inj] at hremark
      rw [Text.toString_inj hremark]
      exact ⟨rfl, hrest⟩
    | single => cases hkind
    | dual => cases hkind
    | dangling => cases hkind
  | @single e m op supported arity element operation =>
    cases hj with
    | @single e' n op' _ _ _ operation' =>
      cases hkind
      obtain ⟨text⟩ := exists_singleText supported arity element
      rw [Item.lines, Item.lines, text.lines, text.lines] at h
      obtain ⟨hstatement, hrest⟩ := List.cons.inj (List.cons.inj h).2
      obtain ⟨rfl, hcall⟩ := singleStatement_inj (statement_inj hstatement)
      rw [arguments_inj text.passes operation operation' hcall]
      exact ⟨rfl, hrest⟩
    | unsupported => cases hkind
    | dual => cases hkind
    | dangling => cases hkind
  | @dual e m op supported arity operation =>
    cases hj with
    | @dual e' n op' _ _ operation' =>
      cases hkind
      obtain ⟨text⟩ := exists_dualText supported arity
      rw [Item.lines, Item.lines, text.lines, text.lines] at h
      obtain ⟨hremark, hrows⟩ := List.cons.inj h
      have hmodes := comment_inj hremark
      simp only [String.append_assoc, String.append_right_inj] at hmodes
      obtain ⟨rfl, -⟩ := Text.toString_append_inj (by decide) hmodes
      obtain ⟨hstatement, hrest⟩ := List.cons.inj hrows
      have hcall := dualStatement_inj (statement_inj hstatement)
      rw [arguments_inj text.passes operation operation' hcall]
      exact ⟨rfl, hrest⟩
    | unsupported => cases hkind
    | single => cases hkind
    | dangling => cases hkind
  | @dangling e m _ _ =>
    cases hj with
    | @dangling e' n _ _ =>
      cases hkind
      obtain ⟨hrow, hrest⟩ := List.cons.inj h
      have hremark := comment_inj hrow
      rw [String.append_left_inj, String.append_right_inj] at hremark
      rw [Text.toString_inj hremark]
      exact ⟨rfl, hrest⟩
    | unsupported => cases hkind
    | single => cases hkind
    | dual => cases hkind

/-- The heading of the measurements is the first row of no item. -/
theorem item_ne_measurements (hi : Fits f i) :
    (i.lines f).map (row levels) ++ X ≠ row levels (.comment "Measurements") :: Y := by
  intro h
  obtain ⟨remark, tail, hlines, hfront⟩ := exists_remark hi
  rw [hlines, List.map_cons, List.cons_append] at h
  obtain rfl : remark = "Measurements" := comment_inj (List.cons.inj h).1
  refine front_ne_measurements hi (String.toList_inj.1 ?_)
  rw [← hfront]
  decide

/-- The items of a plan are told by their rows, if the measurements follow. -/
theorem items_inj {is js : List Item} (his : ∀ i ∈ is, Fits f i) (hjs : ∀ j ∈ js, Fits f j)
    (h : (is.flatMap (Item.lines f)).map (row levels) ++
        row levels (.comment "Measurements") :: X =
      (js.flatMap (Item.lines f)).map (row levels) ++
        row levels (.comment "Measurements") :: Y) :
    is = js ∧ X = Y := by
  -- each step takes one item off both sides; the heading of the measurements shows where they end
  induction is generalizing js with
  | nil =>
    cases js with
    | nil => exact ⟨rfl, (List.cons.inj h).2⟩
    | cons j js =>
      rw [List.flatMap_cons, List.map_append, List.append_assoc] at h
      exact absurd h.symm (item_ne_measurements (hjs j List.mem_cons_self))
  | cons i is ih =>
    rw [List.forall_mem_cons] at his
    cases js with
    | nil =>
      rw [List.flatMap_cons, List.map_append, List.append_assoc] at h
      exact absurd h (item_ne_measurements his.1)
    | cons j js =>
      rw [List.forall_mem_cons] at hjs
      rw [List.flatMap_cons, List.flatMap_cons, List.map_append, List.map_append,
        List.append_assoc, List.append_assoc] at h
      obtain ⟨rfl, hrest⟩ := item_inj his.1 hjs.1 h
      obtain ⟨rfl, hX⟩ := ih his.2 hjs.2 hrest
      exact ⟨rfl, hX⟩

/-! ## Lines without line feeds -/

theorem isRow_wire (mode : Nat) : IsRow (StrawberryFields.wire mode) := by
  simp only [StrawberryFields.wire, isRow_append, isRow_toString, and_true]
  decide

theorem isRow_singleStatement {remark called : String} (hcall : IsRow called) (mode : Nat) :
    IsRow (singleStatement f ⟨remark, called⟩ mode) := by
  cases f with
  | strawberryFields =>
    show IsRow (called ++ " | " ++ StrawberryFields.wire mode)
    simp only [isRow_append, isRow_wire, hcall, true_and, and_true]
    decide
  | perceval =>
    show IsRow ("circuit.add((" ++ toString mode ++ ",), " ++ called ++ ")")
    simp only [isRow_append, isRow_toString, hcall, and_true]
    decide

theorem isRow_dualStatement {remark called : String} (hcall : IsRow called) (mode next : Nat) :
    IsRow (dualStatement f ⟨remark, called⟩ mode next) := by
  cases f with
  | strawberryFields =>
    show IsRow (called ++ " | (" ++ StrawberryFields.wire mode ++ ", " ++
      StrawberryFields.wire next ++ ")")
    simp only [isRow_append, isRow_wire, hcall, true_and, and_true]
    decide
  | perceval =>
    show IsRow ("circuit.add((" ++ toString mode ++ ", " ++ toString next ++ "), " ++ called ++ ")")
    simp only [isRow_append, isRow_toString, hcall, and_true]
    decide

theorem areRows_item (h : Fits f i) : AreRows (i.lines f) := by
  have hfront := isRow_front h
  have harguments : ∀ op : Operation, ∀ a ∈ op.arguments, IsRow a :=
    fun op => not_mem_arguments rfl (by decide)
  cases h with
  | @unsupported e mode _ =>
    simp only [Item.lines, unsupported, areRows_cons, areRows_nil, text_comment, isRow_append,
      isRow_label, isRow_toString, isRow_displayName, true_and, and_true]
    decide
  | @dangling e mode _ _ =>
    simp only [Item.lines, dangling, areRows_cons, areRows_nil, text_comment, isRow_append,
      isRow_label, isRow_toString, true_and, and_true]
    decide
  | @single e mode op supported arity element _ =>
    obtain ⟨text⟩ := exists_singleText supported arity element
    have hcall := isRow_call text.isRow_function (text.passes.isRow (harguments op))
    have hsingle : IsRow (singleRemark f e) := hfront
    simp only [Item.lines, text.lines, areRows_cons, areRows_nil, text_comment, text_statement,
      isRow_append, isRow_singleStatement hcall, hsingle, and_true]
    decide
  | @dual e mode op supported arity _ =>
    obtain ⟨text⟩ := exists_dualText supported arity
    have hcall := isRow_call text.isRow_function (text.passes.isRow (harguments op))
    have hdual : IsRow (dualRemark e) := hfront
    simp only [Item.lines, text.lines, areRows_cons, areRows_nil, text_comment, text_statement,
      isRow_append, isRow_toString, isRow_dualStatement hcall, text.isRow_back, hdual, and_true]
    decide

theorem areRows_measurements (f : Framework) (count : ModeCount) :
    AreRows (measurements f count) := by
  rw [measurements, areRows_cons, text_comment]
  refine ⟨by decide, fun l hl => ?_⟩
  obtain ⟨mode, -, rfl⟩ := List.mem_map.1 hl
  cases f with
  | strawberryFields =>
    show IsRow ("MeasureFock() | " ++ StrawberryFields.wire mode)
    rw [isRow_append]
    exact ⟨by decide, isRow_wire mode⟩
  | perceval =>
    show IsRow ("detectors[" ++ toString mode ++ "] = pcvl.Detector.pnr()")
    simp only [isRow_append, isRow_toString, and_true]
    decide

/-- No line of a program has a line feed within. -/
theorem areRows_lines (c : Circuit) (f : Framework) (shots : Nat) :
    AreRows (lines c f shots) := by
  rw [lines, ofItems, areRows_append, areRows_append, body, areRows_map_indentBy, areRows_append]
  refine ⟨⟨areRows_preamble _ _ _, ?_, areRows_measurements _ _⟩, areRows_epilogue _ _ _⟩
  intro l hl
  obtain ⟨i, hi, hl⟩ := List.mem_flatMap.1 hl
  exact areRows_item (fits_of_mem_plan hi) l hl

/-! ## Programs -/

/-- Programs with the same rows have the same statements at the outermost level. -/
theorem statement_eq_of_rows {ls ms : List Line} {s t : String} {k : Nat}
    (h : ls.map characters = ms.map characters) (hls : ls[k]? = some (.statement s))
    (hms : ms[k]? = some (.statement t)) : s = t := by
  have hrow := congrArg (·[k]?) h
  simp only [List.getElem?_map, hls, hms, Option.map_some, Option.some.injEq] at hrow
  have hlines : Line.statement s = .statement t := Line.eq_of_characters_eq rfl hrow
  exact congrArg Line.text hlines

theorem length_preamble (f : Framework) (m n : Nat) (k l : Bool) :
    (preamble f m k).length = (preamble f n l).length := by
  cases f with
  | strawberryFields => cases k <;> cases l <;> rfl
  | perceval => rfl

/-- The preamble declares the number of modes. -/
theorem count_eq_of_preamble {m n : Nat} {k l : Bool}
    (h : (preamble f m k).map characters = (preamble f n l).map characters) : m = n := by
  -- the declaration stands before anything that depends on Kerr gates
  cases f with
  | strawberryFields =>
    have hdeclaration : "prog = sf.Program(" ++ toString m ++ ")" =
        "prog = sf.Program(" ++ toString n ++ ")" := statement_eq_of_rows (k := 7) h rfl rfl
    rw [String.append_left_inj, String.append_right_inj] at hdeclaration
    exact Text.toString_inj hdeclaration
  | perceval =>
    have hdeclaration : "circuit = pcvl.Circuit(" ++ toString m ++ ")" =
        "circuit = pcvl.Circuit(" ++ toString n ++ ")" := statement_eq_of_rows (k := 6) h rfl rfl
    rw [String.append_left_inj, String.append_right_inj] at hdeclaration
    exact Text.toString_inj hdeclaration

/-- The epilogue states the number of shots. -/
theorem shots_eq_of_epilogue {n s t : Nat}
    (h : (epilogue f n s).map characters = (epilogue f n t).map characters) : s = t := by
  have hshots : "shots = " ++ toString s = "shots = " ++ toString t := by
    cases f with
    | strawberryFields => exact statement_eq_of_rows (k := 23) h rfl rfl
    | perceval => exact statement_eq_of_rows (k := 30) h rfl rfl
  exact Text.toString_inj ((String.append_right_inj "shots = ").1 hshots)

/-- The rows of a program: preamble, items, measurements under their heading, epilogue. -/
theorem rows_lines (c : Circuit) (f : Framework) (shots : Nat) :
    (lines c f shots).map characters =
      (preamble f c.modeCount.toNat (hasKerr c)).map characters ++
        (((Item.plan f c).flatMap (Item.lines f)).map (row (bodyDepth f)) ++
          row (bodyDepth f) (.comment "Measurements") ::
            ((c.modeCount.modes.map (measurement f)).map (row (bodyDepth f)) ++
              (epilogue f c.modeCount.toNat shots).map characters)) := by
  have hbody : (body f c.modeCount (Item.plan f c)).map characters =
      ((Item.plan f c).flatMap (Item.lines f)).map (row (bodyDepth f)) ++
        row (bodyDepth f) (.comment "Measurements") ::
          (c.modeCount.modes.map (measurement f)).map (row (bodyDepth f)) := by
    rw [body, List.map_map, List.map_append, measurements, List.map_cons]
    rfl
  rw [lines, ofItems, List.map_append, List.map_append, hbody, List.append_assoc,
    List.append_assoc, List.cons_append]

/-- What went into a program can be read back from its text. -/
theorem generate_inj {s t : Nat} (h : generate c f s = generate d f t) :
    c.modeCount = d.modeCount ∧ Item.plan f c = Item.plan f d ∧ s = t := by
  have hrows := Line.map_characters_eq (areRows_lines c f s) (areRows_lines d f t) h
  rw [rows_lines, rows_lines] at hrows
  have hlength : ((preamble f c.modeCount.toNat (hasKerr c)).map characters).length =
      ((preamble f d.modeCount.toNat (hasKerr d)).map characters).length := by
    rw [List.length_map, List.length_map]
    exact length_preamble f _ _ _ _
  -- the preambles are as long, so they can be told from what follows
  obtain ⟨hpreamble, hrest⟩ := List.append_inj hrows hlength
  have hcount : c.modeCount = d.modeCount := ModeCount.ext (count_eq_of_preamble hpreamble)
  obtain ⟨hplan, hend⟩ := items_inj (fun i hi => fits_of_mem_plan hi)
    (fun j hj => fits_of_mem_plan hj) hrest
  -- as many modes are measured, so the measurements cancel and the epilogues are left
  rw [hcount] at hend
  exact ⟨hcount, hplan, shots_eq_of_epilogue (List.append_cancel_left hend)⟩

/-! ## The engine -/

/-- A Kerr gate takes part in a circuit if and only if the plan has one. -/
theorem hasKerr_iff : hasKerr c = true ↔
    ∃ mode arguments, .single .kerrGate mode arguments ∈ Item.plan .strawberryFields c := by
  rw [hasKerr, List.any_eq_true]
  constructor
  · rintro ⟨op, hop, hkerr⟩
    rw [beq_iff_eq] at hkerr
    obtain ⟨ops, hops, hmem⟩ := List.mem_flatten.1 hop
    obtain ⟨mode, hmode, rfl⟩ := List.mem_map.1 hops
    have hfirst : Item.firstPass? .strawberryFields mode op =
        some (.single .kerrGate mode op.arguments) := by
      rw [Item.firstPass?, hkerr]
      rfl
    exact ⟨mode, op.arguments, mem_plan.2 ⟨mode, hmode, op, hmem, .inl hfirst⟩⟩
  · rintro ⟨m, arguments, hitem⟩
    obtain ⟨mode, hmode, op, hop, hfirst | hsecond⟩ := mem_plan.1 hitem
    · rcases firstPass?_cases hfirst with ⟨-, hmade⟩ | ⟨-, -, -, hmade⟩
      · cases hmade
      · refine ⟨op, List.mem_flatten.2 ⟨c.onMode mode, List.mem_map_of_mem hmode, hop⟩, ?_⟩
        rw [beq_iff_eq]
        exact (Item.single.inj hmade).1.symm
    · obtain ⟨-, -, ⟨-, hmade⟩ | ⟨-, hmade⟩⟩ := secondPass?_cases hsecond
      · cases hmade
      · cases hmade

/-- The plan, the number of modes and the number of shots are all that a program depends on. -/
theorem generate_of_plan {s : Nat} (hcount : c.modeCount = d.modeCount)
    (hplan : Item.plan f c = Item.plan f d) : generate c f s = generate d f s := by
  rw [generate, generate, lines, lines, hcount, hplan]
  cases f with
  | strawberryFields =>
    have hkerr : hasKerr c = hasKerr d := by
      rw [Bool.eq_iff_iff, hasKerr_iff, hasKerr_iff, hplan]
    rw [hkerr]
  | perceval => rfl

/-- **Programs are faithful**: two of them have the same text if and only if they declare as many
modes, have the same plan and take as many shots. -/
theorem generate_eq_iff (f : Framework) (c d : Circuit) (s t : Nat) :
    generate c f s = generate d f t ↔
      c.modeCount = d.modeCount ∧ Item.plan f c = Item.plan f d ∧ s = t := by
  constructor
  · exact generate_inj
  · rintro ⟨hcount, hplan, rfl⟩
    exact generate_of_plan hcount hplan

end OpticalBench.Program
