import OpticalBench.Proofs.Program.BlockStructure

/-!
# Emitting a program

A program is a list of lines, each of which knows how deep it is nested. It can also be emitted: a draft
is told to write a line at the depth it has reached, or to go one level deeper or back. Going back from
the outermost level has no effect, so it matters that this never happens.

- `Draft.Call`, `Draft.run`: what a draft is told, and what becomes of it.
- `Draft.Emits`: calls that lead from one depth to another and write some rows. Every step back leaves a
  level.
- `Draft.script`: the calls for lines; `Draft.emits_script` shows that they write these lines.
- `Program.calls`: the calls for a program, in which operations and measurements are told no depth.
- `Program.run_calls`: they emit the program, and end at the outermost level without an idle step back.
-/

namespace OpticalBench

namespace Draft

open Line (characters)

/-- What a draft is told. -/
inductive Call
  | line (text : String)
  | comment (text : String)
  | blank
  | indent
  | dedent
  deriving DecidableEq, Inhabited, Repr

/-- Do as told. -/
def obey (d : Draft) : Call → Draft
  | .line text => d.line text
  | .comment text => d.comment text
  | .blank => d.blank
  | .indent => d.indent
  | .dedent => d.dedent

/-- Do as told, call by call. -/
def run (d : Draft) (calls : List Call) : Draft := calls.foldl obey d

/-! ## What calls write -/

/-- The calls lead from one depth to another and write some rows. The only way back is from a level to
the one around it. -/
inductive Emits : Nat → List Call → Nat → List (List Char) → Prop
  | nil {k : Nat} : Emits k [] k []
  | line {k m : Nat} {calls : List Call} {rows : List (List Char)} (text : String)
    (rest : Emits k calls m rows) : Emits k (.line text :: calls) m (characters ⟨k, text⟩ :: rows)
  | comment {k m : Nat} {calls : List Call} {rows : List (List Char)} (text : String)
    (rest : Emits k calls m rows) :
    Emits k (.comment text :: calls) m (characters ⟨k, "# " ++ text⟩ :: rows)
  | blank {k m : Nat} {calls : List Call} {rows : List (List Char)} (rest : Emits k calls m rows) :
    Emits k (.blank :: calls) m ([] :: rows)
  | indent {k m : Nat} {calls : List Call} {rows : List (List Char)}
    (rest : Emits (k + 1) calls m rows) : Emits k (.indent :: calls) m rows
  | dedent {k m : Nat} {calls : List Call} {rows : List (List Char)} (rest : Emits k calls m rows) :
    Emits (k + 1) (.dedent :: calls) m rows

namespace Emits

variable {k m n : Nat} {calls before after : List Call} {rows rows' : List (List Char)}

theorem append (h : Emits k before m rows) (hafter : Emits m after n rows') :
    Emits k (before ++ after) n (rows ++ rows') := by
  induction h with
  | nil => exact hafter
  | line text _ ih => exact .line text (ih hafter)
  | comment text _ ih => exact .comment text (ih hafter)
  | blank _ ih => exact .blank (ih hafter)
  | indent _ ih => exact .indent (ih hafter)
  | dedent _ ih => exact .dedent (ih hafter)

/-- Calls between a step into a level and the step back stay on the level where they began. -/
theorem wrap (h : Emits (k + n) calls (k + n) rows) :
    Emits k (List.replicate n .indent ++ calls ++ List.replicate n .dedent) k rows := by
  induction n generalizing calls with
  | zero => simpa using h
  | succ n ih =>
    -- the innermost level goes with the calls, so that one level less is left around them
    have hinner : Emits (k + n) (.indent :: calls ++ [.dedent]) (k + n) rows := by
      have hback : Emits (k + n + 1) [.dedent] (k + n) [] := .dedent .nil
      have hcalls := (indent (k := k + n) h).append hback
      rwa [List.append_nil] at hcalls
    have hcalls := ih hinner
    rw [List.replicate_succ', List.replicate_succ]
    simpa using hcalls

/-- A written line is the last row of a draft. -/
theorem rows_line (d : Draft) (text : String) :
    (d.line text).lines.map characters = d.lines.map characters ++ [characters ⟨d.depth, text⟩] :=
  List.map_append

/-- A draft that is told such calls gets where they lead, and has their rows. -/
theorem run (h : Emits k calls m rows) {d : Draft} (hd : d.depth = k) :
    (d.run calls).depth = m ∧
      (d.run calls).lines.map characters = d.lines.map characters ++ rows := by
  induction h generalizing d with
  | nil => exact ⟨hd, (List.append_nil _).symm⟩
  | line text _ ih =>
    obtain ⟨hdepth, hlines⟩ := ih (d := d.line text) hd
    refine ⟨hdepth, hlines.trans ?_⟩
    rw [rows_line, hd, List.append_assoc, List.singleton_append]
  | comment text _ ih =>
    obtain ⟨hdepth, hlines⟩ := ih (d := d.comment text) hd
    refine ⟨hdepth, hlines.trans ?_⟩
    rw [Draft.comment, rows_line, hd, List.append_assoc, List.singleton_append]
  | blank _ ih =>
    obtain ⟨hdepth, hlines⟩ := ih (d := d.blank) hd
    refine ⟨hdepth, hlines.trans ?_⟩
    rw [Draft.blank, List.map_append, List.append_assoc]
    rfl
  | indent _ ih => exact ih (d := d.indent) (congrArg (· + 1) hd)
  | dedent _ ih => exact ih (d := d.dedent) (congrArg (· - 1) hd)

/-- No step back is idle. -/
theorem depth_pos (h : Emits k (before ++ .dedent :: after) m rows) {d : Draft} (hd : d.depth = k) :
    0 < (d.run before).depth := by
  induction before generalizing k m rows d with
  | nil =>
    cases h with
    | dedent rest =>
      show 0 < d.depth
      omega
  | cons call before ih =>
    cases h with
    | line text rest => exact ih rest (d := d.line text) hd
    | comment text rest => exact ih rest (d := d.comment text) hd
    | blank rest => exact ih rest (d := d.blank) hd
    | indent rest => exact ih rest (d := d.indent) (congrArg (· + 1) hd)
    | dedent rest => exact ih rest (d := d.dedent) (congrArg (· - 1) hd)

end Emits

/-! ## Calls for lines -/

/-- The steps from one depth to another. -/
def steps (k m : Nat) : List Call :=
  List.replicate (m - k) .indent ++ List.replicate (k - m) .dedent

/-- The call for a line, at the depth where it is to stand. -/
def lineCall (l : Line) : Call := if l.text.isEmpty then .blank else .line l.text

/-- The calls for lines, from some depth on and back to the outermost level. -/
def script (k : Nat) : List Line → List Call
  | [] => steps k 0
  | l :: ls => steps k l.depth ++ lineCall l :: script l.depth ls

variable {k m : Nat} {calls : List Call} {rows : List (List Char)} {ls : List Line}

theorem emits_indents (k n : Nat) : Emits k (List.replicate n .indent) (k + n) [] := by
  induction n generalizing k with
  | zero => exact .nil
  | succ n ih =>
    have hcalls := ih (k + 1)
    rw [Nat.add_right_comm] at hcalls
    exact .indent hcalls

theorem emits_dedents (k n : Nat) : Emits (k + n) (List.replicate n .dedent) k [] := by
  induction n with
  | zero => exact .nil
  | succ n ih => exact .dedent ih

theorem emits_steps (k m : Nat) : Emits k (steps k m) m [] := by
  rw [steps]
  rcases Nat.le_total k m with h | h
  · have hcalls := emits_indents k (m - k)
    rw [Nat.add_sub_cancel' h] at hcalls
    rwa [Nat.sub_eq_zero_of_le h, List.replicate_zero, List.append_nil]
  · have hcalls := emits_dedents m (k - m)
    rw [Nat.add_sub_cancel' h] at hcalls
    rwa [Nat.sub_eq_zero_of_le h, List.replicate_zero, List.nil_append]

/-- A line is written at the depth that the draft has. -/
theorem emits_lineCall (l : Line) (rest : Emits k calls m rows) :
    Emits k (lineCall l :: calls) m (characters ⟨k, l.text⟩ :: rows) := by
  rw [lineCall]
  by_cases hempty : l.text.isEmpty = true
  · have hrow : characters ⟨k, l.text⟩ = [] := if_pos hempty
    rw [if_pos hempty, hrow]
    exact .blank rest
  · rw [if_neg hempty]
    exact .line l.text rest

/-- The calls for lines write these lines. -/
theorem emits_script (k : Nat) (ls : List Line) : Emits k (script k ls) 0 (ls.map characters) := by
  induction ls generalizing k with
  | nil => exact emits_steps k 0
  | cons l ls ih => exact (emits_steps k l.depth).append (emits_lineCall l (ih l.depth))

/-- A block is written between a step into it and a step back. -/
example : script 0 (Line.block "try:" [.statement "go()"] ++ [.blank]) =
    [.line "try:", .indent, .line "go()", .dedent, .blank] := by
  decide

/-- Lines of one level are written wherever the draft is. -/
theorem emits_map_lineCall (k : Nat) (h : ∀ l ∈ ls, l.depth = 0) :
    Emits k (ls.map lineCall) k ((ls.map (Line.indentBy k)).map characters) := by
  induction ls with
  | nil => exact .nil
  | cons l ls ih =>
    obtain ⟨hl, hls⟩ := List.forall_mem_cons.1 h
    have hline : l.indentBy k = ⟨k, l.text⟩ := by rw [Line.indentBy, hl, Nat.zero_add]
    rw [List.map_cons, List.map_cons, List.map_cons, hline]
    exact emits_lineCall l (ih hls)

end Draft

namespace Program

open Draft

variable {f : Framework} {c : Circuit}

/-- The calls for a program: operations and measurements are written as they come, between the steps into
their block and back. -/
def calls (c : Circuit) (f : Framework) (shots : Nat) : List Call :=
  script 0 (preamble f c.modeCount.toNat (hasKerr c)) ++
    (List.replicate (bodyDepth f) .indent ++
      ((Item.plan f c).flatMap (Item.lines f) ++ measurements f c.modeCount).map lineCall ++
      List.replicate (bodyDepth f) .dedent) ++
    script 0 (epilogue f c.modeCount.toNat shots)

/-- Operations and measurements hold no blocks. -/
theorem depth_of_mem_body {l : Line}
    (h : l ∈ (Item.plan f c).flatMap (Item.lines f) ++ measurements f c.modeCount) :
    l.depth = 0 := by
  rcases flat_body f c l h with ⟨s, rfl⟩ | ⟨s, -, rfl⟩
  · rfl
  · rfl

theorem emits_calls (c : Circuit) (f : Framework) (shots : Nat) :
    Emits 0 (calls c f shots) 0 ((lines c f shots).map Line.characters) := by
  have hbody := emits_map_lineCall (0 + bodyDepth f) fun l => depth_of_mem_body (f := f) (c := c)
  have hpreamble := emits_script 0 (preamble f c.modeCount.toNat (hasKerr c))
  have hcalls := (hpreamble.append hbody.wrap).append
    (emits_script 0 (epilogue f c.modeCount.toNat shots))
  rw [lines, ofItems, body, List.map_append, List.map_append]
  rwa [Nat.zero_add] at hcalls

/-- Only the rows of lines matter for their text. -/
theorem allCharacters_eq_flatMap_map (ls : List Line) :
    Line.allCharacters ls = (ls.map Line.characters).flatMap (· ++ ['\n']) := by
  rw [List.flatMap_map]
  rfl

/-- **A program can be emitted call by call.** The draft ends with its text and at the outermost level,
and whenever it is told to go a level back, there is one. -/
theorem run_calls (c : Circuit) (f : Framework) (shots : Nat) :
    (Draft.empty.run (calls c f shots)).render = generate c f shots ∧
      (Draft.empty.run (calls c f shots)).depth = 0 ∧
      ∀ before after, calls c f shots = before ++ .dedent :: after →
        0 < (Draft.empty.run before).depth := by
  have hcalls := emits_calls c f shots
  obtain ⟨hdepth, hlines⟩ := hcalls.run (d := .empty) rfl
  refine ⟨?_, hdepth, fun before after hsplit => ?_⟩
  · have hrows : (Draft.empty.run (calls c f shots)).lines.map Line.characters =
        (lines c f shots).map Line.characters := hlines
    rw [Draft.render, generate, Line.render, Line.render, allCharacters_eq_flatMap_map, hrows,
      ← allCharacters_eq_flatMap_map]
  · rw [hsplit] at hcalls
    exact hcalls.depth_pos rfl

end Program

end OpticalBench
