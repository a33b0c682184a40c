import OpticalBench.Yaml.Scalar

/-!
# Block scalars of YAML

A block scalar starts with `|` or `>` and goes on below it, as far as the lines are indented. After
`|` every line end counts; after `>` a line end between two lines that start with a word is a space.

- `BlockHeader.read?`: the marks behind the indicator, which say how deep the scalar is indented and
  what becomes of the line ends behind it.
- `block?`: a block scalar at a place.
-/

namespace OpticalBench.Yaml

/-! ## The header -/

/-- What becomes of the line ends behind a block scalar. -/
inductive Chomping
  | strip
  | clip
  | keep
  deriving DecidableEq, Inhabited, Repr

/-- What stands behind the indicator of a block scalar. -/
structure BlockHeader where
  chomping : Chomping
  /-- How much deeper than its surroundings the scalar is, if that is said. -/
  increment : Option Nat

namespace BlockHeader

/-- The chomping that a character stands for. -/
def chomping? : Char → Option Chomping
  | '+' => some .keep
  | '-' => some .strip
  | _ => none

/-- A digit, which is not zero, and what follows it. Without a digit nothing is said. -/
def increment? : List Char → Option (Option Nat × List Char)
  | c :: cs =>
    if c == '0' then none
    else if c.isDigit then some (some (c.toNat - 48), cs)
    else some (none, c :: cs)
  | [] => some (none, [])

/-- The header at the front of some characters, and how many characters it has. The two marks may
come in either order. -/
def read? (cs : List Char) : Option (BlockHeader × Nat) :=
  match cs.head?.bind chomping? with
  | some chomping => do
    let (increment, rest) ← increment? (cs.drop 1)
    some (⟨chomping, increment⟩, cs.length - rest.length)
  | none => do
    let (increment, rest) ← increment? cs
    match increment, rest.head?.bind chomping? with
    | some n, some chomping => some (⟨chomping, some n⟩, cs.length - rest.length + 1)
    | _, _ => some (⟨.clip, increment⟩, cs.length - rest.length)

end BlockHeader

/-- The rest of a line may only hold blanks and a comment; how many characters it has. -/
def lineRest? (cs : List Char) : Option Nat :=
  let blanks := cs.takeWhile isSpace
  let rest := cs.dropWhile isSpace
  match rest with
  | [] => some blanks.length
  | c :: _ =>
    if isBreak c then some blanks.length
    else if c == '#' then some (blanks.length + (rest.takeWhile fun d => !isBreak d).length)
    else none

/-! ## The lines -/

/-- The deepest column that is reached before the first line that is not empty, starting from `deepest`.
A tab there is an error. -/
def leadingColumn? (deepest column : Nat) : List Char → Option Nat
  | [] => some (max deepest column)
  | c :: rest =>
    if c == ' ' then leadingColumn? deepest (column + 1) rest
    else if c == '\t' then none
    else if isBreak c then leadingColumn? (max deepest column) 0 rest
    else some (max deepest column)

/-- How much of a block scalar has been read. -/
structure BlockState where
  /-- The text, last character first. -/
  text : List Char
  /-- The end of the last line, if it has not been decided what becomes of it. -/
  lineEnd : Option Char
  /-- The ends of the empty lines after it, last first. -/
  emptyEnds : List Char
  /-- Whether the last line starts with a blank. -/
  blankStart : Bool
  /-- Whether a line is being read. -/
  inLine : Bool

namespace BlockState

/-- Nothing has been read. -/
def start : BlockState := ⟨[], none, [], false, false⟩

/-- Start a line with a character. -/
def startLine (literal : Bool) (s : BlockState) (c : Char) : BlockState :=
  let folds := !literal && s.lineEnd == some '\n' && !s.blankStart && !isSpace c
  let joint := if folds then (if s.emptyEnds.isEmpty then [' '] else []) else s.lineEnd.toList
  ⟨c :: (s.emptyEnds ++ (joint ++ s.text)), none, [], isSpace c, true⟩

/-- The text, with what becomes of the line ends behind it. -/
def finish (s : BlockState) : Chomping → String
  | .strip => String.ofList s.text.reverse
  | .clip => String.ofList (s.lineEnd.toList ++ s.text).reverse
  | .keep => String.ofList (s.emptyEnds ++ (s.lineEnd.toList ++ s.text)).reverse

end BlockState

/-- Go on with a block scalar whose lines start at column `indent`. -/
def blockFrom (literal : Bool) (indent : Nat) (s : BlockState) (line column index : Nat) :
    List Char → Option (BlockState × Place)
  | [] => some (s, ⟨[], line, column, index⟩)
  | c :: rest =>
    if isBreak c then
      let s := if s.inLine then { s with lineEnd := some c, inLine := false }
        else { s with emptyEnds := c :: s.emptyEnds }
      blockFrom literal indent s (line + 1) 0 (index + 1) rest
    else if s.inLine then
      blockFrom literal indent { s with text := c :: s.text } line (column + 1) (index + 1) rest
    else if column < indent then
      if c == ' ' then blockFrom literal indent s line (column + 1) (index + 1) rest
      else if c == '\t' then none
      else some (s, ⟨c :: rest, line, column, index⟩)
    else blockFrom literal indent (s.startLine literal c) line (column + 1) (index + 1) rest

/-- The block scalar at a place, and the place after it. What surrounds it is indented by less than
`depth` columns. -/
def block? (literal : Bool) (depth : Nat) (p : Place) : Option (String × Place) := do
  let p := p.skip 1
  let (header, width) ← BlockHeader.read? p.rest
  let p := p.skip width
  let p := (p.skip (← lineRest? p.rest)).next
  let indent ← match header.increment with
    | some n => some (depth - 1 + n)
    | none => (leadingColumn? 0 p.column p.rest).map fun deepest => max (max deepest depth) 1
  let (s, p) ← blockFrom literal indent .start p.line p.column p.index p.rest
  some (s.finish header.chomping, p)

end OpticalBench.Yaml
