/-!
# Lines of source

A generated program is a list of lines. A line knows how deep it is nested and its text; where it is
written out, each level is four spaces, and a line without text stays empty.

- `block`: a header and its body, one level deeper.
- `render`: the text of a list of lines, each ended by a line feed.
- `Draft`: lines in the making, with a current depth that can be raised and lowered.
-/

namespace OpticalBench

/-- A line of source. -/
structure Line where
  depth : Nat
  text : String
  deriving DecidableEq, Inhabited, Repr

namespace Line

/-- A statement at the outermost level. -/
def statement (text : String) : Line := ⟨0, text⟩

/-- A comment at the outermost level. -/
def comment (text : String) : Line := ⟨0, "# " ++ text⟩

/-- An empty line. -/
def blank : Line := ⟨0, ""⟩

/-- The line, some levels deeper. -/
def indentBy (levels : Nat) (l : Line) : Line := { l with depth := l.depth + levels }

/-- A header with its body one level deeper. -/
def block (header : String) (body : List Line) : List Line :=
  statement header :: body.map (indentBy 1)

/-- A line as it is written, without its line feed. -/
def characters (l : Line) : List Char :=
  if l.text.isEmpty then [] else List.replicate (4 * l.depth) ' ' ++ l.text.toList

/-- The text of lines, as characters. -/
def allCharacters (ls : List Line) : List Char := ls.flatMap fun l => l.characters ++ ['\n']

/-- The text of lines. -/
def render (ls : List Line) : String := String.ofList (allCharacters ls)

@[simp] theorem allCharacters_nil : allCharacters [] = [] := rfl

@[simp] theorem allCharacters_cons (l : Line) (ls : List Line) :
    allCharacters (l :: ls) = l.characters ++ '\n' :: allCharacters ls := by
  simp [allCharacters]

@[simp] theorem allCharacters_append (ls ms : List Line) :
    allCharacters (ls ++ ms) = allCharacters ls ++ allCharacters ms := by
  simp [allCharacters]

end Line

/-- Lines in the making. -/
structure Draft where
  depth : Nat
  lines : List Line
  deriving DecidableEq, Inhabited, Repr

namespace Draft

/-- A draft without lines, at the outermost level. -/
def empty : Draft := ⟨0, []⟩

/-- Write a line at the current depth. -/
def line (d : Draft) (text : String) : Draft := { d with lines := d.lines ++ [⟨d.depth, text⟩] }

/-- Write a comment at the current depth. -/
def comment (d : Draft) (text : String) : Draft := d.line ("# " ++ text)

/-- Write an empty line. -/
def blank (d : Draft) : Draft := { d with lines := d.lines ++ [.blank] }

/-- Go one level deeper. -/
def indent (d : Draft) : Draft := { d with depth := d.depth + 1 }

/-- Go one level back, if there is one. -/
def dedent (d : Draft) : Draft := { d with depth := d.depth - 1 }

/-- The text written so far. -/
def render (d : Draft) : String := Line.render d.lines

end Draft

end OpticalBench
