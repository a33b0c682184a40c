import OpticalBench.Text.Field

/-!
# Rows of a text

- `fields_append_cons`: a separator ends the first field.
- `rows`: the rows of a text, between its line feeds.
- `indentation`, `isCode`, `opensBlock`: what a reader of block-structured source sees of a row.
- `HasBlockStructure`: what makes the rows of a source well nested.
-/

namespace OpticalBench.Text

/-! ## Fields -/

variable {isSeparator : Char → Bool} {cs : List Char} {c : Char}

theorem fields_append_cons (hcs : ∀ d ∈ cs, isSeparator d = false) (hc : isSeparator c = true)
    (ds : List Char) : fields isSeparator (cs ++ c :: ds) = cs :: fields isSeparator ds := by
  induction cs with
  | nil => rw [List.nil_append, fields, if_pos hc]
  | cons d cs ih =>
    obtain ⟨hd, hcs⟩ := List.forall_mem_cons.1 hcs
    rw [List.cons_append, fields, if_neg (by simp [hd]), ih hcs]
    rfl

/-! ## Rows -/

/-- The rows of a text, between its line feeds. -/
def rows (s : String) : List (List Char) := fields (· == '\n') s.toList

/-- How many spaces a row begins with. -/
def indentation (row : List Char) : Nat := (row.takeWhile (· == ' ')).length

/-- Whether a row is neither blank nor a comment. -/
def isCode (row : List Char) : Bool := (row.dropWhile (· == ' ')).head?.any (· != '#')

/-- Whether a row ends in a colon. -/
def opensBlock (row : List Char) : Bool := row.getLast? == some ':'

/-- The rows of a source that are neither blank nor comments. -/
def code (s : String) : List (List Char) := (rows s).filter isCode

/-- What makes a source well nested: a block begins after a row that ends in a colon and nowhere else,
it is indented by one level of four spaces, and it is not empty. -/
structure HasBlockStructure (s : String) : Prop where
  /-- The text ends with a line feed. -/
  ended : s.toList.getLast? = some '\n'
  /-- The first row of code is at the outermost level. -/
  first : ∃ row rest, code s = row :: rest ∧ indentation row = 0
  /-- Every row of code is indented by whole levels. -/
  indented : ∀ row ∈ code s, 4 ∣ indentation row
  /-- After a row that ends in a colon there is another one, exactly one level deeper. -/
  opened : ∀ before row after, code s = before ++ row :: after → opensBlock row = true →
    ∃ next rest, after = next :: rest ∧ indentation next = indentation row + 4
  /-- A row is deeper than the one before it only after a colon. -/
  deeper : ∀ before row next after, code s = before ++ row :: next :: after →
    indentation row < indentation next → opensBlock row = true

end OpticalBench.Text
