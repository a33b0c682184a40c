import OpticalBench.Json.Token
import OpticalBench.Text.Field

/-!
# Tables of characters

A table says something about characters, which are given by their numbers. It is written in lines of
words. A word starts with a hexadecimal number `61`, a range `61-7a`, or a range `100=12e` of which only
every second character is meant, and may go on with a colon and numbers between points: `132:69.6a`.

- `CodeTable.ofLines`: the table that lines say.
- `CodeTable.find?`: what a table says about a character.
-/

namespace OpticalBench.Text

/-- What a table says about some characters. -/
structure CodeEntry where
  first : Nat
  last : Nat
  /-- The distance between neighbours that are meant. -/
  stride : Nat
  values : List Nat
  deriving DecidableEq, Inhabited, Repr

/-- Whether a character is meant. -/
def CodeEntry.includes (e : CodeEntry) (c : Char) : Bool :=
  decide (e.first ≤ c.toNat) && decide (c.toNat ≤ e.last) && (c.toNat - e.first) % e.stride == 0

/-- Entries about characters. -/
structure CodeTable where
  entries : List CodeEntry
  deriving DecidableEq, Inhabited, Repr

namespace CodeTable

/-- A hexadecimal number. Anything else counts as zero. -/
def number (cs : List Char) : Nat := (Json.hexNumber? cs).getD 0

/-- The entry for the characters that are named in front of a colon. -/
def entryOf (characters : List Char) (values : List Nat) : CodeEntry :=
  match fields (fun c => c == '-' || c == '=') characters with
  | [first, last] => ⟨number first, number last, if characters.contains '=' then 2 else 1, values⟩
  | _ => ⟨number characters, number characters, 1, values⟩

/-- The entry that a word says. -/
def entry (word : List Char) : CodeEntry :=
  match fields (· == ':') word with
  | [characters, []] => entryOf characters []
  | [characters, values] => entryOf characters ((fields (· == '.') values).map number)
  | _ => entryOf word []

/-- The table that lines say. -/
def ofLines (lines : List String) : CodeTable :=
  ⟨lines.flatMap fun line => (fields (· == ' ') line.toList).map entry⟩

/-- What a table says about a character first. -/
def find? (t : CodeTable) (c : Char) : Option CodeEntry := t.entries.find? (·.includes c)

/-- Whether a table says anything about a character. -/
def contains (t : CodeTable) (c : Char) : Bool := t.entries.any (·.includes c)

end CodeTable

end OpticalBench.Text
