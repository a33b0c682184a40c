import OpticalBench.Json.Token

/-!
# Scalars of YAML

A scalar that is plain or stands between quotes may go on over several lines. Blanks between two words
of one line are kept; a line end between two words is one space, and each empty line in between is a
line feed.

- `plain?`: a plain scalar, up to the first thing that cannot belong to it.
- `quoted?`: what stands between quotes.
- `Place`: where in the text a scalar ends.

Line ends are single line feeds here, or one of the two Unicode separators.
-/

namespace OpticalBench.Yaml

/-- How a scalar is written. -/
inductive ScalarStyle
  | plain
  /-- Between quotes. -/
  | quoted
  /-- Below the indicator `|`. -/
  | literal
  /-- Below the indicator `>`. -/
  | folded
  deriving DecidableEq, Inhabited, Repr

/-! ## Characters -/

/-- The line separator and the paragraph separator. -/
def isSeparator (c : Char) : Bool := c.toNat == 0x2028 || c.toNat == 0x2029

/-- A character that ends a line. -/
def isBreak (c : Char) : Bool := c == '\n' || isSeparator c

/-- A space or a tab. -/
def isSpace (c : Char) : Bool := c == ' ' || c == '\t'

/-- Whether the text is at its end, at a space or at the end of a line. -/
def atBlank : List Char → Bool
  | [] => true
  | c :: _ => isSpace c || isBreak c

/-- Whether three given characters stand here on their own. -/
def atMark (c : Char) (cs : List Char) : Bool :=
  cs.take 3 == [c, c, c] && atBlank (cs.drop 3)

/-- Whether a mark between documents stands here. -/
def atDocumentMark (cs : List Char) : Bool := atMark '-' cs || atMark '.' cs

/-- A character that structures flow collections. -/
def isFlowIndicator (c : Char) : Bool := ",[]\x7b\x7d".toList.contains c

/-! ## Places and gaps -/

/-- A place in the text. -/
structure Place where
  rest : List Char
  line : Nat
  column : Nat
  index : Nat
  deriving Inhabited

namespace Place

/-- The place after some characters of one line. -/
def skip (p : Place) (n : Nat) : Place :=
  ⟨p.rest.drop n, p.line, p.column + n, p.index + n⟩

/-- The place after one character, which may be a line end. -/
def next (p : Place) : Place :=
  match p.rest with
  | [] => p
  | c :: rest => if isBreak c then ⟨rest, p.line + 1, 0, p.index + 1⟩ else p.skip 1

end Place

/-- What lies between two words: spaces, or line ends. -/
structure Gap where
  /-- The spaces before the first line end, last first. -/
  spaces : List Char
  /-- The line ends, last first. -/
  breaks : List Char
  /-- Whether the gap starts with a line end that does not count. -/
  escaped : Bool

namespace Gap

/-- No gap. -/
def none : Gap := ⟨[], [], false⟩

/-- Whether a line has ended in the gap. -/
def spansLines (g : Gap) : Bool := g.escaped || !g.breaks.isEmpty

/-- Whether there is any gap. -/
def isNone (g : Gap) : Bool := g.spaces.isEmpty && !g.spansLines

/-- The gap with one more blank. -/
def push (g : Gap) (c : Char) : Gap :=
  if isBreak c then { g with spaces := [], breaks := c :: g.breaks }
  else if g.spansLines then g
  else { g with spaces := c :: g.spaces }

/-- What a gap stands for. -/
def text (g : Gap) : List Char :=
  if g.escaped then g.breaks.reverse
  else match g.breaks.reverse with
    | [] => g.spaces.reverse
    | first :: [] => if first = '\n' then [' '] else [first]
    | first :: more => if first = '\n' then more else first :: more

end Gap

/-! ## Plain scalars -/

/-- What a plain scalar may end with. -/
structure PlainEnd where
  text : String
  place : Place
  /-- Whether lines ended between the last word and the place. -/
  spansLines : Bool

/-- Whether a plain scalar ends before a character. -/
def endsPlain (flow : Bool) (c : Char) (rest : List Char) : Bool :=
  (c == ':' && atBlank rest) || (flow && isFlowIndicator c)

/-- Whether a colon in front of a flow indicator makes a plain scalar ambiguous. -/
def isAmbiguous (flow : Bool) (c : Char) (rest : List Char) : Bool :=
  flow && c == ':' && rest.head?.any fun d => isFlowIndicator d || d == '?'

/-- Whether a plain scalar is over where a character stands after a gap: on a line that is not
indented enough, at a mark between documents, at a comment, or at punctuation. -/
def isPlainOver (flow : Bool) (indent column : Nat) (gap : Gap) (c : Char) (rest : List Char) :
    Bool :=
  (gap.spansLines && !flow && decide (column < indent)) ||
    (column == 0 && atDocumentMark (c :: rest)) || (!gap.isNone && c == '#') ||
    endsPlain flow c rest

/-- Go on with a plain scalar of which `words` has been read, last character first, with a gap after
it. The scalar is indented by at least `indent` columns, unless it stands in a flow collection. -/
def plainFrom (flow : Bool) (indent : Nat) (words : List Char) (gap : Gap) (line column index : Nat) :
    List Char → Option PlainEnd
  | [] => some ⟨String.ofList words.reverse, ⟨[], line, column, index⟩, gap.spansLines⟩
  | c :: rest =>
    if isBreak c then plainFrom flow indent words (gap.push c) (line + 1) 0 (index + 1) rest
    else if isSpace c then
      if gap.spansLines && decide (column < indent) && c == '\t' then none
      else plainFrom flow indent words (gap.push c) line (column + 1) (index + 1) rest
    else if isPlainOver flow indent column gap c rest then
      some ⟨String.ofList words.reverse, ⟨c :: rest, line, column, index⟩, gap.spansLines⟩
    else if isAmbiguous flow c rest then none
    else plainFrom flow indent (c :: (gap.text.reverse ++ words)) .none line (column + 1) (index + 1) rest

/-- The plain scalar at a place. -/
def plain? (flow : Bool) (indent : Nat) (p : Place) : Option PlainEnd :=
  plainFrom flow indent [] .none p.line p.column p.index p.rest

/-! ## Quoted scalars -/

/-- The character that a backslash and a letter stand for. -/
def escape? : Char → Option Char
  | '0' => some (Char.ofNat 0x0)
  | 'a' => some (Char.ofNat 0x7)
  | 'b' => some (Char.ofNat 0x8)
  | 't' => some '\t'
  | '\t' => some '\t'
  | 'n' => some '\n'
  | 'v' => some (Char.ofNat 0xb)
  | 'f' => some (Char.ofNat 0xc)
  | 'r' => some '\r'
  | 'e' => some (Char.ofNat 0x1b)
  | ' ' => some ' '
  | '"' => some '"'
  | '/' => some '/'
  | '\\' => some '\\'
  | 'N' => some (Char.ofNat 0x85)
  | '_' => some (Char.ofNat 0xa0)
  | 'L' => some (Char.ofNat 0x2028)
  | 'P' => some (Char.ofNat 0x2029)
  | _ => none

/-- How many hexadecimal digits follow a backslash and a letter. -/
def escapeLength? : Char → Option Nat
  | 'x' => some 2
  | 'u' => some 4
  | 'U' => some 8
  | _ => none

/-- The character with a hexadecimal number. -/
def numbered? (digits : List Char) : Option Char :=
  (Json.hexNumber? digits).bind fun n => if n.isValidChar then some (Char.ofNat n) else none

/-- Go on with a quoted scalar of which `words` has been read, last character first, with a gap after
it. So many characters as `skip` says belong to an escape that has been read. -/
def quotedFrom (quote : Char) (words : List Char) (gap : Gap) (skip line column index : Nat) :
    List Char → Option (String × Place)
  | [] => none
  | c :: rest =>
    let joined := gap.text.reverse ++ words
    match skip with
    | skip + 1 =>
      if isBreak c then quotedFrom quote words gap skip (line + 1) 0 (index + 1) rest
      else quotedFrom quote words gap skip line (column + 1) (index + 1) rest
    | 0 =>
      if column == 0 && atDocumentMark (c :: rest) then none
      else if isBreak c then quotedFrom quote words (gap.push c) 0 (line + 1) 0 (index + 1) rest
      else if isSpace c then quotedFrom quote words (gap.push c) 0 line (column + 1) (index + 1) rest
      else if c == quote then
        if quote == '\'' && rest.head? == some '\'' then
          quotedFrom quote ('\'' :: joined) .none 1 line (column + 1) (index + 1) rest
        else
          some (String.ofList joined.reverse, ⟨rest, line, column + 1, index + 1⟩)
      else if c == '\\' && quote == '"' then
        match rest with
        | [] => none
        | d :: digits =>
          if isBreak d then
            quotedFrom quote joined ⟨[], [], true⟩ 1 line (column + 1) (index + 1) rest
          else match escape? d, escapeLength? d with
            | some e, _ => quotedFrom quote (e :: joined) .none 1 line (column + 1) (index + 1) rest
            | none, some n =>
              match numbered? (digits.take n) with
              | some e =>
                if digits.length < n then none
                else quotedFrom quote (e :: joined) .none (n + 1) line (column + 1) (index + 1) rest
              | none => none
            | none, none => none
      else quotedFrom quote (c :: joined) .none 0 line (column + 1) (index + 1) rest

/-- What stands between quotes at a place, and the place after them. -/
def quoted? (p : Place) : Option (String × Place) :=
  match p.rest with
  | quote :: rest => quotedFrom quote [] .none 0 p.line (p.column + 1) (p.index + 1) rest
  | [] => none

end OpticalBench.Yaml
