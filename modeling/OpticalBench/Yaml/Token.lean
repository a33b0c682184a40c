import OpticalBench.Yaml.BlockScalar
import OpticalBench.Yaml.Property

/-!
# Tokens of YAML

The structure of a document shows in its punctuation and in its indentation. `Token.scan?` turns both
into tokens: a block collection starts where the indentation grows and ends where it shrinks again.

Only the colon after it tells that a scalar is a key. So the scanner remembers what might be a key,
and where; when the colon comes, the tokens of a key are put in front of what was read since. What
has been scanned never changes: such insertions are kept apart and merged in the end.
-/

namespace OpticalBench.Yaml

/-- A token of a YAML text. -/
inductive Token
  /-- Three hyphens. -/
  | documentStart
  /-- Three points. -/
  | documentEnd
  | blockSequenceStart
  | blockMappingStart
  | blockEnd
  | openBracket
  | closeBracket
  | openBrace
  | closeBrace
  | comma
  /-- A hyphen in front of an item. -/
  | entry
  /-- In front of a key. -/
  | key
  /-- A colon in front of a value. -/
  | value
  | anchor (name : String)
  /-- The node with an anchor. -/
  | alias (name : String)
  | tag (t : Tag)
  | directive (d : Directive)
  | scalar (text : String) (style : ScalarStyle)
  deriving DecidableEq, Inhabited, Repr

/-- Whether a token is a directive. -/
def Token.isDirective : Token → Bool
  | .directive _ => true
  | _ => false

/-- Something that is a key if a colon follows it. -/
structure PossibleKey where
  /-- How many tokens stand in front of it. -/
  tokensBefore : Nat
  line : Nat
  column : Nat
  index : Nat
  /-- Whether nothing but a key can stand there. -/
  required : Bool

/-- The state of the scanner. -/
structure Scanner where
  place : Place
  /-- What has been scanned, last first. -/
  tokens : List Token
  /-- Tokens to be put in front of the token with a number. -/
  insertions : List (Nat × List Token)
  /-- The columns of the open block collections, innermost first. -/
  indents : List Nat
  /-- What might be a key, in the innermost collection. -/
  possibleKey : Option PossibleKey
  /-- The same for the collections around the open flow collections, innermost first. -/
  outerKeys : List (Option PossibleKey)
  /-- Whether a key may start here. -/
  keyAllowed : Bool

namespace Scanner

/-- The state at the beginning of a text. -/
def start (cs : List Char) : Scanner := ⟨⟨cs, 0, 0, 0⟩, [], [], [], none, [], true⟩

/-- Whether a flow collection is open. -/
def inFlow (s : Scanner) : Bool := !s.outerKeys.isEmpty

/-- Scan a token that occupies some characters. -/
def emit (s : Scanner) (t : Token) (width : Nat) : Scanner :=
  { s with tokens := t :: s.tokens, place := s.place.skip width }

/-- How far a key may reach, in characters. -/
def keyReach : Nat := 1024

/-- Whether a possible key can still be one: its colon must be on its line and within reach. -/
def isFresh (s : Scanner) (k : PossibleKey) : Bool :=
  k.line == s.place.line && decide (s.place.index ≤ k.index + keyReach)

/-- Forget a possible key; it is an error to forget one that is required. -/
def forget? (s : Scanner) : Option Scanner :=
  if s.possibleKey.any (·.required) then none else some { s with possibleKey := none }

/-- Forget a possible key that is no longer fresh. -/
def refresh? (s : Scanner) : Option Scanner :=
  if s.possibleKey.any fun k => !s.isFresh k then s.forget? else some s

/-- Remember that a key may start here. -/
def remember? (s : Scanner) : Option Scanner :=
  if s.keyAllowed then
    s.forget?.map fun s =>
      let p := s.place
      let required := !s.inFlow && s.indents.head? == some p.column
      { s with possibleKey := some ⟨s.tokens.length, p.line, p.column, p.index, required⟩ }
  else some s

/-- Whether a block collection has to start at a column. -/
def isDeeper (s : Scanner) (column : Nat) : Bool :=
  !s.inFlow && s.indents.head?.all (· < column)

/-- Close the block collections deeper than a column; without a column, all of them. -/
def unindent (s : Scanner) (column : Option Nat) : Scanner :=
  if s.inFlow then s
  else
    let deeper := s.indents.takeWhile fun indent => column.all (· < indent)
    { s with
      tokens := List.replicate deeper.length .blockEnd ++ s.tokens
      indents := s.indents.drop deeper.length }

/-- Start a block collection here, if the indentation has grown. -/
def indent (s : Scanner) (t : Token) : Scanner :=
  if s.isDeeper s.place.column then
    { s with tokens := t :: s.tokens, indents := s.place.column :: s.indents }
  else s

/-! ## Blanks and comments -/

/-- The mark that tells the order of bytes. It may start a line, where it counts as a column. -/
def isOrderMark (c : Char) : Bool := c.toNat == 0xfeff

/-- Pass over blanks and comments. -/
def skipBlanks (keyAllowed flow comment : Bool) (line column index : Nat) :
    List Char → Place × Bool
  | [] => (⟨[], line, column, index⟩, keyAllowed)
  | c :: rest =>
    if isBreak c then skipBlanks (keyAllowed || !flow) flow false (line + 1) 0 (index + 1) rest
    else if comment then skipBlanks keyAllowed flow true line (column + 1) (index + 1) rest
    else if c == ' ' || (c == '\t' && (flow || !keyAllowed)) || (column == 0 && isOrderMark c) then
      skipBlanks keyAllowed flow false line (column + 1) (index + 1) rest
    else if c == '#' then skipBlanks keyAllowed flow true line (column + 1) (index + 1) rest
    else (⟨c :: rest, line, column, index⟩, keyAllowed)

/-- Go to the next token. -/
def approach (s : Scanner) : Scanner :=
  let p := s.place
  let (place, keyAllowed) := skipBlanks s.keyAllowed s.inFlow false p.line p.column p.index p.rest
  { s with place, keyAllowed }

/-! ## One token -/

/-- A mark between documents. -/
def documentMark? (s : Scanner) (t : Token) : Option Scanner :=
  (s.unindent none).forget?.map fun s => { s.emit t 3 with keyAllowed := false }

/-- The start of a flow collection. -/
def openFlow? (s : Scanner) (t : Token) : Option Scanner :=
  s.remember?.map fun s =>
    { s.emit t 1 with
      outerKeys := s.possibleKey :: s.outerKeys, possibleKey := none, keyAllowed := true }

/-- The end of a flow collection. -/
def closeFlow? (s : Scanner) (t : Token) : Option Scanner :=
  s.forget?.map fun s =>
    { s.emit t 1 with
      possibleKey := s.outerKeys.head?.join, outerKeys := s.outerKeys.drop 1, keyAllowed := false }

/-- A comma. -/
def comma? (s : Scanner) : Option Scanner :=
  s.forget?.map fun s => { s.emit .comma 1 with keyAllowed := true }

/-- A hyphen in front of an item. -/
def entry? (s : Scanner) : Option Scanner :=
  if !s.inFlow && !s.keyAllowed then none
  else (s.indent .blockSequenceStart).forget?.map fun s =>
    { s.emit .entry 1 with keyAllowed := true }

/-- A question mark in front of a key. -/
def key? (s : Scanner) : Option Scanner :=
  if !s.inFlow && !s.keyAllowed then none
  else (s.indent .blockMappingStart).forget?.map fun s =>
    { s.emit .key 1 with keyAllowed := !s.inFlow }

/-- A colon. If a possible key precedes it, that is a key. -/
def value? (s : Scanner) : Option Scanner :=
  match s.possibleKey with
  | some k =>
    let opening := s.isDeeper k.column
    let inserted := if opening then [Token.blockMappingStart, .key] else [.key]
    some { s.emit .value 1 with
      insertions := (k.tokensBefore, inserted) :: s.insertions
      indents := if opening then k.column :: s.indents else s.indents
      possibleKey := none
      keyAllowed := false }
  | none =>
    if !s.inFlow && !s.keyAllowed then none
    else
      let s := s.indent .blockMappingStart
      some { s.emit .value 1 with keyAllowed := !s.inFlow }

/-- A directive, which takes its line for itself. -/
def directive? (s : Scanner) : Option Scanner := do
  let s ← (s.unindent none).forget?
  let (d, width) ← Directive.read? s.place.rest
  let s := { s.emit (.directive d) width with keyAllowed := false }
  let blanks ← lineRest? s.place.rest
  some { s with place := (s.place.skip blanks).next }

/-- An anchor, or a reference to one. -/
def named? (s : Scanner) (t : String → Token) : Option Scanner := do
  let s ← s.remember?
  let name ← name? (s.place.rest.drop 1)
  some { s.emit (t name) (name.length + 1) with keyAllowed := false }

/-- A tag. -/
def tag? (s : Scanner) : Option Scanner := do
  let s ← s.remember?
  let (t, width) ← Tag.read? s.inFlow s.place.rest
  some { s.emit (.tag t) width with keyAllowed := false }

/-- How many columns what belongs to the innermost block collection is indented at least. -/
def depth (s : Scanner) : Nat :=
  match s.indents with
  | [] => 0
  | indent :: _ => indent + 1

/-- A block scalar. -/
def block? (s : Scanner) (style : ScalarStyle) : Option Scanner := do
  let s ← s.forget?
  let (text, place) ← Yaml.block? (style == .literal) s.depth s.place
  some { s with tokens := .scalar text style :: s.tokens, place, keyAllowed := true }

/-- A scalar between quotes. -/
def quoted? (s : Scanner) : Option Scanner := do
  let s ← s.remember?
  let (text, place) ← Yaml.quoted? s.place
  some { s with tokens := .scalar text .quoted :: s.tokens, place, keyAllowed := false }

/-- A plain scalar. -/
def plain? (s : Scanner) : Option Scanner := do
  let s ← s.remember?
  let e ← Yaml.plain? s.inFlow s.depth s.place
  some { s with
    tokens := .scalar e.text .plain :: s.tokens, place := e.place, keyAllowed := e.spansLines }

/-- A character that starts no plain scalar. -/
def isIndicator (c : Char) : Bool := "-?:,[]\x7b\x7d#&*!|>'\"%@\x60".toList.contains c

/-- Whether a plain scalar starts with these characters. -/
def startsPlain (flow : Bool) (c : Char) (rest : List Char) : Bool :=
  !(isSpace c || isBreak c || isIndicator c) ||
    (c == '-' && !rest.head?.any isSpace) ||
    (!flow && (c == '?' || c == ':') && !atBlank rest)

/-- Scan the next token, which starts here. -/
def token? (s : Scanner) : Option Scanner :=
  match s.place.rest with
  | [] => some s
  | c :: rest =>
    if s.place.column == 0 && c == '%' then s.directive?
    else if s.place.column == 0 && atMark '-' (c :: rest) then s.documentMark? .documentStart
    else if s.place.column == 0 && atMark '.' (c :: rest) then s.documentMark? .documentEnd
    else if c == '[' then s.openFlow? .openBracket
    else if c == Char.ofNat 0x7b then s.openFlow? .openBrace
    else if c == ']' then s.closeFlow? .closeBracket
    else if c == Char.ofNat 0x7d then s.closeFlow? .closeBrace
    else if c == ',' then s.comma?
    else if c == '-' && atBlank rest then s.entry?
    else if c == '?' && (s.inFlow || atBlank rest) then s.key?
    else if c == ':' && (s.inFlow || atBlank rest) then s.value?
    else if c == '*' then s.named? .alias
    else if c == '&' then s.named? .anchor
    else if c == '!' then s.tag?
    else if c == '|' && !s.inFlow then s.block? .literal
    else if c == '>' && !s.inFlow then s.block? .folded
    else if c == '\'' || c == '"' then s.quoted?
    else if startsPlain s.inFlow c rest then s.plain?
    else none

/-- Go to the next token and scan it; at the end of the text close what is open. -/
def step? (s : Scanner) : Option Scanner := do
  let s ← s.approach.refresh?
  if s.place.rest.isEmpty then (s.unindent none).forget?
  else (s.unindent (some s.place.column)).token?

/-- Scan to the end. Every step but the last takes at least one character. -/
def run? : Nat → Scanner → Option Scanner
  | 0, _ => none
  | fuel + 1, s => do
    let s ← s.step?
    if s.place.rest.isEmpty then s.step? else run? fuel s

/-- The tokens of a text that has been scanned, the insertions merged. -/
def allTokens (s : Scanner) : List Token :=
  (s.tokens.reverse.zipIdx).flatMap fun (t, i) =>
    (s.insertions.filter (·.1 == i)).flatMap (·.2) ++ [t]

end Scanner

/-! ## Whole texts -/

/-- A character that a text may hold. -/
def isAllowed (c : Char) : Bool :=
  let n := c.toNat
  n == 0x9 || n == 0xa || n == 0xd || n == 0x85 || (decide (0x20 ≤ n) && decide (n ≤ 0x7e)) ||
    (decide (0xa0 ≤ n) && n != 0xfffe && n != 0xffff)

/-- Write every line end as one line feed. -/
def joinBreaks : List Char → List Char
  | '\r' :: '\n' :: cs => '\n' :: joinBreaks cs
  | c :: cs => (if c == '\r' || c.toNat == 0x85 then '\n' else c) :: joinBreaks cs
  | [] => []

/-- The tokens of a text. -/
def Token.scan? (s : String) : Option (List Token) :=
  let cs := s.toList
  if cs.all isAllowed then
    (Scanner.run? (cs.length + 1) (Scanner.start (joinBreaks cs))).map Scanner.allTokens
  else none

end OpticalBench.Yaml
