import OpticalBench.Numeral
import OpticalBench.Text.Substitution

/-!
# Tokens of JSON texts

`Token.scan?` splits a text into tokens and `Token.characters` writes one. The scanner accepts every
numeral of the grammar, however large, and every escape sequence: a numeral out of range, or half of
a surrogate pair, is a fault of the value that needs it and not of the text, so such a text is still
fine in a place that is ignored.
-/

namespace OpticalBench.Json

/-- A token. A text whose escapes name half of a surrogate pair has no content. -/
inductive Token
  | openBrace
  | closeBrace
  | openBracket
  | closeBracket
  | colon
  | comma
  | null
  | boolean (b : Bool)
  | numeral (n : Numeral)
  | text (content : Option String)
  deriving DecidableEq, Inhabited, Repr

/-! ## Quoted texts -/

/-- One part of a quoted text: a character, or sixteen bits given by their number. -/
inductive Piece
  | character (c : Char)
  | unit (n : Nat)
  deriving DecidableEq, Repr

/-- The value of a hexadecimal digit. -/
def hexValue? (c : Char) : Option Nat :=
  if c.isDigit then some (c.toNat - '0'.toNat)
  else if 'a' ≤ c ∧ c ≤ 'f' then some (c.toNat - 'a'.toNat + 10)
  else if 'A' ≤ c ∧ c ≤ 'F' then some (c.toNat - 'A'.toNat + 10)
  else none

/-- The number of hexadecimal digits. -/
def hexNumber? (cs : List Char) : Option Nat :=
  cs.foldlM (fun n c => (hexValue? c).map (n * 16 + ·)) 0

/-- The character that a one-letter escape stands for. -/
def escapedCharacter? (c : Char) : Option Char :=
  if c = '"' ∨ c = '\\' ∨ c = '/' then some c
  else if c = 'b' then some (Char.ofNat 0x8)
  else if c = 'f' then some (Char.ofNat 0xc)
  else if c = 'n' then some '\n'
  else if c = 'r' then some '\r'
  else if c = 't' then some '\t'
  else none

/-- The parts of a quoted text after its opening quote, and what follows the closing one. -/
def takePieces? : List Char → Option (List Piece × List Char)
  | [] => none
  | '"' :: rest => some ([], rest)
  | '\\' :: 'u' :: a :: b :: c :: d :: rest => do
    let n ← hexNumber? [a, b, c, d]
    let (pieces, after) ← takePieces? rest
    some (.unit n :: pieces, after)
  | '\\' :: c :: rest => do
    let e ← escapedCharacter? c
    let (pieces, after) ← takePieces? rest
    some (.character e :: pieces, after)
  | c :: rest =>
    if c = '\\' ∨ c.toNat < 0x20 then none
    else do
      let (pieces, after) ← takePieces? rest
      some (.character c :: pieces, after)

/-- The first half of a surrogate pair. -/
def isHighSurrogate (n : Nat) : Bool := decide (0xd800 ≤ n) && decide (n < 0xdc00)

/-- The second half of a surrogate pair. -/
def isLowSurrogate (n : Nat) : Bool := decide (0xdc00 ≤ n) && decide (n < 0xe000)

/-- Put surrogate pairs together; half a pair is no character. -/
def joinPieces? : List Piece → Option (List Char)
  | [] => some []
  | .character c :: rest => (joinPieces? rest).map (c :: ·)
  | .unit high :: .unit low :: rest =>
    if isHighSurrogate high then
      if isLowSurrogate low then
        let n := 0x10000 + (high - 0xd800) * 0x400 + (low - 0xdc00)
        (joinPieces? rest).map (Char.ofNat n :: ·)
      else none
    else if isLowSurrogate high then none
    else (joinPieces? (.unit low :: rest)).map (Char.ofNat high :: ·)
  | .unit n :: rest =>
    if isHighSurrogate n || isLowSurrogate n then none
    else (joinPieces? rest).map (Char.ofNat n :: ·)

/-- A quoted text after its opening quote: its content, and what follows the closing quote. -/
def takeText? (cs : List Char) : Option (Option String × List Char) :=
  (takePieces? cs).map fun (pieces, rest) => ((joinPieces? pieces).map String.ofList, rest)

/-- One character inside quotes. -/
def escape (c : Char) : List Char :=
  if c = '"' then ['\\', '"']
  else if c = '\\' then ['\\', '\\']
  else if c = '\n' then ['\\', 'n']
  else if c = '\r' then ['\\', 'r']
  else if c = '\t' then ['\\', 't']
  else if c.toNat = 0x8 then ['\\', 'b']
  else if c.toNat = 0xc then ['\\', 'f']
  else if c.toNat < 0x20 then
    ['\\', 'u', '0', '0', Nat.digitChar (c.toNat / 16), Nat.digitChar (c.toNat % 16)]
  else [c]

/-- A text between quotes. -/
def quoted (s : String) : List Char := '"' :: s.toList.flatMap escape ++ ['"']

/-! ## Numerals -/

/-- The digits before the point; a zero stands alone. -/
def takeWhole? (cs : List Char) : Option (List Char × List Char) :=
  let ds := cs.takeWhile Char.isDigit
  let rest := cs.dropWhile Char.isDigit
  match ds with
  | [] => none
  | '0' :: _ :: _ => none
  | _ => some (ds, rest)

/-- The digits after the point, if there is one. -/
def takeFraction? : List Char → Option (List Char × List Char)
  | '.' :: cs =>
    let ds := cs.takeWhile Char.isDigit
    if ds.isEmpty then none else some (ds, cs.dropWhile Char.isDigit)
  | cs => some ([], cs)

/-- The exponent, if there is one. -/
def takeExponent? : List Char → Option (Option Int × List Char)
  | [] => some (none, [])
  | c :: cs =>
    if c = 'e' ∨ c = 'E' then
      let (negative, more) := takeSign cs
      let ds := more.takeWhile Char.isDigit
      let e : Int := digitsValue ds
      if ds.isEmpty then none
      else some (some (if negative then -e else e), more.dropWhile Char.isDigit)
    else some (none, c :: cs)

/-- The numeral at the front of a text. -/
def takeNumeral? (cs : List Char) : Option (Numeral × List Char) := do
  let (negative, body) := match cs with
    | '-' :: rest => (true, rest)
    | other => (false, other)
  let (whole, afterWhole) ← takeWhole? body
  let (fraction, afterFraction) ← takeFraction? afterWhole
  let (exponent, rest) ← takeExponent? afterFraction
  some (⟨negative, whole, fraction, exponent⟩, rest)

namespace Token

/-! ## Scanning and writing -/

/-- The token that a punctuation mark is. -/
def ofMark? (c : Char) : Option Token :=
  if c.toNat = 0x7b then some openBrace
  else if c.toNat = 0x7d then some closeBrace
  else if c = '[' then some openBracket
  else if c = ']' then some closeBracket
  else if c = ':' then some colon
  else if c = ',' then some comma
  else none

/-- The four characters that may stand between tokens. -/
def isSpace (c : Char) : Bool := c == ' ' || c == '\n' || c == '\t' || c == '\r'

/-- The word at the front of a text. -/
def takeWord? (cs : List Char) : Option (Token × List Char) :=
  ((Text.afterFront? "null".toList cs).map fun rest => (null, rest)) <|>
  ((Text.afterFront? "true".toList cs).map fun rest => (boolean true, rest)) <|>
  ((Text.afterFront? "false".toList cs).map fun rest => (boolean false, rest))

/-- The token at the front of a text that does not start with a space. -/
def take? (cs : List Char) : Option (Token × List Char) :=
  match cs with
  | [] => none
  | c :: rest =>
    match ofMark? c with
    | some mark => some (mark, rest)
    | none =>
      if c = '"' then (takeText? rest).map fun (content, after) => (text content, after)
      else if c = '-' ∨ c.isDigit = true then
        (takeNumeral? cs).map fun (n, after) => (numeral n, after)
      else takeWord? cs

/-- The tokens of a text of at most `fuel` characters. -/
def scanWithin? : Nat → List Char → Option (List Token)
  | _, [] => some []
  | 0, _ :: _ => none
  | fuel + 1, c :: cs =>
    if isSpace c then scanWithin? fuel cs
    else do
      let (token, rest) ← take? (c :: cs)
      let tokens ← scanWithin? fuel rest
      some (token :: tokens)

/-- The tokens of a text. Every token has at least one character, so there are no more tokens than
characters. -/
def scan? (cs : List Char) : Option (List Token) := scanWithin? cs.length cs

/-- How a token is written. -/
def characters : Token → List Char
  | openBrace => [Char.ofNat 0x7b]
  | closeBrace => [Char.ofNat 0x7d]
  | openBracket => ['[']
  | closeBracket => [']']
  | colon => [':']
  | comma => [',']
  | null => "null".toList
  | boolean true => "true".toList
  | boolean false => "false".toList
  | numeral n => n.characters true
  | text content => quoted (content.getD "")

end Token

end OpticalBench.Json
