import OpticalBench.Binary64.Basic

/-!
# Reading a number

`Binary64.read?` reads a decimal literal: an optional sign, digits with an optional point (at least
one digit on either side of it), an optional exponent. `inf`, `infinity` and `nan` are accepted in any
letter case. The result is correctly rounded, beyond the range it is infinite. Blanks and digit
separators are refused.
-/

namespace OpticalBench

/-- The value of a decimal digit. -/
def digitValue (c : Char) : Nat := c.toNat - '0'.toNat

/-- The number that a list of decimal digits stands for. -/
def digitsValue (cs : List Char) : Nat := cs.foldl (fun n c => n * 10 + digitValue c) 0

/-- An optional sign: whether it is a minus, and what follows. -/
def takeSign : List Char → Bool × List Char
  | '-' :: cs => (true, cs)
  | '+' :: cs => (false, cs)
  | cs => (false, cs)

namespace Binary64

/-- The exponent of a decimal literal; nothing may follow it. -/
def readExponent? : List Char → Option Int
  | [] => some 0
  | c :: cs =>
    if c == 'e' || c == 'E' then
      let (negative, ds) := takeSign cs
      if ds.isEmpty || !ds.all Char.isDigit then none
      else if negative then some (-(digitsValue ds : Int)) else some (digitsValue ds)
    else none

/-- A literal without its sign. -/
def readUnsigned? (negative : Bool) (cs : List Char) : Option Binary64 :=
  let whole := cs.takeWhile Char.isDigit
  let afterWhole := cs.dropWhile Char.isDigit
  let (fraction, rest) := match afterWhole with
    | '.' :: more => (more.takeWhile Char.isDigit, more.dropWhile Char.isDigit)
    | other => ([], other)
  if whole.isEmpty && fraction.isEmpty then none
  else (readExponent? rest).map fun e =>
    ofDecimal negative (digitsValue (whole ++ fraction)) (e - fraction.length)

/-- A decimal literal. -/
def readCharacters? (cs : List Char) : Option Binary64 :=
  let (negative, body) := takeSign cs
  let lower := body.map Char.toLower
  if lower == "inf".toList || lower == "infinity".toList then some (infinity negative)
  else if lower == "nan".toList then some (quietNaN negative)
  else readUnsigned? negative body

/-- A decimal literal. -/
def read? (s : String) : Option Binary64 := readCharacters? s.toList

end Binary64

end OpticalBench
