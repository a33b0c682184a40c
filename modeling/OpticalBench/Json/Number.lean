import OpticalBench.Binary64.Layout
import OpticalBench.Text.Natural

/-!
# Numbers in JSON texts

A numeral without fraction and exponent that fits 64 bits, signed or unsigned, stays an integer;
everything else is a floating-point number. Such a number is read in two roundings: the digits, as
many as fit 64 bits, become a floating-point number, which is then scaled by a power of ten. So a
number with many digits can come out next to the closest one, and not every number that is written
reads back as itself: `Json.Number.ofNumeral?` and `Json.Number.numeral` are not inverse to each
other for floating-point numbers in general. A number beyond the range makes the text invalid.
-/

namespace OpticalBench.Json

/-- A JSON number. -/
inductive Number
  | integer (n : Int)
  | float (x : Binary64)
  deriving DecidableEq, Inhabited, Repr

namespace Number

/-- The leading digits of a numeral that fit 64 bits. -/
structure Significand where
  value : Nat
  /-- The power of ten that `value` is to be scaled by. -/
  exponent : Int
  /-- Whether every digit so far has been taken. -/
  complete : Bool

/-- Take a digit before the point. Once one did not fit, the rest only count. -/
def Significand.pushWhole (s : Significand) (c : Char) : Significand :=
  let next := s.value * 10 + digitValue c
  if s.complete && decide (next ≤ Text.max64) then { s with value := next }
  else { s with exponent := s.exponent + 1, complete := false }

/-- Take a digit after the point. Once one did not fit, the rest are ignored. -/
def Significand.pushFraction (s : Significand) (c : Char) : Significand :=
  let next := s.value * 10 + digitValue c
  if s.complete && decide (next ≤ Text.max64) then
    { s with value := next, exponent := s.exponent - 1 }
  else { s with complete := false }

/-- The significand of a numeral's digits. -/
def significand (whole fraction : List Char) : Significand :=
  let ofWhole := whole.foldl Significand.pushWhole ⟨0, 0, true⟩
  fraction.foldl Significand.pushFraction { ofWhole with complete := true }

/-- A power of ten, rounded. -/
def powerOfTen (e : Nat) : Binary64 := Binary64.ofDecimal false 1 e

/-- Scale by a power of ten, in steps of at most `10 ^ 308`. A product out of range is refused; after
`fuel` divisions the quotient has vanished. -/
def scale? : Nat → Binary64 → Int → Option Binary64
  | 0, x, _ => some x
  | fuel + 1, x, e =>
    if e.natAbs ≤ 308 then
      if 0 ≤ e then
        let y := x.mul (powerOfTen e.natAbs)
        if y.isInfinite then none else some y
      else some (x.div (powerOfTen e.natAbs))
    else if x.unsignedWord = 0 then some x
    else if 0 ≤ e then none
    else scale? fuel (x.div (powerOfTen 308)) (e + 308)

/-- The number that a numeral denotes, unless it is out of range. -/
def ofNumeral? (n : Numeral) : Option Number :=
  let s := significand n.whole n.fraction
  if n.fraction.isEmpty && n.exponent.isNone && s.exponent == 0 &&
      (!n.negative || decide (0 < s.value ∧ s.value ≤ 0x8000000000000000)) then
    some (.integer (if n.negative then -(s.value : Int) else s.value))
  else
    (scale? 4 (Binary64.ofNat s.value) (s.exponent + n.exponent.getD 0)).map fun x =>
      .float (if n.negative then x.neg else x)

/-- The numeral that a number is written as. -/
def numeral : Number → Numeral
  | integer n => .ofInt n
  | float x => x.numeral .json

/-- The number as a floating-point number; an integer is rounded. -/
def toBinary64 : Number → Binary64
  | integer n => .ofInt n
  | float x => x

end Number

end OpticalBench.Json
