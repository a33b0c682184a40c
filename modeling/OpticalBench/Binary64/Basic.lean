/-!
# Binary floating point, 64 bits

Positions, parameters, probabilities and times are IEEE binary64 numbers. A number is its 64 bits,
so that signed zeros, infinities and both signs of NaN stay apart.

- `magnitude`: a finite number's absolute value as a whole count of the smallest unit, `2 ^ -1074`.
  Comparison, rounding and arithmetic are statements about such counts.
- `rank`: the place of a number in the total order of all bit patterns; `numericRank` is the
  coarser order of numbers as values, in which the two zeros coincide.
- `nearest`: the number closest to a quotient of two counts, a tie going to the even significand.
  `add`, `mul`, `div`, `ofNat` and `ofDecimal` are the exact result, rounded once by it.
-/

namespace OpticalBench

/-- A binary64 number, given by its bits. -/
structure Binary64 where
  bits : UInt64
  deriving DecidableEq, Inhabited, Repr

namespace Binary64

/-! ## Fields -/

/-- The bits as a natural number. -/
def word (x : Binary64) : Nat := x.bits.toNat

/-- Whether the sign bit is set; true of `-0.0` and of a negative NaN. -/
def isNegative (x : Binary64) : Bool := decide (0x8000000000000000 ≤ x.word)

/-- The bits below the sign bit. -/
def unsignedWord (x : Binary64) : Nat := x.word % 0x8000000000000000

/-- The eleven exponent bits. -/
def exponentField (x : Binary64) : Nat := x.unsignedWord / 0x10000000000000

/-- The fifty-two fraction bits. -/
def fraction (x : Binary64) : Nat := x.word % 0x10000000000000

/-- Neither infinite nor NaN. -/
def isFinite (x : Binary64) : Bool := x.exponentField != 2047

/-- Not a number. -/
def isNaN (x : Binary64) : Bool := x.exponentField == 2047 && x.fraction != 0

/-- One of the two infinities. -/
def isInfinite (x : Binary64) : Bool := x.exponentField == 2047 && x.fraction == 0

/-- The integer significand; below the normal range there is no implicit leading bit. -/
def significand (x : Binary64) : Nat :=
  if x.exponentField = 0 then x.fraction else x.fraction + 0x10000000000000

/-- The weight of the significand's last bit is `2 ^ unitExponent` units. -/
def unitExponent (x : Binary64) : Nat := x.exponentField - 1

/-- The absolute value of a finite number, in units of `2 ^ -1074`. -/
def magnitude (x : Binary64) : Nat := x.significand * Nat.pow 2 x.unitExponent

/-- The value of a finite number, in units of `2 ^ -1074`. -/
def scaled (x : Binary64) : Int := if x.isNegative then -(x.magnitude : Int) else x.magnitude

/-- How many units make one. -/
def unitsPerOne : Nat := Nat.pow 2 1074

/-! ## Orders -/

/-- The place in the total order: negative NaN, `-inf`, …, `-0.0`, `0.0`, …, `inf`, positive NaN. -/
def rank (x : Binary64) : Int :=
  if x.isNegative then -(x.unsignedWord : Int) - 1 else x.unsignedWord

/-- At or before `y` in the total order of bit patterns. -/
def totalLe (x y : Binary64) : Bool := decide (x.rank ≤ y.rank)

/-- The place in the order of values; the two zeros share one. Meaningless for NaN. -/
def numericRank (x : Binary64) : Int :=
  if x.isNegative then -(x.unsignedWord : Int) else x.unsignedWord

/-- Equality of values: zeros are equal, NaN differs from everything. -/
def numericEq (x y : Binary64) : Bool :=
  !x.isNaN && !y.isNaN && x.numericRank == y.numericRank

/-- Strict order of values; false when a NaN takes part. -/
def numericLt (x y : Binary64) : Bool :=
  !x.isNaN && !y.isNaN && decide (x.numericRank < y.numericRank)

/-! ## Building numbers -/

/-- The number with this sign and these lower 63 bits. -/
def ofSignAndWord (negative : Bool) (lower : Nat) : Binary64 :=
  ⟨UInt64.ofNat (lower + if negative then 0x8000000000000000 else 0)⟩

/-- Zero of either sign. -/
def zero (negative : Bool) : Binary64 := ofSignAndWord negative 0

/-- Infinity of either sign. -/
def infinity (negative : Bool) : Binary64 := ofSignAndWord negative 0x7ff0000000000000

/-- A quiet NaN of either sign. -/
def quietNaN (negative : Bool) : Binary64 := ofSignAndWord negative 0x7ff8000000000000

/-- The whole number closest to `num / den`, a tie going to the even one. -/
def roundHalfEven (num den : Nat) : Nat :=
  let q := num / den
  let r := num % den
  if 2 * r < den then q
  else if den < 2 * r then q + 1
  else if q % 2 = 0 then q else q + 1

/-- The number closest to `num / den` units. The unit exponent is chosen so that the significand has
53 bits where the value allows it; a significand that rounds up to `2 ^ 53` carries into the
exponent by itself, and what then reaches the exponent of infinity is infinity. -/
def nearest (negative : Bool) (num den : Nat) : Binary64 :=
  let whole := num / den
  let exponent := if whole < 0x20000000000000 then 0 else whole.log2 - 52
  let lower := exponent * 0x10000000000000 + roundHalfEven num (den * Nat.pow 2 exponent)
  if lower < 0x7ff0000000000000 then ofSignAndWord negative lower else infinity negative

/-- A whole number, rounded. -/
def ofNat (n : Nat) : Binary64 := nearest false (n * unitsPerOne) 1

/-- An integer, rounded. -/
def ofInt (n : Int) : Binary64 := nearest (decide (n < 0)) (n.natAbs * unitsPerOne) 1

/-- One. -/
def one : Binary64 := ofNat 1

/-- How many decimal digits `n` has; none for zero. -/
def decimalLength (n : Nat) : Nat := if n = 0 then 0 else (Nat.toDigits 10 n).length

/-- `coefficient * 10 ^ exponent`, rounded. Far outside the range of the format the answer is
decided by the number of digits, so that a huge exponent costs nothing. -/
def ofDecimal (negative : Bool) (coefficient : Nat) (exponent : Int) : Binary64 :=
  let top : Int := decimalLength coefficient + exponent
  if coefficient = 0 ∨ top < -326 then zero negative
  else if 310 < top then infinity negative
  else match exponent with
    | .ofNat e => nearest negative (coefficient * Nat.pow 10 e * unitsPerOne) 1
    | .negSucc e => nearest negative (coefficient * unitsPerOne) (Nat.pow 10 (e + 1))

/-! ## Arithmetic -/

/-- The number with the opposite sign. -/
def neg (x : Binary64) : Binary64 := ofSignAndWord (!x.isNegative) x.unsignedWord

/-- Sum. -/
def add (x y : Binary64) : Binary64 :=
  if x.isNaN || y.isNaN then quietNaN false
  else if x.isInfinite then
    if y.isInfinite && x.isNegative != y.isNegative then quietNaN false else x
  else if y.isInfinite then y
  else
    let sum := x.scaled + y.scaled
    if sum = 0 then zero (x.isNegative && y.isNegative)
    else nearest (decide (sum < 0)) sum.natAbs 1

/-- Product. -/
def mul (x y : Binary64) : Binary64 :=
  let negative := x.isNegative != y.isNegative
  if x.isNaN || y.isNaN then quietNaN false
  else if x.isInfinite || y.isInfinite then
    if x.unsignedWord = 0 ∨ y.unsignedWord = 0 then quietNaN false else infinity negative
  else nearest negative (x.magnitude * y.magnitude) unitsPerOne

/-- Quotient. -/
def div (x y : Binary64) : Binary64 :=
  let negative := x.isNegative != y.isNegative
  if x.isNaN || y.isNaN then quietNaN false
  else if x.isInfinite then if y.isInfinite then quietNaN false else infinity negative
  else if y.isInfinite then zero negative
  else if y.magnitude = 0 then if x.magnitude = 0 then quietNaN false else infinity negative
  else nearest negative (x.magnitude * unitsPerOne) y.magnitude

/-- The whole part of a finite number's absolute value. -/
def wholePart (x : Binary64) : Nat := x.magnitude / unitsPerOne

/-- The larger of two numbers that are not NaN; the first when they are equal. -/
def numericMax (x y : Binary64) : Binary64 := if x.numericLt y then y else x

end Binary64

end OpticalBench
