import OpticalBench.Binary64.Basic

/-!
# Decimal digits of a number

- `Decimal`: a whole coefficient and a power of ten.
- `shortest`: the fewest digits that read back as the number, and of those the closest to it.
- `fixedPoint`: the value rounded to a given number of places.

The numbers that round to `x` form an interval around it. For one digit, two digits and so on,
the two neighbours of `x` on the grid of that many digits are tested against the interval in exact
arithmetic. If any point of a grid lies in the interval then so does one of those two, so the first
grid with a hit gives the fewest digits.
-/

namespace OpticalBench

/-- The number `coefficient * 10 ^ exponent`. -/
structure Decimal where
  coefficient : Nat
  exponent : Int
  deriving DecidableEq, Inhabited, Repr

/-- What to do when a value lies exactly between two candidates. -/
inductive Tie
  /-- The candidate whose last digit is even. -/
  | even
  /-- The candidate of greater absolute value. -/
  | away
  deriving DecidableEq, Inhabited, Repr

namespace Decimal

/-- Drop trailing zeros of the coefficient, at most `fuel` of them. -/
def trimZerosWithin : Nat → Decimal → Decimal
  | 0, d => d
  | fuel + 1, d =>
    if d.coefficient ≠ 0 ∧ d.coefficient % 10 = 0 then
      trimZerosWithin fuel ⟨d.coefficient / 10, d.exponent + 1⟩
    else d

/-- The same number without trailing zeros in the coefficient. -/
def trimZeros (d : Decimal) : Decimal :=
  trimZerosWithin (Binary64.decimalLength d.coefficient) d

end Decimal

/-- The quotient `num / den` scaled by a power of ten, as a quotient again. -/
def scaleByTen (num den : Nat) : Int → Nat × Nat
  | .ofNat e => (num * Nat.pow 10 e, den)
  | .negSucc e => (num, den * Nat.pow 10 (e + 1))

/-- Whether `num / den < 10 ^ e`. -/
def belowPowerOfTen (num den : Nat) (e : Int) : Bool :=
  let (n, d) := scaleByTen num den (-e)
  decide (n < d)

/-- The least `e` with `num / den < 10 ^ e`, for a positive quotient: an estimate from the binary
logarithms is at most one off, so one of four neighbours is the answer. -/
def decimalCeiling (num den : Nat) : Int :=
  let estimate : Int := ((num.log2 : Int) - den.log2) * 30103 / 100000
  match [estimate - 1, estimate, estimate + 1].find? (belowPowerOfTen num den) with
  | some e => e
  | none => estimate + 2

namespace Binary64

/-- The numbers that round to a positive finite `x`, in quarters of a unit. -/
structure RoundingInterval where
  low : Nat
  value : Nat
  high : Nat
  closed : Bool

/-- The interval reaches half a step up and down, and only a quarter down from a power of two, where
the step below is half as long. The ends belong to it when the significand is even. -/
def roundingInterval (x : Binary64) : RoundingInterval :=
  let step := Nat.pow 2 x.unitExponent
  let down := if x.significand = 0x10000000000000 ∧ 0 < x.unitExponent then step else 2 * step
  { low := 4 * x.magnitude - down
    value := 4 * x.magnitude
    high := 4 * x.magnitude + 2 * step
    closed := x.significand % 2 == 0 }

/-- The neighbour of `x` on the grid of multiples of `10 ^ grid` that reads back as `x`, if one does;
of two the nearer. -/
def gridHit (interval : RoundingInterval) (tie : Tie) (grid : Int) : Option Nat :=
  let (num, den) := scaleByTen 1 (4 * unitsPerOne) (-grid)
  let below := interval.value * num / den
  let inside (c : Nat) : Bool :=
    if interval.closed then
      decide (interval.low * num ≤ c * den) && decide (c * den ≤ interval.high * num)
    else decide (interval.low * num < c * den) && decide (c * den < interval.high * num)
  let remainder := interval.value * num % den
  let takeAbove :=
    if 2 * remainder = den then
      match tie with
      | .away => true
      | .even => below % 2 == 1
    else decide (den < 2 * remainder)
  match inside below, inside (below + 1) with
  | true, true => some (if takeAbove then below + 1 else below)
  | true, false => some below
  | false, true => some (below + 1)
  | false, false => none

/-- Try grids of ever more digits, `fuel` of them. -/
def firstGridHit (interval : RoundingInterval) (tie : Tie) : Nat → Int → Decimal
  | 0, grid => ⟨0, grid⟩
  | fuel + 1, grid =>
    match gridHit interval tie grid with
    | some c => ⟨c, grid⟩
    | none => firstGridHit interval tie fuel (grid - 1)

/-- The shortest decimal that reads back as the absolute value of a finite number. Seventeen digits
always suffice. -/
def shortest (tie : Tie) (x : Binary64) : Decimal :=
  if x.magnitude = 0 then ⟨0, 0⟩
  else
    let top := decimalCeiling x.magnitude unitsPerOne
    (firstGridHit x.roundingInterval tie 17 (top - 1)).trimZeros

/-- The absolute value of a finite number in units of `10 ^ -places`, rounded, a tie going to the
even digit. -/
def fixedPoint (places : Nat) (x : Binary64) : Nat :=
  roundHalfEven (x.magnitude * Nat.pow 10 places) unitsPerOne

end Binary64

end OpticalBench
