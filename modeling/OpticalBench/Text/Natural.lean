import OpticalBench.Binary64.Reading

/-!
# Natural numbers in text

Both readings take digits with an optional sign, up to a bound.

- `readNatural?`: the sign is a plus sign. Settings that come from the environment are read this way.
- `readCount?`: the sign may also be a minus sign, which only zero can have. Options of commands are
  read this way.
-/

namespace OpticalBench.Text

/-- The largest 32-bit number. -/
def max32 : Nat := 0xffffffff

/-- The largest 64-bit number. -/
def max64 : Nat := 0xffffffffffffffff

/-- Decimal digits, at least one, for a number of at most `limit`. -/
def digitsNatural? (limit : Nat) (ds : List Char) : Option Nat :=
  if ds.isEmpty || !ds.all Char.isDigit then none
  else if digitsValue ds ≤ limit then some (digitsValue ds) else none

/-- Decimal digits with an optional plus sign, for a number of at most `limit`. -/
def readNatural? (limit : Nat) (s : String) : Option Nat :=
  match s.toList with
  | '+' :: ds => digitsNatural? limit ds
  | ds => digitsNatural? limit ds

/-- Decimal digits with an optional sign, for a number from zero to `limit`. -/
def readCount? (limit : Nat) (s : String) : Option Nat :=
  match s.toList with
  | '+' :: ds => digitsNatural? limit ds
  | '-' :: ds => digitsNatural? 0 ds
  | ds => digitsNatural? limit ds

end OpticalBench.Text
