import OpticalBench.Numeral

/-!
# Text of a number

Every text of a floating-point number in this library is one choice of digits and one `Layout`.

- `Layout.source`: literals of generated programs and debug texts. Positional from `0.0001` up to
  below `1e16`, always with a fraction digit; beyond that an exponent such as `1e-5` or `1.5e16`.
- `Layout.json`: JSON texts. Positional from `0.00001`, exponents carry their sign (`1e+16`).
- `Layout.plain`: sentences such as "timed out after 1.5s". Always positional, and a whole number
  has no fraction.
- `Binary64.fixed`: a given number of places, for tables.
-/

namespace OpticalBench

/-- How the digits of a number are written down. -/
structure Layout where
  /-- The scientific exponents that are written positionally. -/
  positional : Int → Bool
  /-- The fraction digits of a whole number written positionally. -/
  wholeFraction : List Char
  /-- Whether an exponent that is not negative has a plus sign. -/
  plus : Bool
  /-- Which of two equally close digit strings is taken. -/
  tie : Tie

namespace Layout

/-- Literals of generated programs, and debug texts. -/
def source : Layout where
  positional e := decide (-4 ≤ e ∧ e < 16)
  wholeFraction := ['0']
  plus := false
  tie := .away

/-- JSON texts. -/
def json : Layout where
  positional e := decide (-5 ≤ e ∧ e < 16)
  wholeFraction := ['0']
  plus := true
  tie := .even

/-- Sentences. -/
def plain : Layout where
  positional _ := true
  wholeFraction := []
  plus := false
  tie := .away

/-- A decimal without an exponent. -/
def positionalNumeral (layout : Layout) (negative : Bool) (d : Decimal) : Numeral :=
  let ds := Numeral.digits d.coefficient
  match d.exponent with
  | .ofNat e =>
    let zeros := if d.coefficient = 0 then [] else List.replicate e '0'
    ⟨negative, ds ++ zeros, layout.wholeFraction, none⟩
  | .negSucc e =>
    let places := e + 1
    if places < ds.length then
      ⟨negative, ds.take (ds.length - places), ds.drop (ds.length - places), none⟩
    else ⟨negative, ['0'], List.replicate (places - ds.length) '0' ++ ds, none⟩

/-- A decimal in this layout. With an exponent, one digit stands before the point. -/
def numeral (layout : Layout) (negative : Bool) (d : Decimal) : Numeral :=
  let ds := Numeral.digits d.coefficient
  let scientific : Int := d.exponent + ds.length - 1
  if d.coefficient = 0 ∨ layout.positional scientific = true then
    layout.positionalNumeral negative d
  else ⟨negative, ds.take 1, ds.drop 1, some scientific⟩

end Layout

namespace Binary64

/-- A finite number as a numeral in a layout. -/
def numeral (layout : Layout) (x : Binary64) : Numeral :=
  layout.numeral x.isNegative (x.shortest layout.tie)

/-- A number in a layout, as characters. NaN has no sign. -/
def characters (layout : Layout) (x : Binary64) : List Char :=
  if x.isNaN then ['N', 'a', 'N']
  else if x.isInfinite then (if x.isNegative then ['-'] else []) ++ ['i', 'n', 'f']
  else (x.numeral layout).characters layout.plus

/-- A number in a layout. -/
def text (layout : Layout) (x : Binary64) : String := String.ofList (x.characters layout)

/-- A number with a fixed number of places, at least one. -/
def fixed (places : Nat) (x : Binary64) : String :=
  if x.isFinite then
    let ds := Numeral.digits (x.fixedPoint places)
    let padded := List.replicate (places + 1 - ds.length) '0' ++ ds
    let cut := padded.length - places
    let n : Numeral := ⟨x.isNegative, padded.take cut, padded.drop cut, none⟩
    String.ofList (n.characters false)
  else x.text .plain

end Binary64

end OpticalBench
