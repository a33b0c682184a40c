import OpticalBench.Binary64.Digits
import OpticalBench.Binary64.Reading

/-!
# Decimal numerals

A `Numeral` is a decimal number as it stands in a text: sign, digits before and after the point, and
an exponent if there is one. Layouts of floating-point numbers produce numerals, JSON texts contain
them.
-/

namespace OpticalBench

/-- A decimal number as written. A point is written only in front of fraction digits. -/
structure Numeral where
  negative : Bool
  whole : List Char
  fraction : List Char
  exponent : Option Int
  deriving DecidableEq, Inhabited, Repr

namespace Numeral

/-- Decimal digits of a whole number. -/
def digits (n : Nat) : List Char := Nat.toDigits 10 n

/-- The numeral of an integer. -/
def ofInt (n : Int) : Numeral := ⟨decide (n < 0), digits n.natAbs, [], none⟩

/-- An exponent with its mark. An exponent that is not negative has a plus sign if asked for. -/
def exponentCharacters (plus : Bool) : Int → List Char
  | .ofNat e => 'e' :: (if plus then ['+'] else []) ++ digits e
  | .negSucc e => 'e' :: '-' :: digits (e + 1)

/-- The characters of a numeral. -/
def characters (plus : Bool) (n : Numeral) : List Char :=
  (if n.negative then ['-'] else []) ++ n.whole ++
    (if n.fraction.isEmpty then [] else '.' :: n.fraction) ++
    match n.exponent with
    | none => []
    | some e => exponentCharacters plus e

end Numeral

end OpticalBench
