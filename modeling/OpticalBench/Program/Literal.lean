import OpticalBench.Binary64.Layout
import OpticalBench.Mode

/-!
# Literals of generated programs

- `Literal.number`: a floating-point literal that reads back as the same number and always shows
  that it is one.
- `Literal.outcomeLabels`: the binary outcomes of a number of modes, in ascending order.
- `Literal.uniform`: the dictionary that gives each binary outcome the same probability.
-/

namespace OpticalBench.Literal

/-- A floating-point literal. -/
def number (x : Binary64) : String :=
  if x.isNaN then "float('nan')"
  else if x.isInfinite then if x.isNegative then "float('-inf')" else "float('inf')"
  else x.text .source

/-- The lowest `width` binary digits of `k`. -/
def binaryDigits : Nat → Nat → List Char
  | 0, _ => []
  | width + 1, k => binaryDigits width (k / 2) ++ [if k % 2 = 0 then '0' else '1']

/-- The binary outcomes of as many modes as a circuit can have nearest to `n`. -/
def outcomeLabels (n : Nat) : List String :=
  let width := (ModeCount.clamp n).toNat
  (List.range (Nat.pow 2 width)).map fun k => String.ofList (binaryDigits width k)

/-- A dictionary from each binary outcome to the same probability. -/
def uniform (n : Nat) : String :=
  let labels := outcomeLabels n
  let value := number (Binary64.one.div (.ofNat labels.length))
  let entries := labels.map fun label => "\"" ++ label ++ "\": " ++ value
  "\x7b" ++ String.intercalate ", " entries ++ "\x7d"

end OpticalBench.Literal
