/-!
# Blank characters

`isBlank` is the Unicode property White_Space, twenty-five characters in ten ranges. `trim` removes
blanks at both ends of a text.
-/

namespace OpticalBench.Text

/-- The ranges of White_Space. -/
def blankRanges : List (Nat × Nat) :=
  [(0x9, 0xd), (0x20, 0x20), (0x85, 0x85), (0xa0, 0xa0), (0x1680, 0x1680), (0x2000, 0x200a),
    (0x2028, 0x2029), (0x202f, 0x202f), (0x205f, 0x205f), (0x3000, 0x3000)]

/-- Whether a character is white space. -/
def isBlank (c : Char) : Bool :=
  blankRanges.any fun (low, high) => decide (low ≤ c.toNat) && decide (c.toNat ≤ high)

/-- Drop blanks at the front. -/
def trimFront (cs : List Char) : List Char := cs.dropWhile isBlank

/-- Drop blanks at the end. -/
def trimBack (cs : List Char) : List Char := (cs.reverse.dropWhile isBlank).reverse

/-- Drop blanks at both ends. -/
def trimCharacters (cs : List Char) : List Char := trimBack (trimFront cs)

/-- Drop blanks at both ends. -/
def trim (s : String) : String := String.ofList (trimCharacters s.toList)

end OpticalBench.Text
