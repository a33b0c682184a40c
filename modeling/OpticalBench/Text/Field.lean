/-!
# Fields of a text

A text is cut at its separators. Between two separators, before the first and after the last there is
a field, perhaps an empty one: `fields` has one element more than there are separators.
-/

namespace OpticalBench.Text

/-- Put a character in front of the first field. -/
def extendFirst (c : Char) : List (List Char) → List (List Char)
  | [] => [[c]]
  | field :: rest => (c :: field) :: rest

/-- The fields between separators. -/
def fields (isSeparator : Char → Bool) : List Char → List (List Char)
  | [] => [[]]
  | c :: cs =>
    if isSeparator c then [] :: fields isSeparator cs else extendFirst c (fields isSeparator cs)

end OpticalBench.Text
