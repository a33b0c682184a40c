/-!
# Occurrences of a text

Occurrences are taken from the left and do not overlap. The recursion passes over one character at
a time; the counter says how many characters of a found occurrence are still to be passed.
-/

namespace OpticalBench.Text

/-- Replace occurrences of a pattern, which is not empty, after passing `skip` characters. -/
def replaceFrom (pattern replacement : List Char) : Nat → List Char → List Char
  | _, [] => []
  | skip + 1, _ :: cs => replaceFrom pattern replacement skip cs
  | 0, c :: cs =>
    if pattern.isPrefixOf (c :: cs) then
      replacement ++ replaceFrom pattern replacement (pattern.length - 1) cs
    else c :: replaceFrom pattern replacement 0 cs

/-- Replace every occurrence of a pattern that is not empty. -/
def replaceAll (pattern replacement cs : List Char) : List Char :=
  replaceFrom pattern replacement 0 cs

/-- Count occurrences of a pattern, which is not empty, after passing `skip` characters. -/
def countFrom (pattern : List Char) : Nat → List Char → Nat
  | _, [] => 0
  | skip + 1, _ :: cs => countFrom pattern skip cs
  | 0, c :: cs =>
    if pattern.isPrefixOf (c :: cs) then 1 + countFrom pattern (pattern.length - 1) cs
    else countFrom pattern 0 cs

/-- How often a pattern that is not empty occurs. -/
def occurrences (pattern cs : List Char) : Nat := countFrom pattern 0 cs

/-- What follows a given beginning, if the text has it. -/
def afterFront? : List Char → List Char → Option (List Char)
  | [], cs => some cs
  | _ :: _, [] => none
  | p :: ps, c :: cs => if p = c then afterFront? ps cs else none

/-- What precedes a given last character, if the text has it. -/
def beforeLast? (last : Char) (cs : List Char) : Option (List Char) :=
  match cs.reverse with
  | c :: rest => if c = last then some rest.reverse else none
  | [] => none

end OpticalBench.Text
