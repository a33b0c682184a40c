import OpticalBench.DomainName.Mark

/-!
# Directions of writing

Some letters are written from right to left. A name with such letters must not show its parts in a
wrong order: each of its labels keeps to one direction, begins with a letter, and ends with a letter or
a number.

- `direction`: how a character is written.
- `isDirected`: whether a label keeps to one direction.
-/

namespace OpticalBench.DomainName

/-- How a character is written. -/
inductive Direction
  | leftToRight
  | rightToLeft
  /-- A digit. -/
  | number
  /-- A digit among letters that are written from right to left. -/
  | arabicNumber
  /-- A mark that takes no room. -/
  | mark
  /-- A sign that is written like what is around it. -/
  | neutral
  deriving DecidableEq, Inhabited, Repr

/-- The letters that are written from right to left, among the characters that names may hold. -/
def rightToLeftLetters : Text.CodeTable := .ofLines [
  "5be 5c0 5c3 5c6 5d0-5f4 608 60b 60d 61b-64a 66d-66f 671-6d5 6e5-6e6 6ee-6ef 6fa-710 712-72f",
  "74d-7a5 7b1-7ea 7f4-7f5 7fa 7fe-815 81a 824 828 830-858 85e-88f 8a0-8c9 fbb2-fbc2 fe73",
  "10800-1091b 10920-10a00 10a10-10a35 10a40-10ae4 10aeb-10b35 10b40-10d23 10d4a-10d4f",
  "10d6f-10d8f 10e80-10ea9 10ead-10ec7 10f00-10f45 10f51-10f81 10f86-10ff6 1e800-1e8cf",
  "1e922-1e943 1e94b-1ed3d"]

/-- The digits, among the characters that names may hold. -/
def numbers : Text.CodeTable := .ofLines [
  "30-39 6f0-6f9 102e1-102fb"]

/-- The digits among letters that are written from right to left. -/
def arabicNumbers : Text.CodeTable := .ofLines [
  "660-669 66b-66c 10d30-10d49 10e60-10e7e"]

/-- The signs that are written like what is around them, among the characters that names may hold. -/
def neutralSigns : Text.CodeTable := .ofLines [
  "21-2f 3a-60 7b-7e a1-d7 f7 2b9-2ba 2c2-2cf 2d2-2ed 2ef-2ff 375 3f6 58a-58f 606-607 609-60a",
  "60c 60e-60f 66a 6de 6e9 7f6-7f9 9f2-9f3 9fb af1 bf3-bfa c78-c7e e3f f3a-f3d 1390-1399 1400",
  "169b-169c 17db 17f0-180a 1940-1945 19de-19ff 200c-20c1 2104-214d 218a-2335 237b-2394",
  "2396-26ab 26ad-27ff 2900-2bff 2ce5-2cea 2cf9-2cff 2e00-3004 3008-3020 3030 3037 303d-303f",
  "30a0 30fb 31c0-31e5 4dc0-4dff a490-a4c6 a60d-a60f a673 a67e-a67f a700-a721 a788 a828-a82b",
  "a838-a839 a874-a877 ab6a-ab6b fbc3-fdff fe45-fe46 10101 10140-1018c 10190-101a0 1091f",
  "10b39-10b3f 10d6e 10ed0-10ed8 11052-11065 11660-1166c 11fd5-11ff1 16fe2 1cc00-1cef0",
  "1d1e9-1d241 1d245 1d300-1d356 1e2ff 1eef0-1f12f 1f16d-1f16f 1f1ad 1f260-1fbfa"]

/-- The marks that are written from left to right, although they take no room. -/
def leftToRightMarks : Text.CodeTable := .ofLines ["cbf cc6 11a07-11a08 11c3f"]

/-- How a character is written. -/
def direction (c : Char) : Direction :=
  if numbers.contains c then .number
  else if neutralSigns.contains c then .neutral
  else if rightToLeftLetters.contains c then .rightToLeft
  else if arabicNumbers.contains c then .arabicNumber
  else if isNonspacing c && !leftToRightMarks.contains c then .mark
  else .leftToRight

/-- Whether a character makes directions matter. -/
def turns (c : Char) : Bool :=
  decide (0x80 ≤ c.toNat) &&
    (direction c == .rightToLeft || direction c == .arabicNumber)

/-- Whether characters of one label can be written from right to left: none goes the other way, the last
one that is no mark is a letter or a digit, and the digits are of one kind. -/
def isRightToLeft (ds : List Direction) : Bool :=
  !ds.contains .leftToRight &&
    !(ds.contains .number && ds.contains .arabicNumber) &&
    (ds.reverse.dropWhile (· == .mark)).head? != some .neutral

/-- Whether characters of one label can be written from left to right: none goes the other way, and the
last one that is no mark is a letter or a digit. -/
def isLeftToRight (ds : List Direction) : Bool :=
  !ds.contains .rightToLeft && !ds.contains .arabicNumber &&
    (ds.reverse.dropWhile (· == .mark)).head? != some .neutral

/-- Whether a label keeps to the direction of the letter that it begins with. -/
def isDirected (label : List Char) : Bool :=
  let ds := label.map direction
  match ds with
  | [] => true
  | .rightToLeft :: _ => isRightToLeft ds
  | .leftToRight :: _ => isLeftToRight ds
  | _ => false

end OpticalBench.DomainName
