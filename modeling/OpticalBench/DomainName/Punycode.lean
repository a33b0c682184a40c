import OpticalBench.StableSort

/-!
# Names in ASCII characters

A text is written in ASCII characters alone: first those of its characters that are ASCII, then a hyphen
if there are any, then a number for each other character. The numbers are given in the order of the
characters' codes and tell how far to go until the character is to be put in, going through the text
over and over again with one code after the other. A number is written in digits of base 36, from the
lowest to the highest; a digit below a threshold is the last one, and the thresholds follow from the
numbers before.

- `Punycode.encode`: a text in ASCII characters.
- `Punycode.decode?`: the text that was encoded.
-/

namespace OpticalBench.DomainName.Punycode

/-! ## Digits -/

/-- A digit as a character: the letters stand for 0 to 25, the decimal digits for the rest. -/
def digitCharacter (d : Nat) : Char :=
  if d < 26 then Char.ofNat ('a'.toNat + d) else Char.ofNat ('0'.toNat + (d - 26))

/-- The digit that a character stands for. -/
def digit? (c : Char) : Option Nat :=
  if 'a' ≤ c ∧ c ≤ 'z' then some (c.toNat - 'a'.toNat)
  else if '0' ≤ c ∧ c ≤ '9' then some (26 + (c.toNat - '0'.toNat))
  else none

/-- The threshold in a column; the columns are 36 apart. -/
def threshold (bias column : Nat) : Nat := max 1 (min 26 (column - bias))

theorem one_le_threshold (bias column : Nat) : 1 ≤ threshold bias column := Nat.le_max_left ..

/-- The bias that goes with a number whose scale has been taken out. -/
def settle (number bias : Nat) : Nat :=
  if number ≤ 455 then bias + 36 * number / (number + 38) else settle (number / 35) (bias + 36)
termination_by number

/-- The bias after a number, where the text now has so many characters. -/
def nextBias (number count : Nat) (isFirst : Bool) : Nat :=
  let scaled := number / if isFirst then 700 else 2
  settle (scaled + scaled / count) 0

/-- The bias before the first number. -/
def firstBias : Nat := 72

/-- The code of the first character that is not ASCII. -/
def firstCode : Nat := 0x80

/-! ## Encoding -/

/-- The digits of a number from a column on. -/
def digits (bias column number : Nat) : List Char :=
  if number < threshold bias column then [digitCharacter number]
  else
    let rest := number - threshold bias column
    let base := 36 - threshold bias column
    digitCharacter (threshold bias column + rest % base) :: digits bias (column + 36) (rest / base)
termination_by number
decreasing_by
  have h := one_le_threshold bias column
  have := Nat.div_le_self (number - threshold bias column) (36 - threshold bias column)
  omega

/-- What has been encoded. -/
structure Encoding where
  /-- The digits of the numbers. -/
  written : List Char
  /-- The number that is being counted. -/
  number : Nat
  bias : Nat
  /-- How many characters have been put in. -/
  count : Nat
  deriving DecidableEq, Inhabited, Repr

namespace Encoding

/-- Write down the number that was counted. -/
def write (e : Encoding) (isFirst : Bool) : Encoding where
  written := e.written ++ digits e.bias 36 e.number
  number := 0
  bias := nextBias e.number (e.count + 1) isFirst
  count := e.count + 1

/-- Go past a character of the text, looking for a code. -/
def pass (basicCount code : Nat) (e : Encoding) (c : Char) : Encoding :=
  if c.toNat < code then { e with number := e.number + 1 }
  else if c.toNat = code then e.write (e.count == basicCount)
  else e

/-- Go through a text with each of the codes, having gone through it with all codes below `next`. -/
def go (text : List Char) (basicCount : Nat) : Nat → List Nat → Encoding → Encoding
  | _, [], e => e
  | next, code :: codes, e =>
    let skipped := { e with number := e.number + (code - next) * (e.count + 1) }
    let passed := text.foldl (pass basicCount code) skipped
    go text basicCount (code + 1) codes { passed with number := passed.number + 1 }

end Encoding

/-- The codes in a text that are not ASCII, each once, in order. -/
def codes (text : List Char) : List Nat :=
  (stableSort (fun a b => decide (a ≤ b))
    ((text.map Char.toNat).filter fun n => decide (firstCode ≤ n))).eraseDups

/-- A text in ASCII characters. -/
def encode (text : List Char) : List Char :=
  let basic := text.filter fun c => decide (c.toNat < firstCode)
  let encoded := Encoding.go text basic.length firstCode (codes text) ⟨[], 0, firstBias, basic.length⟩
  basic ++ (if basic.isEmpty then [] else ['-']) ++ encoded.written

/-! ## Decoding -/

/-- What has been decoded. -/
structure Decoding where
  /-- The text so far. -/
  text : List Char
  /-- The code and the place of the next character if the next number is zero. -/
  code : Nat
  place : Nat
  bias : Nat
  /-- The number that is being read, and the column and the weight of its next digit. -/
  number : Nat
  column : Nat
  weight : Nat
  deriving DecidableEq, Inhabited, Repr

namespace Decoding

/-- Before the first number. -/
def start (basic : List Char) : Decoding := ⟨basic, firstCode, 0, firstBias, 0, 36, 1⟩

/-- Put in the character that the number which was read tells. -/
def insert? (d : Decoding) : Option Decoding :=
  let count := d.text.length + 1
  let steps := d.place + d.number
  let code := d.code + steps / count
  let place := steps % count
  if code.isValidChar then
    some {
      text := d.text.take place ++ Char.ofNat code :: d.text.drop place
      code, place := place + 1
      bias := nextBias d.number count (d.place == 0)
      number := 0, column := 36, weight := 1 }
  else none

/-- Read one digit. Weights are of 32 bits. -/
def read? (d : Decoding) (c : Char) : Option Decoding := do
  let digit ← digit? c
  let threshold := threshold d.bias d.column
  let d := { d with number := d.number + digit * d.weight }
  if digit < threshold then d.insert?
  else if d.weight * (36 - threshold) < 0x100000000 then
    some { d with column := d.column + 36, weight := d.weight * (36 - threshold) }
  else none

end Decoding

/-- The text that was encoded. Letters are small. Numbers have to end. -/
def decode? (cs : List Char) : Option (List Char) := do
  let behind := (cs.reverse.takeWhile (· != '-')).reverse
  let basic := cs.take (cs.length - behind.length - 1)
  let numbers := if basic.isEmpty then cs else behind
  let d ← numbers.foldlM Decoding.read? (.start basic)
  if d.column = 36 then some d.text else none

end OpticalBench.DomainName.Punycode
