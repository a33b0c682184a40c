import OpticalBench.Json.Token

/-!
# Identifiers of 128 bits

An identifier is written as thirty-two hexadecimal digits in lower case, in groups of eight, four,
four, four and twelve between hyphens. It is read in that form, without hyphens, between braces, or
after `urn:uuid:`; all letters may have either case.
-/

namespace OpticalBench

/-- A 128-bit identifier. -/
structure Uuid where
  value : Nat
  value_lt : value < 0x100000000000000000000000000000000
  deriving DecidableEq, Repr

namespace Uuid

instance : Inhabited Uuid := ⟨0, by decide⟩

/-- The hexadecimal digits of a number, `count` of them. -/
def hexDigits : Nat → Nat → List Char
  | 0, _ => []
  | count + 1, n => hexDigits count (n / 16) ++ [Nat.digitChar (n % 16)]

/-- The identifier with hyphens, as characters. -/
def characters (u : Uuid) : List Char :=
  let ds := hexDigits 32 u.value
  ds.take 8 ++ '-' :: (ds.drop 8).take 4 ++ '-' :: (ds.drop 12).take 4 ++
    '-' :: (ds.drop 16).take 4 ++ '-' :: ds.drop 20

/-- The identifier with hyphens. -/
def text (u : Uuid) : String := String.ofList u.characters

/-- Thirty-two hexadecimal digits. -/
def ofDigits? (cs : List Char) : Option Uuid :=
  if cs.length = 32 then
    (Json.hexNumber? cs).bind fun n =>
      if h : n < 0x100000000000000000000000000000000 then some ⟨n, h⟩ else none
  else none

/-- Thirty-six characters with hyphens between the groups. -/
def ofGroups? (cs : List Char) : Option Uuid :=
  let hyphens := [cs[8]?, cs[13]?, cs[18]?, cs[23]?]
  if cs.length = 36 ∧ hyphens = List.replicate 4 (some '-') then
    ofDigits? (cs.take 8 ++ (cs.drop 9).take 4 ++ (cs.drop 14).take 4 ++ (cs.drop 19).take 4 ++
      cs.drop 24)
  else none

/-- What stands between braces. -/
def betweenBraces? (cs : List Char) : Option (List Char) := do
  let opened ← Text.afterFront? [Char.ofNat 0x7b] cs
  Text.beforeLast? (Char.ofNat 0x7d) opened

/-- What stands after the name of the space of identifiers, whose letters may have either case. -/
def afterName? (cs : List Char) : Option (List Char) :=
  if (cs.take 9).map Char.toLower = "urn:uuid:".toList then some (cs.drop 9) else none

/-- Any accepted form, as characters. -/
def readCharacters? (cs : List Char) : Option Uuid :=
  ofDigits? cs <|> ofGroups? cs <|> (betweenBraces? cs).bind ofGroups? <|>
    (afterName? cs).bind ofGroups?

/-- Any accepted form. -/
def read? (s : String) : Option Uuid := readCharacters? s.toList

end Uuid

end OpticalBench
