import OpticalBench.Text.Unprintable

/-!
# Quoted text

Debug views show a text between double quotes. A quote and a backslash get a backslash in front;
tab, line feed, carriage return and NUL have a letter; any other character that has no glyph of its
own is written by its hexadecimal number.
-/

namespace OpticalBench.Text

/-- One character inside quotes. -/
def quoteCharacter (c : Char) : List Char :=
  if c = '"' then ['\\', '"']
  else if c = '\\' then ['\\', '\\']
  else if c = '\n' then ['\\', 'n']
  else if c = '\r' then ['\\', 'r']
  else if c = '\t' then ['\\', 't']
  else if c.toNat = 0 then ['\\', '0']
  else if isUnprintable c then
    ['\\', 'u', Char.ofNat 0x7b] ++ Nat.toDigits 16 c.toNat ++ [Char.ofNat 0x7d]
  else [c]

/-- A text between double quotes. -/
def quote (s : String) : String :=
  String.ofList ('"' :: s.toList.flatMap quoteCharacter ++ ['"'])

/-- What debug views show in place of a secret. -/
def redacted : String := quote "[REDACTED]"

end OpticalBench.Text
