import OpticalBench.Yaml.Scalar

/-!
# Properties and directives of YAML

A node can have an anchor, by which other places refer to it, and a tag, which names its type. Tags
are mostly written with a handle, and directives say what a handle stands for.

- `name?`: the name of an anchor.
- `Tag.read?`: a tag.
- `Directive.read?`: a directive.

Each comes with the number of characters that it has.
-/

namespace OpticalBench.Yaml

/-- A character of a name. -/
def isNameCharacter (c : Char) : Bool := c.isAlphanum || c == '_' || c == '-'

/-- The name of an anchor at the front of some characters. Only blanks and certain punctuation may
follow it. -/
def name? (cs : List Char) : Option String :=
  let name := cs.takeWhile isNameCharacter
  let rest := cs.dropWhile isNameCharacter
  if !name.isEmpty && (atBlank rest || rest.head?.any "?:,]\x7d%@\x60".toList.contains) then
    some (String.ofList name)
  else none

/-! ## Addresses -/

/-- A character of the address of a type, in angle brackets or not. -/
def isAddressCharacter (bracketed : Bool) (c : Char) : Bool :=
  isNameCharacter c || ";/?:@&=+$.!~*'()".toList.contains c ||
    (bracketed && ",[]".toList.contains c)

/-- How many bytes follow the first one of an encoded character. -/
def bytesAfter? (first : Nat) : Option Nat :=
  if first < 0x80 then some 0
  else if first / 32 = 6 then some 1
  else if first / 16 = 14 then some 2
  else if first / 8 = 30 then some 3
  else none

/-- An address at the front of some characters, and what follows it. A percent sign and two digits
are a byte, of which `pending` more belong to the character that was started. -/
def address? (bracketed : Bool) (pending : Nat) : List Char → Option (List Char × List Char)
  | '%' :: a :: b :: rest => do
    let byte ← Json.hexNumber? [a, b]
    let pending ← match pending with
      | 0 => bytesAfter? byte
      | pending + 1 => if byte / 64 = 2 then some pending else none
    let (cs, rest) ← address? bracketed pending rest
    some (Char.ofNat byte :: cs, rest)
  | c :: rest =>
    if pending ≠ 0 ∨ c = '%' then none
    else if isAddressCharacter bracketed c then
      (address? bracketed 0 rest).map fun (cs, rest) => (c :: cs, rest)
    else some ([], c :: rest)
  | [] => if pending ≠ 0 then none else some ([], [])

/-! ## Tags -/

/-- A tag: a handle, which stands for the beginning of an address, and the rest of the address. -/
structure Tag where
  handle : String
  suffix : String
  deriving DecidableEq, Inhabited, Repr

namespace Tag

/-- What may follow a tag. -/
def mayFollow (flow : Bool) (cs : List Char) : Bool :=
  atBlank cs || (flow && cs.head? == some ',')

/-- A tag without its end: the whole address in angle brackets, a handle with the rest of an address,
or the rest of an address after an exclamation mark. -/
def open? (cs : List Char) : Option (Tag × List Char) := do
  match cs.drop 1 with
  | '<' :: rest =>
    let (address, rest) ← address? true 0 rest
    match rest with
    | '>' :: rest => if address.isEmpty then none else some (⟨"", String.ofList address⟩, rest)
    | _ => none
  | rest =>
    let word := rest.takeWhile isNameCharacter
    match rest.dropWhile isNameCharacter with
    | '!' :: rest =>
      let (address, rest) ← address? false 0 rest
      if address.isEmpty then none
      else some (⟨"!" ++ String.ofList word ++ "!", String.ofList address⟩, rest)
    | rest =>
      let (address, rest) ← address? false 0 rest
      let suffix := String.ofList (word ++ address)
      some (if suffix.isEmpty then ⟨"", "!"⟩ else ⟨"!", suffix⟩, rest)

/-- The tag at the front of some characters, which start with an exclamation mark. -/
def read? (flow : Bool) (cs : List Char) : Option (Tag × Nat) :=
  (open? cs).bind fun (tag, rest) =>
    if mayFollow flow rest then some (tag, cs.length - rest.length) else none

end Tag

/-! ## Directives -/

/-- A directive: the version of the language, or what a handle stands for. -/
inductive Directive
  | version (major minor : Nat)
  | handle (name meaning : String)
  deriving DecidableEq, Inhabited, Repr

namespace Directive

/-- A number of at most nine digits, and what follows it. -/
def number? (cs : List Char) : Option (Nat × List Char) :=
  let digits := cs.takeWhile Char.isDigit
  if digits.isEmpty || decide (9 < digits.length) then none
  else some (digits.foldl (fun n c => 10 * n + (c.toNat - 48)) 0, cs.dropWhile Char.isDigit)

/-- Two numbers with a point between them. -/
def version? (cs : List Char) : Option (Directive × List Char) := do
  let (major, rest) ← number? (cs.dropWhile isSpace)
  match rest with
  | '.' :: rest =>
    let (minor, rest) ← number? rest
    some (.version major minor, rest)
  | _ => none

/-- A handle: a name between exclamation marks, or a single one. -/
def handleName? (cs : List Char) : Option (List Char × List Char) :=
  match cs with
  | '!' :: rest =>
    let word := rest.takeWhile isNameCharacter
    match rest.dropWhile isNameCharacter with
    | '!' :: rest => some ('!' :: word ++ ['!'], rest)
    | rest => if word.isEmpty then some (['!'], rest) else none
  | _ => none

/-- A handle and an address. -/
def handle? (cs : List Char) : Option (Directive × List Char) := do
  let (name, rest) ← handleName? (cs.dropWhile isSpace)
  if !rest.head?.any isSpace then none
  else
    let (address, rest) ← address? true 0 (rest.dropWhile isSpace)
    if address.isEmpty || !atBlank rest then none
    else some (.handle (String.ofList name) (String.ofList address), rest)

/-- The directive at the front of some characters, which start with a percent sign, and how many
characters it has. -/
def read? (cs : List Char) : Option (Directive × Nat) := do
  let name := (cs.drop 1).takeWhile isNameCharacter
  let rest := (cs.drop 1).dropWhile isNameCharacter
  let (d, rest) ←
    if !atBlank rest then none
    else if name = "YAML".toList then version? rest
    else if name = "TAG".toList then handle? rest
    else none
  some (d, cs.length - rest.length)

end Directive

end OpticalBench.Yaml
