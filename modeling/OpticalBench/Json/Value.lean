import OpticalBench.Json.Document
import OpticalBench.Json.Number
import OpticalBench.Text.Quoted
import OpticalBench.TextMap

/-!
# JSON values

A `Value` is what a document means: numbers are read, of fields with one key the last one counts, and
the fields of an object come in ascending order of their keys. A value that is about to be written
may have its fields in any order, and `characters` writes them in the order they have.

- `ofDocument?`: the value of a document, which may nest `budget` levels deep.
- `read?`: the value of a text.
- `Diagnosis`: what is said about a text that has no value.
- `render`: the compact text of a value.
- `get?`: a field of an object.
-/

namespace OpticalBench.Json

/-- A JSON value. -/
inductive Value
  | null
  | boolean (b : Bool)
  | number (n : Number)
  | text (s : String)
  | array (items : List Value)
  | object (fields : List (String × Value))
  deriving Inhabited, Repr, BEq

/-- What is said about a text that is not JSON. The words are those of the reader in use, so they are
given from outside. -/
class Diagnosis where
  describe : String → String

namespace Value

/-- How deep arrays and objects may nest. -/
def maxDepth : Nat := 127

/-- Fields in ascending order of their keys, of those with one key the last. -/
def sortFields (fields : List (String × Value)) : List (String × Value) :=
  fields.foldl (fun sorted e => TextMap.insertEntry e.1 e.2 sorted) []

/-! ## Reading -/

mutual

/-- The value of a document that nests at most `budget` levels deep. -/
def ofDocument? (budget : Nat) : Document → Option Value
  | .null => some .null
  | .boolean b => some (.boolean b)
  | .numeral n => (Number.ofNumeral? n).map .number
  | .text content => content.map .text
  | .array items =>
    match budget with
    | 0 => none
    | rest + 1 => (ofItems? rest items).map .array
  | .object fields =>
    match budget with
    | 0 => none
    | rest + 1 => (ofFields? rest fields).map fun fs => .object (sortFields fs)

/-- The values of documents. -/
def ofItems? (budget : Nat) : List Document → Option (List Value)
  | [] => some []
  | d :: ds => do
    let v ← ofDocument? budget d
    let vs ← ofItems? budget ds
    some (v :: vs)

/-- The values of fields. -/
def ofFields? (budget : Nat) : List (Option String × Document) → Option (List (String × Value))
  | [] => some []
  | (key, d) :: rest => do
    let k ← key
    let v ← ofDocument? budget d
    let vs ← ofFields? budget rest
    some ((k, v) :: vs)

end

/-- The value of a text. -/
def read? (s : String) : Option Value := (Document.read? s).bind (ofDocument? maxDepth)

/-! ## Writing -/

mutual

/-- The tokens of a value. -/
def tokens : Value → List Token
  | .null => [.null]
  | .boolean b => [.boolean b]
  | .number n => [.numeral n.numeral]
  | .text s => [.text (some s)]
  | .array items => .openBracket :: itemTokens true items ++ [.closeBracket]
  | .object fields => .openBrace :: fieldTokens true fields ++ [.closeBrace]

/-- The tokens of items, with a comma in front of all but the first. -/
def itemTokens (first : Bool) : List Value → List Token
  | [] => []
  | v :: vs => (if first then [] else [.comma]) ++ v.tokens ++ itemTokens false vs

/-- The tokens of fields, with a comma in front of all but the first. -/
def fieldTokens (first : Bool) : List (String × Value) → List Token
  | [] => []
  | (k, v) :: rest =>
    (if first then [] else [.comma]) ++ .text (some k) :: .colon :: v.tokens ++
      fieldTokens false rest

end

/-- The compact text of a value, as characters. -/
def characters (v : Value) : List Char := v.tokens.flatMap Token.characters

/-- The compact text of a value. -/
def render (v : Value) : String := String.ofList v.characters

/-! ## Building -/

/-- A floating-point number; what is not finite becomes `null`. -/
def ofBinary64 (x : Binary64) : Value := if x.isFinite then .number (.float x) else .null

/-- A natural number. -/
def ofNat (n : Nat) : Value := .number (.integer n)

/-- An object with the entries of a map. -/
def ofTextMap {α : Type} (f : α → Value) (m : TextMap α) : Value :=
  .object (m.entries.map fun e => (e.1, f e.2))

/-! ## Looking into a value -/

/-- The field with a key; only objects have fields. Of fields with one key the last counts. -/
def get? (v : Value) (key : String) : Option Value :=
  match v with
  | .object fields => TextMap.lookup? key fields.reverse
  | _ => none

/-- The fields of an object as a map. -/
def fields? : Value → Option (TextMap Value)
  | .object fields => some (TextMap.ofList fields)
  | _ => none

/-- The content of a text. -/
def text? : Value → Option String
  | .text s => some s
  | _ => none

/-- The truth value that a boolean is. -/
def boolean? : Value → Option Bool
  | .boolean b => some b
  | _ => none

/-- What kind of value this is, as a noun with its article. -/
def kindName : Value → String
  | .null => "null"
  | .boolean _ => "a boolean"
  | .number _ => "a number"
  | .text _ => "a string"
  | .array _ => "an array"
  | .object _ => "an object"

/-! ## Debug text -/

mutual

/-- The debug text of a value names the kind of every part. -/
def debugText : Value → String
  | .null => "Null"
  | .boolean b => "Bool(" ++ (if b then "true" else "false") ++ ")"
  | .number n => "Number(" ++ String.ofList (n.numeral.characters true) ++ ")"
  | .text s => "String(" ++ Text.quote s ++ ")"
  | .array items => "Array [" ++ debugItems true items ++ "]"
  | .object fields => "Object \x7b" ++ debugFields true fields ++ "\x7d"

/-- The debug texts of items, separated by commas. -/
def debugItems (first : Bool) : List Value → String
  | [] => ""
  | v :: vs => (if first then "" else ", ") ++ v.debugText ++ debugItems false vs

/-- The debug texts of fields, separated by commas. -/
def debugFields (first : Bool) : List (String × Value) → String
  | [] => ""
  | (k, v) :: rest =>
    (if first then "" else ", ") ++ Text.quote k ++ ": " ++ v.debugText ++ debugFields false rest

end

end Value

end OpticalBench.Json
