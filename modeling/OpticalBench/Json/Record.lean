import OpticalBench.Json.Value
import OpticalBench.Record

/-!
# Records in JSON documents

A record is written as an object with its fields by name, or as an array with its fields by position:
there may not be more items than fields, but trailing fields may be missing. The other functions say
what the content of a field can be taken for.
-/

namespace OpticalBench.Json.Document

/-- The record that a document is. -/
def record? (declared : List String) : Document → Option (Record Document)
  | .object fields => (Record.declared? declared fields).map fun found => ⟨true, found⟩
  | .array items =>
    if items.length ≤ declared.length then some ⟨false, declared.zip items⟩ else none
  | _ => none

/-- Decode what is not `null`. -/
def nullable? {α : Type} (decode : Document → Option α) : Document → Option (Option α)
  | .null => some none
  | d => (decode d).map some

/-- The truth value that a document is. -/
def boolean? : Document → Option Bool
  | .boolean b => some b
  | _ => none

/-- The text that a document is. -/
def text? : Document → Option String
  | .text content => content
  | _ => none

/-- The integer from zero up to a limit that a document is. -/
def natural? (limit : Nat) : Document → Option Nat
  | .numeral n =>
    match Number.ofNumeral? n with
    | some (.integer (.ofNat k)) => if k ≤ limit then some k else none
    | _ => none
  | _ => none

/-- The number that a document is; integers are accepted too. -/
def binary64? : Document → Option Binary64
  | .numeral n => (Number.ofNumeral? n).map Number.toBinary64
  | _ => none

/-- Decode every item. -/
def items? {α : Type} (decode : Document → Option α) : Document → Option (List α)
  | .array items => items.mapM decode
  | _ => none

/-- Decode every field into a map. Of fields with one key the last wins, but each must be decodable. -/
def textMap? {α : Type} (decode : Document → Option α) : Document → Option (TextMap α)
  | .object fields =>
    (fields.mapM fun (e : Option String × Document) => do
      let k ← e.1
      let a ← decode e.2
      some (k, a)).map TextMap.ofList
  | _ => none

/-- One of several names: either the name itself, or an object with the name as its only key and
`null` as its value. -/
def name? : Document → Option String
  | .text content => content
  | .object [(some key, .null)] => some key
  | _ => none

end OpticalBench.Json.Document
