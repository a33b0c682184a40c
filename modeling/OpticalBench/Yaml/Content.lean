import OpticalBench.Record
import OpticalBench.Yaml.Node

/-!
# Contents of YAML documents

A content is a node of a document. References to anchors are followed where a content is taken for
something; whether a scalar is plain matters, because only plain scalars can be numbers or nothing.

- `Content.read?`: the content of a text that holds at most one document. An empty document is an
  empty plain scalar.
- `nullable?`, `text?`, `natural?`, `record?`: what a content can be taken for.
-/

namespace OpticalBench.Yaml

/-- A node of a document. -/
structure Content where
  document : Document
  node : Node

namespace Content

/-- The content of a text. -/
def read? (s : String) : Option Content := (Document.read? s).map fun d => ⟨d, d.root⟩

/-- The node itself, or the one that it refers to. -/
def target (c : Content) : Option Node :=
  match c.node with
  | .alias slot => do
    let (_, number) ← c.document.slots.find? (·.1 == slot)
    let (_, n) ← c.document.anchored.find? (·.1 == number)
    some n
  | n => some n

/-- The text of a scalar. -/
def text? (c : Content) : Option String :=
  match c.target with
  | some (.scalar text _ _) => some text
  | _ => none

/-! ## Nothing -/

/-- The address of the type of nothing. -/
def nothingTag : String := "tag:yaml.org,2002:null"

/-- Whether a text says that there is nothing. -/
def saysNothing (text : String) : Bool := text ∈ ["~", "null", "Null", "NULL"]

/-- Whether a node says that there is nothing; none if its tag promises that without need. -/
def isNothing? : Node → Option Bool
  | .scalar text .plain none => some (text.isEmpty || saysNothing text)
  | .scalar text .plain (some tag) =>
    if tag = nothingTag then (if saysNothing text then some true else none) else some false
  | _ => some false

/-- Decode what does not say that there is nothing. -/
def nullable? {α : Type} (decode : Content → Option α) (c : Content) : Option (Option α) := do
  if ← isNothing? (← c.target) then some none else (decode c).map some

/-! ## Numbers -/

/-- Whether digits look like a number but are a text because of a zero in front. -/
def hasNeedlessZero (cs : List Char) : Bool :=
  match cs with
  | '0' :: _ :: _ => cs.all Char.isDigit
  | _ => false

/-- The value of digits in a base. -/
def valueIn? (base : Nat) (cs : List Char) : Option Nat :=
  if cs.isEmpty then none
  else cs.foldlM (fun n c => (Json.hexNumber? [c]).bind fun d =>
    if d < base then some (n * base + d) else none) 0

/-- The natural number that characters are: decimal, or with the mark of another base in front. -/
def number? (cs : List Char) : Option Nat :=
  let cs := match cs with
    | '+' :: rest => rest
    | _ => cs
  match cs with
  | '0' :: 'x' :: rest => valueIn? 16 rest
  | '0' :: 'o' :: rest => valueIn? 8 rest
  | '0' :: 'b' :: rest => valueIn? 2 rest
  | _ => if hasNeedlessZero cs then none else valueIn? 10 cs

/-- The address of the type of integers. -/
def integerTag : String := "tag:yaml.org,2002:int"

/-- The text of a node that may be a number: of a plain scalar, or of a literal one with a tag. -/
def numeral? : Node → Option String
  | .scalar text .plain _ => some text
  | .scalar text .literal (some tag) => if tag = integerTag then some text else none
  | _ => none

/-- The natural number up to a limit that a scalar is. -/
def natural? (limit : Nat) (c : Content) : Option Nat := do
  let text ← numeral? (← c.target)
  (number? text.toList).filter (· ≤ limit)

/-! ## Records -/

/-- The record that a mapping is, whose keys must be scalars. A node that is missing is an empty
mapping; one that says that there is nothing is none. -/
def record? (declared : List String) (c : Content) : Option (Record Content) := do
  match ← c.target with
  | .mapping entries =>
    let named := entries.map fun (k, v) => (text? ⟨c.document, k⟩, (⟨c.document, v⟩ : Content))
    (Record.declared? declared named).map fun found => ⟨true, found⟩
  | .scalar "" .plain _ => some ⟨true, []⟩
  | _ => none

end Content

end OpticalBench.Yaml
