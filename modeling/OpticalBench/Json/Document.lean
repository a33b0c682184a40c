import OpticalBench.Json.Token

/-!
# JSON documents

A `Document` is a JSON text as written: numerals keep their digits, objects keep their fields in
order, repeated keys included, and nothing limits the nesting. What a document means, as a value or
as a record, is decided where it is decoded.

`Document.ofTokens?` reads the tokens one by one. The arrays and objects that are still open are kept
as a stack of `Frame`s, so the reader needs no recursion of its own and its state after any prefix of
the tokens is a value that statements can speak about.
-/

namespace OpticalBench.Json

/-- A JSON text as written. -/
inductive Document
  | null
  | boolean (b : Bool)
  | numeral (n : Numeral)
  | text (content : Option String)
  | array (items : List Document)
  | object (fields : List (Option String × Document))
  deriving Inhabited, Repr, BEq

namespace Document

/-- An array or object that is still open, with what it holds so far, newest first. -/
inductive Frame
  | array (items : List Document)
  | object (fields : List (Option String × Document)) (key : Option String)

/-- What the reader has, and what it waits for. -/
inductive State
  /-- A value must follow. -/
  | value (stack : List Frame)
  /-- An array was opened: a value or the end of it follows. -/
  | firstItem (stack : List Frame)
  /-- An object was opened: a key or the end of it follows. -/
  | firstKey (stack : List Frame)
  /-- A key must follow. -/
  | key (fields : List (Option String × Document)) (stack : List Frame)
  /-- A colon must follow. -/
  | colon (fields : List (Option String × Document)) (key : Option String) (stack : List Frame)
  /-- A value is complete. -/
  | complete (d : Document) (stack : List Frame)

/-- Begin a value. -/
def begin? (stack : List Frame) : Token → Option State
  | .null => some (.complete .null stack)
  | .boolean b => some (.complete (.boolean b) stack)
  | .numeral n => some (.complete (.numeral n) stack)
  | .text content => some (.complete (.text content) stack)
  | .openBracket => some (.firstItem stack)
  | .openBrace => some (.firstKey stack)
  | _ => none

/-- Go on after a complete value. -/
def continue? (d : Document) : List Frame → Token → Option State
  | .array items :: stack, .comma => some (.value (.array (d :: items) :: stack))
  | .array items :: stack, .closeBracket => some (.complete (.array (d :: items).reverse) stack)
  | .object fields key :: stack, .comma => some (.key ((key, d) :: fields) stack)
  | .object fields key :: stack, .closeBrace =>
    some (.complete (.object ((key, d) :: fields).reverse) stack)
  | _, _ => none

/-- Read one token. -/
def step? : State → Token → Option State
  | .value stack, t => begin? stack t
  | .firstItem stack, .closeBracket => some (.complete (.array []) stack)
  | .firstItem stack, t => begin? (.array [] :: stack) t
  | .firstKey stack, .closeBrace => some (.complete (.object []) stack)
  | .firstKey stack, .text k => some (.colon [] k stack)
  | .firstKey _, _ => none
  | .key fields stack, .text k => some (.colon fields k stack)
  | .key _ _, _ => none
  | .colon fields k stack, .colon => some (.value (.object fields k :: stack))
  | .colon _ _ _, _ => none
  | .complete d stack, t => continue? d stack t

/-- The document that a list of tokens is. -/
def ofTokens? (tokens : List Token) : Option Document :=
  match tokens.foldlM step? (.value []) with
  | some (.complete d []) => some d
  | _ => none

/-- The document that a text is. -/
def read? (s : String) : Option Document := (Token.scan? s.toList).bind ofTokens?

end Document

end OpticalBench.Json
