import OpticalBench.Json.Value
import OpticalBench.Text.Blank
import OpticalBench.Text.Substitution

/-!
# Dictionary literals

Some services report a map as the text of a dictionary literal: keys in single quotes, values perhaps
wrapped as numpy scalars such as `np.float64(0.5)`, the whole perhaps wrapped in `dict(...)` or
`OrderedDict(...)`, the latter also around a list of pairs. Such a text is turned into JSON, in
steps that change nothing but the notation, and then read as JSON.

- `unwrapScalars`: takes numbers out of their numpy wrappers.
- `stripWrapper`: takes the dictionary out of its wrapper.
- `read?`: the JSON value of a literal.
-/

namespace OpticalBench.DictLiteral

/-- A character of a function name. -/
def isNameCharacter (c : Char) : Bool := c.isAlphanum || c == '_'

/-- If the text starts with `np.` and a name: what is kept of this part of the text, and how many
characters it has. Of a call that is closed somewhere its argument is kept, of anything else all. -/
def scalar? (cs : List Char) : Option (List Char × Nat) :=
  (Text.afterFront? "np.".toList cs).map fun rest =>
    let name := rest.takeWhile isNameCharacter
    let whole := ("np.".toList ++ name, 3 + name.length)
    match rest.dropWhile isNameCharacter with
    | '(' :: inner =>
      if ')' ∈ inner then
        let argument := inner.takeWhile (· != ')')
        (argument, 3 + name.length + 1 + argument.length + 1)
      else whole
    | _ => whole

/-- Take numbers out of their wrappers, after passing `skip` characters. -/
def unwrapFrom : Nat → List Char → List Char
  | _, [] => []
  | skip + 1, _ :: cs => unwrapFrom skip cs
  | 0, c :: cs =>
    match scalar? (c :: cs) with
    | some (kept, length) => kept ++ unwrapFrom (length - 1) cs
    | none => c :: unwrapFrom 0 cs

/-- Take numbers out of their wrappers. -/
def unwrapScalars (cs : List Char) : List Char := unwrapFrom 0 cs

/-- What stands inside a wrapper of a given name, without blanks around it. -/
def inside? (wrapper cs : List Char) : Option (List Char) :=
  ((Text.afterFront? (wrapper ++ ['(']) cs).bind (Text.beforeLast? ')')).map Text.trimCharacters

/-- Take the dictionary out of its wrapper, if it has one. -/
def stripWrapper (cs : List Char) : List Char :=
  (inside? "OrderedDict".toList cs <|> inside? "dict".toList cs).getD cs

/-- Replace one character by another. -/
def swap (old new : Char) (cs : List Char) : List Char :=
  cs.map fun c => if c = old then new else c

/-- Write the constants the way JSON does. -/
def renameConstants (cs : List Char) : List Char :=
  Text.replaceAll "None".toList "null".toList <|
    Text.replaceAll "False".toList "false".toList <|
      Text.replaceAll "True".toList "true".toList cs

/-- The text as JSON, except that tuples still stand in parentheses. -/
def normalize (cs : List Char) : List Char :=
  renameConstants <| unwrapScalars <| swap '\'' '"' <| stripWrapper <| Text.trimCharacters cs

/-- A key and its value, from a list of two. -/
def pair? : Json.Document → Option (String × Json.Value)
  | .array [.text key, d] => do
    let k ← key
    let v ← Json.Value.ofDocument? (Json.Value.maxDepth - 2) d
    some (k, v)
  | _ => none

/-- An object, from a list of pairs. -/
def ofPairs? : Json.Document → Option Json.Value
  | .array items => (items.mapM pair?).map fun fs => .object (Json.Value.sortFields fs)
  | _ => none

/-- The JSON value of a literal. -/
def read? (s : String) : Option Json.Value :=
  let cs := normalize s.toList
  match cs with
  | '[' :: _ =>
    (Json.Document.read? (String.ofList (swap ')' ']' (swap '(' '[' cs)))).bind ofPairs?
  | _ => Json.Value.read? (String.ofList cs)

end OpticalBench.DictLiteral
