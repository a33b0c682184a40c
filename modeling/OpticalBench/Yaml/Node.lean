import OpticalBench.TextMap
import OpticalBench.Yaml.Token

/-!
# YAML documents

A node is a scalar, a sequence or a mapping, or refers to the node with an anchor. Such a reference
stays what it is, because the node that it refers to may enclose it.

- `Document`: a node with the nodes that have anchors.
- `Document.ofTokens?`: the only document in some tokens. Nodes are read by recursive descent.
- `Document.read?`: the document of a text.
-/

namespace OpticalBench.Yaml

/-- The content of a document. -/
inductive Node
  | scalar (text : String) (style : ScalarStyle) (tag : Option String)
  | sequence (items : List Node)
  | mapping (entries : List (Node × Node))
  /-- The node with an anchor. -/
  | alias (slot : Nat)
  deriving Inhabited, Repr

/-- What is taken for a node that is missing. -/
def Node.missing : Node := .scalar "" .plain none

/-- A document: its content, and which nodes have anchors. Anchors are known by the numbers of slots. -/
structure Document where
  root : Node
  /-- Which node is in a slot, the latest first. -/
  slots : List (Nat × Nat)
  /-- The nodes with anchors, each with its number. -/
  anchored : List (Nat × Node)

namespace Document

/-! ## The state of reading -/

/-- What is left to read, and what is known about handles and anchors. -/
structure Reader where
  tokens : List Token
  /-- What handles stand for. -/
  handles : List (String × String)
  /-- The slots of names. -/
  names : List (String × Nat)
  slots : List (Nat × Nat)
  anchored : List (Nat × Node)
  /-- How many nodes with anchors have been started. -/
  started : Nat

/-- A step of reading, which may fail. -/
abbrev Reading := StateT Reader Option

namespace Reading

/-- The next token. -/
def peek : Reading (Option Token) := do return (← get).tokens.head?

/-- Pass over the next token. -/
def advance : Reading Unit := modify fun r => { r with tokens := r.tokens.drop 1 }

/-- Pass over the next token if it is the given one. -/
def accept (t : Token) : Reading Bool := do
  if (← peek) == some t then
    advance
    return true
  else return false

/-- Pass over the next token, which has to be the given one. -/
def expect (t : Token) : Reading Unit := do
  if !(← accept t) then failure

/-! ## Anchors and tags -/

/-- Start a node with an anchor. A name that is used for the first time gets the next slot; a name
that is used again gets it too, but the slot after it is then not a new one. -/
def start (name : String) : Reading Nat := do
  let r ← get
  let slot := r.names.length
  set { r with
    names := (name, slot) :: r.names.filter (·.1 != name)
    slots := (slot, r.started) :: r.slots
    started := r.started + 1 }
  return r.started

/-- The slot of a name. -/
def slot (name : String) : Reading Nat := do
  match TextMap.lookup? name (← get).names with
  | some slot => return slot
  | none => failure

/-- The address that a tag is. -/
def address (t : Tag) : Reading String := do
  if t.handle.isEmpty then return t.suffix
  else match TextMap.lookup? t.handle (← get).handles with
    | some meaning => return meaning ++ t.suffix
    | none => failure

/-- An anchor, if there is one. -/
def anchor : Reading (Option String) := do
  match ← peek with
  | some (.anchor name) => advance; return some name
  | _ => return none

/-- A tag, if there is one. -/
def tag : Reading (Option Tag) := do
  match ← peek with
  | some (.tag t) => advance; return some t
  | _ => return none

/-- The anchor and the tag of a node, in either order. -/
def properties : Reading (Option String × Option String) := do
  let before ← anchor
  let tag ← tag
  let anchor ← if before.isSome then pure before else anchor
  return (anchor, ← tag.mapM address)

/-! ## Nodes -/

/-- Where a node stands, as far as it decides which nodes can stand there. -/
inductive Position
  /-- In a flow sequence. -/
  | flowSequence
  /-- In a flow mapping. -/
  | flowMapping
  /-- In a block sequence, or at the top. -/
  | block
  /-- In a block sequence that is not indented against its key. -/
  | level
  /-- In a block mapping: a sequence needs no deeper indentation there. -/
  | blockMapping
  deriving DecidableEq

/-- Whether a position is in a flow collection. -/
def Position.inFlow : Position → Bool
  | flowSequence | flowMapping => true
  | block | level | blockMapping => false

/-- Whether a node is missing in front of a token, at a position. -/
def Position.endsAt (position : Position) : Token → Bool
  | .entry => position == .block || position == .level
  | .key => position == .blockMapping || position == .level
  | .value => position == .blockMapping || position == .level
  | .blockEnd => !position.inFlow
  | .comma => position.inFlow
  | .closeBracket => position == .flowSequence
  | .closeBrace => position == .flowMapping
  | _ => false

mutual

/-- The node at the front. -/
def node (position : Position) : Nat → Reading Node
  | 0 => failure
  | fuel + 1 => do
    if let some (.alias name) ← peek then
      advance
      return .alias (← slot name)
    let (name, tag) ← properties
    let number ← name.mapM start
    let n ← content position tag (name.isSome || tag.isSome) fuel
    modify fun r => { r with anchored := (number.map (·, n)).toList ++ r.anchored }
    return n

/-- The node at the front, without its properties. A node with properties needs no more. -/
def content (position : Position) (tag : Option String) (hasProperties : Bool) : Nat → Reading Node
  | 0 => failure
  | fuel + 1 => do
    let next ← peek
    match next, position.inFlow with
    | some (.scalar text style), _ =>
      advance
      return .scalar text style (tag.filter (· != "!"))
    | some .openBracket, _ => advance; return .sequence (← flowItems true fuel)
    | some .openBrace, _ => advance; return .mapping (← flowEntries true fuel)
    | some .blockSequenceStart, false => advance; return .sequence (← blockItems fuel)
    | some .blockMappingStart, false => advance; return .mapping (← blockEntries fuel)
    | _, _ =>
      if next == some .entry && position == .blockMapping then
        return .sequence (← levelItems fuel)
      else if hasProperties then return .scalar "" .plain tag
      else failure

/-- The node at the front, or a missing one. -/
def nodeOrMissing (position : Position) : Nat → Reading Node
  | 0 => failure
  | fuel + 1 => do
    if (← peek).any position.endsAt then return .missing else node position fuel

/-- The items of a block sequence. -/
def blockItems : Nat → Reading (List Node)
  | 0 => failure
  | fuel + 1 => do
    if ← accept .entry then
      let x ← nodeOrMissing .block fuel
      return x :: (← blockItems fuel)
    else
      expect .blockEnd
      return []

/-- The items of a sequence that is not indented against its key. -/
def levelItems : Nat → Reading (List Node)
  | 0 => failure
  | fuel + 1 => do
    if ← accept .entry then
      let x ← nodeOrMissing .level fuel
      return x :: (← levelItems fuel)
    else return []

/-- The entries of a block mapping. -/
def blockEntries : Nat → Reading (List (Node × Node))
  | 0 => failure
  | fuel + 1 => do
    if ← accept .key then
      let k ← nodeOrMissing .blockMapping fuel
      let v ← if ← accept .value then nodeOrMissing .blockMapping fuel else pure .missing
      return (k, v) :: (← blockEntries fuel)
    else
      expect .blockEnd
      return []

/-- The items of a flow sequence. A key with its value is an item of its own. -/
def flowItems (first : Bool) : Nat → Reading (List Node)
  | 0 => failure
  | fuel + 1 => do
    if ← accept .closeBracket then return []
    if !first then expect .comma
    if ← accept .closeBracket then return []
    let x ← if ← accept .key then flowPair fuel else node .flowSequence fuel
    return x :: (← flowItems false fuel)

/-- A key with its value in a flow sequence. Where the key is missing, the token that shows it is
passed over, whichever it is, so that no value is found behind it. -/
def flowPair : Nat → Reading Node
  | 0 => failure
  | fuel + 1 => do
    let k ← match ← peek with
      | some .value | some .comma | some .closeBracket => advance; pure .missing
      | _ => node .flowSequence fuel
    let v ← if ← accept .value then nodeOrMissing .flowSequence fuel else pure .missing
    return .mapping [(k, v)]

/-- The entries of a flow mapping. A key may stand without a value. -/
def flowEntries (first : Bool) : Nat → Reading (List (Node × Node))
  | 0 => failure
  | fuel + 1 => do
    if ← accept .closeBrace then return []
    if !first then expect .comma
    if ← accept .closeBrace then return []
    if ← accept .key then
      let k ← match ← peek with
        | some .value => pure .missing
        | _ => nodeOrMissing .flowMapping fuel
      let v ← if ← accept .value then nodeOrMissing .flowMapping fuel else pure .missing
      return (k, v) :: (← flowEntries false fuel)
    else
      let k ← node .flowMapping fuel
      return (k, .missing) :: (← flowEntries false fuel)

end

/-! ## Documents -/

/-- The directives in front of a document. There is at most one about the version, which has to be
1.1 or 1.2, and at most one about a handle. -/
def directives (versioned : Bool) : Nat → Reading Unit
  | 0 => failure
  | fuel + 1 => do
    match ← peek with
    | some (.directive (.version major minor)) =>
      if versioned || major != 1 || !(minor == 1 || minor == 2) then failure
      advance
      directives true fuel
    | some (.directive (.handle name meaning)) =>
      let r ← get
      if r.handles.any (·.1 == name) then failure
      set { r with handles := (name, meaning) :: r.handles }
      advance
      directives versioned fuel
    | _ => return

/-- The handles that stand for something without any directive. -/
def commonHandles : List (String × String) := [("!", "!"), ("!!", "tag:yaml.org,2002:")]

/-- Add the common handles, except those that have got another meaning. -/
def addCommonHandles : Reading Unit :=
  modify fun r => { r with
    handles := r.handles ++ commonHandles.filter fun h => !r.handles.any (·.1 == h.1) }

/-- Whether the next token starts no content of a document whose start is marked. -/
def endsContent (t : Token) : Bool :=
  t.isDirective || t == .documentStart || t == .documentEnd

/-- The content of the first document. Its start need not be marked, unless it is empty or directives
precede it. -/
def firstDocument (fuel : Nat) : Reading Node := do
  let directed := (← peek).any Token.isDirective
  directives false fuel
  addCommonHandles
  if ← accept .documentStart then
    match ← peek with
    | none => return .missing
    | some t => if endsContent t then return .missing else node .block fuel
  else if directed then failure
  else node .block fuel

end Reading

/-- The only document in some tokens. -/
def ofTokens? (tokens : List Token) : Option Document := do
  if tokens.isEmpty then some ⟨.missing, [], []⟩
  else
    let (root, r) ← Reading.firstDocument (4 * tokens.length + 4) ⟨tokens, [], [], [], [], 0⟩
    if r.tokens.all (· == .documentEnd) then some ⟨root, r.slots, r.anchored⟩ else none

/-- The document of a text. -/
def read? (s : String) : Option Document := (Token.scan? s).bind ofTokens?

end Document

end OpticalBench.Yaml
