import OpticalBench.DomainName.Direction
import OpticalBench.DomainName.Joining
import OpticalBench.DomainName.Punycode
import OpticalBench.DomainName.Replacement

/-!
# Domain names

A domain name consists of labels with points between them. It may be written with any letters; in its
normal form letters are small and every label is ASCII, where a label that is not ASCII has been encoded
and starts with `xn--`. A label may be given in encoded form, too.

- `DomainName.labels?`: the decoded labels of a name, each of which has to be well-formed.
- `DomainName.read?`: the normal form of a name.
-/

namespace OpticalBench.DomainName

/-- Whether a character is ASCII. -/
def isAscii (c : Char) : Bool := decide (c.toNat < 0x80)

/-- Whether a name cannot hold an ASCII character. -/
def isForbidden (c : Char) : Bool :=
  decide (c.toNat ≤ 0x20) || c.toNat == 0x7f || "%#/:<>?@[\\]^|".toList.contains c

/-- What an encoded label starts with. -/
def encodedMark : List Char := "xn--".toList

/-! ## Labels -/

/-- How many characters an encoded label may have after the mark. -/
def longestEncoded : Nat := 2000

/-- How many characters a label may have that has to be encoded. -/
def longestDecoded : Nat := 1000

/-- Whether a text is what decoding may give: nothing in it would be replaced, refused or composed. -/
def isNormal (label : List Char) : Bool :=
  label.all (fun c => replace? c == some [c]) && normalize label == label

/-- The label that was encoded. What would not have needed it is not to be encoded. -/
def decodeLabel? (encoded : List Char) : Option (List Char) :=
  if longestEncoded < encoded.length || encoded.isEmpty || encoded.getLast? == some '-' ||
      !encoded.all isAscii then none
  else (Punycode.decode? encoded).bind fun label => if isNormal label then some label else none

/-- The label that characters are, decoded. -/
def label? (cs : List Char) : Option (List Char) :=
  if encodedMark.isPrefixOf cs then decodeLabel? (cs.drop encodedMark.length) else some cs

/-- Whether a decoded label holds only what it may, and everything where it may be. -/
def isWellFormed (label : List Char) : Bool :=
  !label.any isForbidden && !(label.head?.map isMark).getD false && joinersFit label

/-- A decoded label in ASCII characters. -/
def encodeLabel? (label : List Char) : Option (List Char) :=
  if label.all isAscii then some label
  else if longestDecoded < label.length then none
  else some (encodedMark ++ Punycode.encode label)

/-! ## Names -/

/-- The decoded labels of a name. If one of them turns the direction of writing, all have to keep to
one direction. -/
def labels? (name : List Char) : Option (List (List Char)) := do
  let replaced ← name.mapM replace?
  let labels ← (Text.fields (· == '.') (normalize replaced.flatten)).mapM label?
  if !labels.all isWellFormed then none
  else if labels.any (·.any turns) && !labels.all isDirected then none
  else some labels

/-- Put points between labels. -/
def joinLabels (labels : List (List Char)) : List Char := ['.'].intercalate labels

/-- The normal form of a name. -/
def read? (name : List Char) : Option (List Char) :=
  ((labels? name).bind (·.mapM encodeLabel?)).map joinLabels

end OpticalBench.DomainName
