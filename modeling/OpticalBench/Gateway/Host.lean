import OpticalBench.Binary64.Reading
import OpticalBench.DomainName.Reading

/-!
# Hosts

The host in an address is a domain name, an IPv4 address, or, between brackets, an IPv6 address. A name
whose last label is a number is meant as an IPv4 address: up to four numbers between points, the last of
which fills the bytes that are left. They may be decimal, octal after a zero, or hexadecimal after `0x`.
An IPv6 address is eight pieces between colons, of which a double colon leaves out some that are zero;
the last two may be written as four decimal bytes between points.

- `Host.read?`: the host that a text is.
- `Host.text`: the normal form of a host.
-/

namespace OpticalBench

/-- A host in normal form. -/
inductive Host
  | name (s : String)
  | ipv4 (address : UInt32)
  | ipv6 (pieces : Vector UInt16 8)
  deriving DecidableEq, Inhabited, Repr

namespace Host

/-! ## IPv4 addresses -/

/-- A number in decimal, octal or hexadecimal digits. The prefixes alone are zero. -/
def readNumber? (cs : List Char) : Option Nat :=
  match cs with
  | [] => none
  | '0' :: 'x' :: ds => Json.hexNumber? ds
  | '0' :: ds =>
    if ds.all fun c => decide ('0' ≤ c) && decide (c ≤ '7') then
      some (ds.foldl (fun n c => n * 8 + (c.toNat - '0'.toNat)) 0)
    else none
  | ds => if ds.all Char.isDigit then some (digitsValue ds) else none

/-- The labels of a name, without an empty one at the end. -/
def labels (name : List Char) : List (List Char) :=
  let all := Text.fields (· == '.') name
  if all.getLast? = some [] then all.dropLast else all

/-- Whether a label shows that an IPv4 address is meant. -/
def looksNumeric (label : List Char) : Bool :=
  !label.isEmpty && label.all Char.isDigit || (readNumber? label).isSome

/-- Whether a name is meant as an IPv4 address: its last label is a number. -/
def isNumeric (name : List Char) : Bool := ((labels name).getLast?.map looksNumeric).getD false

/-- The number that up to four numbers are: all but the last are bytes, and the last has the bytes that
are left. -/
def combine? (numbers : List Nat) : Option Nat :=
  match numbers.getLast? with
  | none => none
  | some last =>
    let bytes := numbers.dropLast
    if 3 < bytes.length || bytes.any (decide <| 255 < ·) ||
        Nat.pow 256 (4 - bytes.length) ≤ last then none
    else some (bytes.foldl (fun n b => n * 256 + b) 0 * Nat.pow 256 (4 - bytes.length) + last)

/-- The IPv4 address that a name is meant as. -/
def readIpv4? (name : List Char) : Option UInt32 :=
  (((labels name).mapM readNumber?).bind combine?).map UInt32.ofNat

/-- The bytes of an IPv4 address. -/
def bytes (n : Nat) : List Nat := [n / 0x1000000 % 256, n / 0x10000 % 256, n / 256 % 256, n % 256]

/-! ## IPv6 addresses -/

/-- A piece: one to four hexadecimal digits. -/
def readPiece? (cs : List Char) : Option UInt16 :=
  if cs.isEmpty || 4 < cs.length then none else (Json.hexNumber? cs).map UInt16.ofNat

/-- A decimal byte, without needless zeros. -/
def readByte? (cs : List Char) : Option Nat :=
  if cs.isEmpty || !cs.all Char.isDigit || (cs.head? == some '0' && 1 < cs.length) ||
      255 < digitsValue cs then none
  else some (digitsValue cs)

/-- Two pieces, written as four decimal bytes. -/
def readBytes? (cs : List Char) : Option (List UInt16) :=
  match (Text.fields (· == '.') cs).mapM readByte? with
  | some [a, b, c, d] => some [.ofNat (a * 256 + b), .ofNat (c * 256 + d)]
  | _ => none

/-- Pieces between colons, the last of which may be written as bytes if they end the address. -/
def readPieces? (endsAddress : Bool) : List (List Char) → Option (List UInt16)
  | [] => some []
  | [last] =>
    if endsAddress && last.contains '.' then readBytes? last else (readPiece? last).map ([·])
  | first :: rest => do
    let piece ← readPiece? first
    let pieces ← readPieces? endsAddress rest
    some (piece :: pieces)

/-- The pieces on one side of a double colon, which may be none. -/
def readSide? (endsAddress : Bool) (cs : List Char) : Option (List UInt16) :=
  if cs.isEmpty then some [] else readPieces? endsAddress (Text.fields (· == ':') cs)

/-- What stands before and after the first double colon. -/
def atDoubleColon? : List Char → Option (List Char × List Char)
  | ':' :: ':' :: rest => some ([], rest)
  | c :: rest => (atDoubleColon? rest).map fun (before, after) => (c :: before, after)
  | [] => none

/-- The eight pieces of an IPv6 address. A double colon leaves out at least one. -/
def readIpv6? (cs : List Char) : Option (Vector UInt16 8) := do
  let (before, left, after) ← match atDoubleColon? cs with
    | some (before, after) => do
      let before ← readSide? false before
      let after ← readSide? true after
      if before.length + after.length < 8 then
        some (before, 8 - before.length - after.length, after)
      else none
    | none => do some (← readSide? true cs, 0, [])
  let pieces := before ++ List.replicate left 0 ++ after
  if h : pieces.length = 8 then some ⟨pieces.toArray, h⟩ else none

/-- How many pieces in front are zero. -/
def zeros (pieces : List UInt16) : Nat := (pieces.takeWhile (· == 0)).length

/-- The place and the length of the longest run of zeros, the first of those that are equally long. -/
def longestZeros (pieces : List UInt16) : Nat × Nat :=
  (List.range pieces.length).foldl
    (fun best i => if best.2 < zeros (pieces.drop i) then (i, zeros (pieces.drop i)) else best) (0, 0)

/-- A piece in hexadecimal digits. -/
def pieceText (n : UInt16) : String := String.ofList (Nat.toDigits 16 n.toNat)

/-- Pieces between colons. -/
def piecesText (pieces : List UInt16) : String := String.intercalate ":" (pieces.map pieceText)

/-- An IPv6 address. A double colon leaves out the longest run of two or more zeros. -/
def ipv6Text (pieces : List UInt16) : String :=
  let (place, length) := longestZeros pieces
  if length < 2 then piecesText pieces
  else piecesText (pieces.take place) ++ "::" ++ piecesText (pieces.drop (place + length))

/-! ## Hosts -/

/-- The bytes of a text in which a percent sign and two hexadecimal digits stand for a byte. -/
def unescape : List Char → List UInt8
  | '%' :: a :: b :: rest =>
    match Json.hexNumber? [a, b] with
    | some n => .ofNat n :: unescape rest
    | none => '%'.toUInt8 :: unescape (a :: b :: rest)
  | c :: rest => (String.singleton c).toUTF8.toList ++ unescape rest
  | [] => []

/-- The name, or the IPv4 address, that characters are. -/
def readName? (cs : List Char) : Option Host := do
  let written ← String.fromUTF8? ⟨(unescape cs).toArray⟩
  let name ← DomainName.read? written.toList
  if name.isEmpty then none
  else if isNumeric name then (readIpv4? name).map ipv4
  else some (.name (String.ofList name))

/-- The host that characters are. -/
def read? (cs : List Char) : Option Host :=
  match cs with
  | '[' :: rest =>
    if rest.getLast? = some ']' then (readIpv6? rest.dropLast).map ipv6 else none
  | cs => readName? cs

/-- The normal form of a host. -/
def text : Host → String
  | name s => s
  | ipv4 address => String.intercalate "." ((bytes address.toNat).map fun b => toString b)
  | ipv6 pieces => "[" ++ ipv6Text pieces.toList ++ "]"

end Host

end OpticalBench
