import OpticalBench.Gateway.Host

/-!
# Addresses of services

An address is read once and then written in one normal form: the scheme in lower case, the host in its
own normal form, no user, no number after the host that the scheme implies, no dot segments, and
characters outside the allowed set written as the hexadecimal numbers of their bytes. Addresses are
`http` or `https`.

- `Url.read?`: the address that a text is.
- `Url.text`: the normal form.
- `Url.canBeSent`: whether a request for an address can be written.
-/

namespace OpticalBench

/-- The schemes of addresses. -/
inductive Url.Scheme
  | http
  | https
  deriving DecidableEq, Inhabited, Repr

/-- An address in normal form. -/
structure Url where
  scheme : Url.Scheme
  host : Host
  /-- The number after the host, unless the scheme implies it. -/
  number : Option Nat
  /-- The segments of the path, at least one. -/
  segments : List String
  query : Option String
  fragment : Option String
  deriving DecidableEq, Inhabited, Repr

namespace Url

/-- The name of a scheme. -/
def Scheme.text : Scheme → String
  | http => "http"
  | https => "https"

/-- The number after the host that a scheme implies. -/
def Scheme.impliedNumber : Scheme → Nat
  | http => 80
  | https => 443

/-! ## Characters that are not written plainly -/

/-- The bytes of a character, each as a percent sign and two hexadecimal digits. -/
def escape (c : Char) : List Char :=
  (String.singleton c).toUTF8.toList.flatMap fun b =>
    '%' :: ((Nat.toDigits 16 (256 + b.toNat)).drop 1).map Char.toUpper

/-- Whether no part of an address holds this character plainly. -/
def isControl (c : Char) : Bool := decide (c.toNat < 0x20) || decide (0x7e < c.toNat)

/-- Escape controls, characters beyond ASCII, and some others. -/
def escapeAll (others : String) (cs : List Char) : String :=
  String.ofList (cs.flatMap fun c =>
    if isControl c || others.toList.contains c then escape c else [c])

/-- What is escaped in a path besides. -/
def pathEscapes : String := " \"<>\x60#?\x7b\x7d"

/-- What is escaped in a query besides. -/
def queryEscapes : String := " \"#<>'"

/-- What is escaped in a fragment besides. -/
def fragmentEscapes : String := " \"<>\x60"

/-! ## Reading -/

/-- A character that ends the authority. -/
def endsAuthority (c : Char) : Bool := c == '/' || c == '\\' || c == '?' || c == '#'

/-- The host in an authority, and what follows it: a colon outside brackets ends it. -/
def splitHost (isInside : Bool) : List Char → List Char × List Char
  | [] => ([], [])
  | c :: cs =>
    if c == ':' && !isInside then ([], c :: cs)
    else
      let (host, rest) := splitHost (c == '[' || isInside && c != ']') cs
      (c :: host, rest)

/-- What follows the host: nothing, or a colon and a number of 16 bits. A number that the scheme
implies is left out, and so is a colon alone. -/
def number? (scheme : Scheme) (cs : List Char) : Option (Option Nat) :=
  let digits := cs.drop 1
  if !digits.all Char.isDigit || decide (0x10000 ≤ digitsValue digits) then none
  else if digits.isEmpty || digitsValue digits == scheme.impliedNumber then some none
  else some (some (digitsValue digits))

/-- The host and the number that an authority names. -/
def authority? (scheme : Scheme) (cs : List Char) : Option (Host × Option Nat) := do
  let (host, rest) := splitHost false cs
  let host ← Host.read? host
  let number ← number? scheme rest
  some (host, number)

/-- What follows the last `@`, or everything. -/
def withoutUser (cs : List Char) : List Char := (cs.reverse.takeWhile (· != '@')).reverse

/-- Whether a segment means the current level. -/
def isDot (segment : List Char) : Bool :=
  (String.ofList segment).map Char.toLower ∈ [".", "%2e"]

/-- Whether a segment means the level above. -/
def isDoubleDot (segment : List Char) : Bool :=
  (String.ofList segment).map Char.toLower ∈ ["..", ".%2e", "%2e.", "%2e%2e"]

/-- Follow segments from a path, given from its end. The last segment never disappears without a
trace: a dot segment there leaves an empty one. -/
def follow (path : List String) : List (List Char) → List String
  | [] => path
  | segment :: rest =>
    let last := if rest.isEmpty then [""] else []
    if isDoubleDot segment then follow (last ++ path.drop 1) rest
    else if isDot segment then follow (last ++ path) rest
    else follow (escapeAll pathEscapes segment :: path) rest

/-- The segments of a path as written. -/
def pathSegments (cs : List Char) : List String :=
  let separated := Text.fields (fun c => c == '/' || c == '\\') (cs.drop 1)
  (follow [] separated).reverse

/-- What follows a mark, if the text starts with it. -/
def afterMark? (mark : Char) : List Char → Option (List Char)
  | c :: cs => if c = mark then some cs else none
  | [] => none

/-- The scheme, and what follows its colon. -/
def scheme? (cs : List Char) : Option (Scheme × List Char) :=
  let name := (String.ofList (cs.takeWhile (· != ':'))).map Char.toLower
  let rest := cs.dropWhile (· != ':')
  if rest.isEmpty then none
  else if name = Scheme.http.text then some (.http, rest.drop 1)
  else if name = Scheme.https.text then some (.https, rest.drop 1)
  else none

/-- A blank at the end or the beginning, which does not belong to the address. -/
def isMargin (c : Char) : Bool := decide (c.toNat ≤ 0x20)

/-- An address without margins, tabs and line ends. -/
def clean (cs : List Char) : List Char :=
  (((cs.dropWhile isMargin).reverse.dropWhile isMargin).reverse).filter
    fun c => !(c == '\t' || c == '\n' || c == '\r')

/-- The address that a text is. -/
def read? (s : String) : Option Url := do
  let (scheme, rest) ← scheme? (clean s.toList)
  let rest := rest.dropWhile fun c => c == '/' || c == '\\'
  let (host, number) ← authority? scheme (withoutUser (rest.takeWhile fun c => !endsAuthority c))
  let rest := rest.dropWhile fun c => !endsAuthority c
  let path := rest.takeWhile fun c => !(c == '?' || c == '#')
  let rest := rest.dropWhile fun c => !(c == '?' || c == '#')
  let query := (afterMark? '?' rest).map fun q => escapeAll queryEscapes (q.takeWhile (· != '#'))
  let fragment := (afterMark? '#' (rest.dropWhile (· != '#'))).map (escapeAll fragmentEscapes)
  some { scheme, host, number, segments := pathSegments path, query, fragment }

/-! ## Writing -/

/-- The path, which always starts with a slash. -/
def path (u : Url) : String := String.join (u.segments.map fun s => "/" ++ s)

/-- An optional part with its mark. -/
def marked (mark : String) (part : Option String) : String := (part.map (mark ++ ·)).getD ""

/-- The normal form of an address. -/
def text (u : Url) : String :=
  u.scheme.text ++ "://" ++ u.host.text ++ marked ":" (u.number.map fun n => toString n) ++ u.path ++
    marked "?" u.query ++ marked "#" u.fragment

/-! ## Requests -/

/-- How many bytes an address in a request may have. -/
def longestSent : Nat := 65534

/-- Whether the host in a request may hold a character. -/
def isSentInHost (c : Char) : Bool := !"\"\x60\x7b\x7d".toList.contains c

/-- Whether a request for an address can be written. -/
def canBeSent (u : Url) : Bool :=
  decide (u.text.utf8ByteSize ≤ longestSent) && u.host.text.toList.all isSentInHost

end Url

end OpticalBench
