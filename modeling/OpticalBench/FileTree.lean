import OpticalBench.FileContent

/-!
# Trees of files

A file is found by a path: names between slashes, followed one after the other from the root or from
the folder where a command works. A dot stays where it is, two dots go up, and any other name has to be
in the folder that was reached.

- `FileTree.follow`: where a path leads.
- `FileTree.read`: the text that a path leads to.
-/

namespace OpticalBench

/-- Texts and folders, each under the names that lead to it from the root. Whatever contains something
is a folder. -/
structure FileTree where
  texts : List (List String × String)
  folders : List (List String)
  deriving DecidableEq, Inhabited, Repr

namespace FileTree

/-- What stands somewhere in a tree. -/
inductive Entry
  | folder
  | text (s : String)
  deriving DecidableEq, Inhabited, Repr

/-- Whether names lead to a folder. The root is one. -/
def isFolder (t : FileTree) (place : List String) : Bool :=
  place.isEmpty || t.folders.any place.isPrefixOf || t.texts.any fun e => place.isPrefixOf e.1

/-- What stands at a place. -/
def entry? (t : FileTree) (place : List String) : Option Entry :=
  match t.texts.find? fun e => e.1 == place with
  | some (_, s) => some (.text s)
  | none => if t.isFolder place then some .folder else none

/-- How many bytes a name may have. -/
def longestName : Nat := 255

/-- How many bytes a path may have. -/
def longestPath : Nat := 4095

/-- Follow one name of a path. -/
def step (t : FileTree) (place : List String) (name : String) : Except FileError (List String) :=
  if t.entry? place != some .folder then .error .notFolder
  else if name = "" ∨ name = "." then .ok place
  else if name = ".." then .ok place.dropLast
  else if longestName < name.utf8ByteSize then .error .nameTooLong
  else if (t.entry? (place ++ [name])).isSome then .ok (place ++ [name])
  else .error .missing

/-- Where a path leads from a place. -/
def follow (t : FileTree) (start : List String) (path : String) :
    Except FileError (List String) :=
  if longestPath < path.utf8ByteSize then .error .nameTooLong
  else (path.splitOn "/").foldlM t.step (if path.startsWith "/" then [] else start)

/-- The text that a path leads to from a place. -/
def read (t : FileTree) (start : List String) (path : String) : FileContent :=
  match t.follow start path with
  | .error e => .error e
  | .ok place =>
    match t.entry? place with
    | some (.text s) => .ok s
    | some .folder => .error .folder
    | none => .error .missing

end FileTree

end OpticalBench
