/-!
# Contents of files

What can be found under the name of a file: a text, or a reason why there is none.
-/

namespace OpticalBench

/-- Why no text can be read under a name. -/
inductive FileError
  /-- The name, or the name of a folder on the way, is not there. -/
  | missing
  /-- The file may not be read. -/
  | denied
  /-- Something on the way is no folder. -/
  | notFolder
  /-- The name is that of a folder. -/
  | folder
  /-- The name, or a part of it, is longer than names can be. -/
  | nameTooLong
  /-- The bytes are not UTF-8. -/
  | binary
  deriving DecidableEq, Inhabited, Repr

/-- The sentence that reports an error. The numbers are those that the system has for its errors. -/
def FileError.message : FileError → String
  | missing => "No such file or directory (os error 2)"
  | denied => "Permission denied (os error 13)"
  | notFolder => "Not a directory (os error 20)"
  | folder => "Is a directory (os error 21)"
  | nameTooLong => "File name too long (os error 36)"
  | binary => "stream did not contain valid UTF-8"

/-- What a file system has under a name. -/
abbrev FileContent := Except FileError String

end OpticalBench
