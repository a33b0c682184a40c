import OpticalBench.Circuit.Codec
import OpticalBench.FileContent

/-!
# Circuit files

`Circuit.ofFile` is the circuit in a file. An error names the file.
-/

namespace OpticalBench

/-- Why there is no circuit in a file. -/
inductive CircuitFileError
  /-- The file cannot be read. -/
  | unreadable (name : String)
  /-- The file holds something else. -/
  | invalid (name : String)
  deriving DecidableEq, Inhabited, Repr

namespace CircuitFileError

/-- The sentence that reports an error. -/
def message : CircuitFileError → String
  | unreadable name => "failed to read " ++ name
  | invalid name => "invalid circuit in " ++ name

end CircuitFileError

namespace Circuit

/-- The circuit in a file. -/
def ofFile (name : String) : FileContent → Except CircuitFileError Circuit
  | .error _ => .error (.unreadable name)
  | .ok s =>
    match read? s with
    | some c => .ok c
    | none => .error (.invalid name)

end Circuit

end OpticalBench
