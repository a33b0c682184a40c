import OpticalBench.Text.Blank

/-!
# Frameworks

Programs are generated for two simulation frameworks. A framework has an identifier, under which
services and settings know it, and a name for people.
-/

namespace OpticalBench

/-- A simulation framework that programs are generated for. -/
inductive Framework
  /-- Continuous variables and Gaussian states. -/
  | strawberryFields
  /-- Discrete linear optics. -/
  | perceval
  deriving DecidableEq, Inhabited, Repr

/-- A name that the catalog does not have. -/
inductive UnknownName
  | framework (name : String)
  | element (name : String)
  deriving DecidableEq, Inhabited, Repr

/-- The sentence that reports an unknown name. -/
def UnknownName.message : UnknownName → String
  | framework name =>
    "Unknown framework '" ++ name ++ "': expected 'strawberryfields' or 'perceval'"
  | element name => "Unknown operation kind '" ++ name ++ "'"

namespace Framework

/-- Both frameworks, in the order they are listed. -/
def all : List Framework := [strawberryFields, perceval]

/-- The stable identifier. -/
def identifier : Framework → String
  | strawberryFields => "strawberryfields"
  | perceval => "perceval"

/-- The name for people. -/
def displayName : Framework → String
  | strawberryFields => "Strawberry Fields"
  | perceval => "Perceval"

/-- The framework with an identifier. -/
def ofIdentifier? (s : String) : Option Framework := all.find? fun f => f.identifier == s

/-- The framework that a person names. Surrounding blanks and letter case do not matter, and short
forms are known. An unknown name is reported without its blanks and in lower case. -/
def parse (s : String) : Except UnknownName Framework :=
  let name := (Text.trim s).map Char.toLower
  if name ∈ ["strawberryfields", "strawberry_fields", "sf"] then .ok strawberryFields
  else if name ∈ ["perceval", "pcvl"] then .ok perceval
  else .error (.framework name)

end Framework

end OpticalBench
