import OpticalBench.Command.Arguments
import OpticalBench.Config.Load
import OpticalBench.FileTree
import OpticalBench.Gateway.Transport
import OpticalBench.Report.Page
import OpticalBench.Text.Uuid

/-!
# What commands need and leave behind

A command is a function of its arguments and its surroundings: files, environment, network and fresh
identifiers. It leaves behind what it prints and an exit code.
-/

namespace OpticalBench

/-- What surrounds a command. -/
structure Surroundings where
  files : String → FileContent
  environment : Config.Environment
  transport : Transport
  /-- Identifiers that were never used before. -/
  ids : Nat → Uuid

/-- Surroundings of a command that works in a folder of a tree of files, without a network. -/
def Surroundings.offline (files : FileTree) (folder : List String)
    (environment : Config.Environment) (ids : Nat → Uuid) : Surroundings where
  files := files.read folder
  environment
  transport := .unreachable
  ids

/-- What a command leaves behind. -/
structure Exit where
  code : UInt8
  output : String
  errors : String
  deriving DecidableEq, Inhabited, Repr

/-- The variable that names a configuration file. -/
def Config.fileVariable : String := "LUMEN_CONFIG"

/-- The configuration file that arguments or else the environment name. -/
def Arguments.configFile? (a : Arguments) (env : Config.Environment) : Option (Option String) :=
  match a.value? "config" <|> env Config.fileVariable with
  | none => some none
  | some s => (fileName? s).map some

namespace Exit

/-- Everything was done. -/
def success (p : Page) : Exit := ⟨0, p.text, ""⟩

/-- The command gave up after printing a page. -/
def failure (p : Page) (message : String) (cause : Option String) : Exit :=
  ⟨1, p.text,
    "Error: " ++ message ++ (cause.map ("\n\nCaused by:\n    " ++ ·)).getD "" ++ "\n"⟩

/-- The arguments are wrong. -/
def usage : Exit := ⟨2, "", "error: invalid arguments\n"⟩

/-- The command broke down after printing a page. -/
def breakdown (p : Page) : Exit := ⟨101, p.text, "attempt to add with overflow\n"⟩

end Exit

end OpticalBench
