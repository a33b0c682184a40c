import OpticalBench.Command.Catalog
import OpticalBench.Command.Interferometer
import OpticalBench.Command.MachZehnder

/-!
# The commands

Three commands, each under its name. The outermost layer calls `Command.fileNames` to see which files
to read, and then `Command.run`.
-/

namespace OpticalBench

/-- A command. -/
inductive Command
  | catalog
  | interferometer
  | machZehnder
  deriving DecidableEq, Inhabited, Repr

namespace Command

/-- All commands. -/
def all : List Command := [catalog, interferometer, machZehnder]

/-- The name of a command. -/
def name : Command → String
  | catalog => "demo-catalog"
  | interferometer => "demo-interferometer"
  | machZehnder => "demo-mach-zehnder"

/-- The command with a name. -/
def ofName? (s : String) : Option Command := all.find? fun c => c.name == s

/-- The files that a command wants to see. -/
def fileNames (env : Config.Environment) : Command → List String → List String
  | catalog, _ => []
  | interferometer, arguments =>
    (InterferometerCommand.task? env arguments).toList.flatMap fun t =>
      t.configFile.toList ++ t.circuitFile.toList
  | machZehnder, arguments =>
    (MachZehnderCommand.task? env arguments).toList.flatMap fun t => t.configFile.toList

/-- Run a command. -/
def run [Json.Diagnosis] [Config.Diagnosis] (s : Surroundings) : Command → List String → Exit
  | catalog => CatalogCommand.run
  | interferometer => InterferometerCommand.run s
  | machZehnder => MachZehnderCommand.run s

end Command

/-! ## Words for what cannot be read

The outermost layer has no reader whose words it could repeat, so it says the same of every text. -/

instance Json.Diagnosis.uniform : Json.Diagnosis := ⟨fun _ => "malformed JSON"⟩

instance Config.Diagnosis.uniform : Config.Diagnosis := ⟨fun _ => "not a configuration"⟩

end OpticalBench
