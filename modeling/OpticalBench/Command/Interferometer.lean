import OpticalBench.Circuit.File
import OpticalBench.Command.Exit
import OpticalBench.Report.Summary
import OpticalBench.Run.Submission
import OpticalBench.Store.Basic

/-!
# The interferometer command

Shows a circuit, by default an interferometer, and the program generated from it, and with `--run` has
the service of the framework execute the program.
-/

namespace OpticalBench.InterferometerCommand

/-- The options of the command. -/
def options : List OptionDeclaration :=
  [⟨"framework", some 'f', true⟩, ⟨"modes", some 'm', true⟩, ⟨"circuit", none, true⟩,
    ⟨"shots", some 's', true⟩, ⟨"run", none, false⟩, ⟨"config", none, true⟩]

/-- What the arguments ask for. -/
structure Task where
  framework : Framework
  modes : Option Nat
  circuitFile : Option String
  shots : Option Nat
  submits : Bool
  configFile : Option String
  deriving DecidableEq, Inhabited, Repr

/-- The framework that an argument names. -/
def framework? (s : String) : Option Framework := (Framework.parse s).toOption

/-- What the arguments ask for. The configuration file may also be named by the environment. -/
def task? (env : Config.Environment) (arguments : List String) : Option Task := do
  let a ← Arguments.parse? options arguments
  let framework ← a.optional? "framework" framework?
  let modes ← a.optional? "modes" (Text.readCount? Text.max32)
  let circuitFile ← a.optional? "circuit" Arguments.fileName?
  let shots ← a.optional? "shots" (Text.readCount? Text.max32)
  let configFile ← a.configFile? env
  some {
    framework := framework.getD .strawberryFields
    modes, circuitFile, shots, submits := a.has "run", configFile }

/-- The circuit of a task. -/
def circuit (s : Surroundings) (t : Task) : Except CircuitFileError Circuit :=
  match t.circuitFile with
  | none => .ok (.interferometer (s.ids 0) (s.ids 1))
  | some name => Circuit.ofFile name (s.files name)

/-- The line of an operation. -/
def operationLine (f : Framework) (op : Operation) : Page :=
  Page.result ("  " ++ op.element.label ++ " @ mode " ++ op.mode.text)
    ("position " ++ op.position.text .plain ++ ", " ++
      if op.element.supportedBy f then "native" else "unsupported")

/-- The part of the page that shows the circuit. -/
def circuitPage (f : Framework) (c : Circuit) : Page :=
  Page.heading "Circuit" ++
  Page.result "Modes" (toString c.modeCount.toNat) ++
  Page.result "Operations" (toString c.operations.length) ++
  c.operations.flatMap (operationLine f) ++
  if c.dormant.isEmpty then []
  else Page.info
    (toString c.dormant.length ++ " operation(s) sit outside the mode count and are skipped")

/-- The part of the page that shows the program. -/
def programPage (f : Framework) (source : String) : Page :=
  Page.heading ("Generated " ++ f.displayName ++ " source") ++ [source] ++
  Page.success ("Source generated for " ++ f.displayName)

/-- Have the program executed after a page was printed. -/
def submit [Json.Diagnosis] (s : Surroundings) (c : Config) (f : Framework) (source : String)
    (before : Page) : Exit :=
  match Submission.run s.transport (s.ids 2).text c f source with
  | .error e => .failure before e.message e.cause?
  | .ok results =>
    match Summary.page results with
    | .error page => .breakdown (before ++ page)
    | .ok page => .success (before ++ page ++ "" :: Page.success "Simulation complete!")

/-- Do what was asked for. -/
def perform [Json.Diagnosis] (s : Surroundings) (t : Task) (c : Config) : Exit :=
  let title := Page.header "Photonic Interferometer Demo"
  match circuit s t with
  | .error e => .failure title e.message none
  | .ok circuit =>
    let circuit := (Store.openCircuit circuit t.modes).circuit
    let source := Program.generate circuit t.framework (t.shots.getD c.shots.toNat)
    let page := title ++ circuitPage t.framework circuit ++ programPage t.framework source
    if t.submits then submit s c t.framework source page
    else .success (page ++ "" :: Page.info "Pass --run to execute on the simulation service")

/-- Run the command. -/
def run [Json.Diagnosis] [Config.Diagnosis] (s : Surroundings) (arguments : List String) : Exit :=
  match task? s.environment arguments with
  | none => .usage
  | some t =>
    match Config.load (t.configFile.map s.files) s.environment with
    | .error e => .failure [] e.message none
    | .ok c => perform s t c

end OpticalBench.InterferometerCommand
