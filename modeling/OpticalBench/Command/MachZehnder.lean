import OpticalBench.Command.Exit
import OpticalBench.Run.Submission

/-!
# The Mach-Zehnder command

Sweeps the phase of a Mach-Zehnder interferometer from zero to π and shows, for each step, how long
the programs for both frameworks are. With `--run` each step is executed by the Perceval service.
-/

namespace OpticalBench.MachZehnderCommand

/-- The options of the command. -/
def options : List OptionDeclaration :=
  [⟨"steps", some 's', true⟩, ⟨"run", none, false⟩, ⟨"config", none, true⟩]

/-- What the arguments ask for. -/
structure Task where
  steps : Nat
  submits : Bool
  configFile : Option String
  deriving DecidableEq, Inhabited, Repr

/-- What the arguments ask for. There are at least two steps. -/
def task? (env : Config.Environment) (arguments : List String) : Option Task := do
  let a ← Arguments.parse? options arguments
  let steps ← a.optional? "steps" (Text.readCount? Text.max32)
  let configFile ← a.configFile? env
  some { steps := max 2 (steps.getD 5), submits := a.has "run", configFile }

/-- The number nearest to π. -/
def pi : Binary64 := ⟨0x400921fb54442d18⟩

/-- The phase of a step. -/
def phase (steps step : Nat) : Binary64 :=
  (pi.mul (.ofNat step)).div (.ofNat (steps - 1))

/-- The circuit of a step. -/
def circuit (ids : Nat → Uuid) (phase : Binary64) : Circuit :=
  .machZehnder (ids 0) (ids 1) (ids 2) (ids 3) phase

/-- How many lines a source has, all of which are ended. -/
def lineCount (source : String) : Nat := source.toList.count '\n'

/-- The line about the program for a framework. -/
def programLine (c : Circuit) (f : Framework) : Page :=
  let source := Program.generate c f Program.defaultShots
  let unsupported := Text.occurrences "unsupported in".toList source.toList
  Page.result f.displayName
    (toString (lineCount source) ++ " lines, " ++ toString unsupported ++ " unsupported")

/-- The line about the execution of a step. -/
def outcomePage : Except SubmissionError Results → Page
  | .error e => Page.warning e.chain
  | .ok results =>
    match results.mostProbable? with
    | some (label, p) => Page.result "Most probable" ("|" ++ label ++ "⟩ " ++ p.fixed 4)
    | none => Page.warning "No outcomes reported"

/-- The part of the page about a step. -/
def stepPage [Json.Diagnosis] (s : Surroundings) (t : Task) (c : Config) (step : Nat) : Page :=
  let phase := phase t.steps step
  let circuit := circuit s.ids phase
  Page.heading ("φ = " ++ phase.fixed 4) ++ Framework.all.flatMap (programLine circuit) ++
  if t.submits then
    outcomePage <| Submission.run s.transport (s.ids (4 + step)).text c .perceval
      (Program.generate circuit .perceval Program.defaultShots)
  else []

/-- The whole page. -/
def page [Json.Diagnosis] (s : Surroundings) (t : Task) (c : Config) : Page :=
  Page.header "Mach-Zehnder Phase Sweep" ++
  Page.heading "Setup" ++
  Page.result "Phase steps" (toString t.steps) ++
  Page.result "Range" "0 to π" ++
  (List.range t.steps).flatMap (stepPage s t c) ++
  "" :: Page.success "Sweep complete!" ++
  if t.submits then []
  else Page.info "Pass --run to execute each step on the Perceval service"

/-- Run the command. -/
def run [Json.Diagnosis] [Config.Diagnosis] (s : Surroundings) (arguments : List String) : Exit :=
  match task? s.environment arguments with
  | none => .usage
  | some t =>
    match Config.load (t.configFile.map s.files) s.environment with
    | .error e => .failure [] e.message none
    | .ok c => .success (page s t c)

end OpticalBench.MachZehnderCommand
