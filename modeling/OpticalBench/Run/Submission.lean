import OpticalBench.Config.Basic
import OpticalBench.Gateway.Basic
import OpticalBench.Run.Lifecycle

/-!
# Submitting a program

`Submission.run` has the service of a framework execute a source, with the settings that a
configuration has for it, and waits for the end of the run.
-/

namespace OpticalBench

/-- Why a submission brought no results. -/
inductive SubmissionError
  /-- There is no gateway to submit to. -/
  | noGateway (framework : Framework) (cause : ServiceError)
  /-- The service reports that the program failed. -/
  | simulationFailed (reason : String) (traceback : Option String)
  /-- The run did not complete. -/
  | incomplete (run : String) (cause : GatewayError)
  deriving DecidableEq, Inhabited, Repr

namespace SubmissionError

/-- What happened. -/
def message : SubmissionError → String
  | noGateway f _ => "cannot build " ++ f.displayName ++ " gateway"
  | simulationFailed reason traceback =>
    "simulation failed: " ++ reason ++ "\n" ++ traceback.getD ""
  | incomplete run _ => "run " ++ run ++ " did not complete"

/-- Why it happened, if there is more to say. -/
def cause? : SubmissionError → Option String
  | noGateway _ cause => some cause.message
  | simulationFailed _ _ => none
  | incomplete _ cause => some cause.message

/-- What happened and why, on one line. -/
def chain (e : SubmissionError) : String :=
  e.message ++ (e.cause?.map (": " ++ ·)).getD ""

end SubmissionError

namespace Submission

/-- The answer of a gateway that has been waited for. -/
def answer : Except GatewayError Results → GatewayAnswer
  | .ok r => .results r
  | .error e => .error e

/-- The results of a run that has ended with an outcome; `run` is what it is called. -/
def conclude (run : String) : Except GatewayError Results → Except SubmissionError Results
  | .ok r => .ok r
  | .error (.simulationFailed reason traceback) => .error (.simulationFailed reason traceback)
  | .error e => .error (.incomplete run e)

/-- Have a source executed; `run` is what the run is called. -/
def run [Json.Diagnosis] (transport : Transport) (run : String) (c : Config) (f : Framework)
    (source : String) : Except SubmissionError Results :=
  match Gateway.ofSettings (c.settings f) with
  | .error e => .error (.noGateway f e)
  | .ok gateway =>
    match (Run.fresh.poll (some (answer (gateway.simulate transport source)))).outcome? run with
    | some outcome => conclude run outcome
    | none => .error (.incomplete run .cancelled)

end Submission

end OpticalBench
