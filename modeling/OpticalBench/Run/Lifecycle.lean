import OpticalBench.Gateway.Error
import OpticalBench.Results.Basic
import OpticalBench.Run.Status
import OpticalBench.Text.Quoted

/-!
# The lifecycle of a run

A run is a task that calls a gateway and waits for its answer. It gets on only when it is polled, and
it can be asked at any time to cancel. `Run.poll` is the one step that a run takes:

1. If cancelling was asked for, the run ends cancelled, whatever else is at hand.
2. Otherwise, if the gateway was not called yet, the run is announced as running and calls it.
3. If the gateway has answered, the run ends with that answer.

What a run does is kept in its trace, newest first: the statuses that it announces after the first one,
and its calls of the gateway. A gateway that crashes takes the run down with it: nothing more is
announced.
-/

namespace OpticalBench

/-- What a gateway answers in the end. -/
inductive GatewayAnswer
  | results (r : Results)
  | error (e : GatewayError)
  /-- The gateway breaks down with a message. -/
  | crash (message : String)
  deriving DecidableEq, Inhabited

/-- How far a run has come. -/
inductive Run.Stage
  /-- The gateway has not been called. -/
  | waiting
  /-- The gateway has been called and has not answered. -/
  | calling
  /-- The run has ended. -/
  | ended (outcome : Except GatewayError Results)
  /-- The gateway has crashed. -/
  | crashed (message : String)

/-- What a run does that others can see. -/
inductive Run.Effect
  /-- It announces a status. -/
  | announced (status : RunStatus)
  /-- It calls the gateway. -/
  | called
  deriving DecidableEq, Repr

/-- The status that is announced, if one is. -/
def Run.Effect.status? : Run.Effect → Option RunStatus
  | announced status => some status
  | called => none

/-- A run. -/
structure Run where
  /-- What the run has done, newest first. -/
  trace : List Run.Effect
  /-- Whether cancelling was asked for. -/
  cancelRequested : Bool
  stage : Run.Stage

namespace Run

/-- A run that has not been polled. -/
def fresh : Run := ⟨[], false, .waiting⟩

instance : Inhabited Run := ⟨fresh⟩

/-- The statuses that were announced after the first, newest first. -/
def log (r : Run) : List RunStatus := r.trace.filterMap Effect.status?

/-- The status that was announced last. -/
def status (r : Run) : RunStatus := r.log.headD .queued

/-- Whether the run will never change again. -/
def isOver (r : Run) : Bool :=
  match r.stage with
  | .waiting | .calling => false
  | .ended _ | .crashed _ => true

/-- Do something that others can see. -/
def perform (r : Run) (e : Effect) : Run := { r with trace := e :: r.trace }

/-- Announce a status. -/
def announce (r : Run) (s : RunStatus) : Run := r.perform (.announced s)

/-- The status of a run that ended with an outcome. -/
def statusOf : Except GatewayError Results → RunStatus
  | .ok _ => .completed
  | .error .cancelled => .cancelled
  | .error e => .failed e.message

/-- End with an outcome. -/
def finish (r : Run) (outcome : Except GatewayError Results) : Run :=
  { r.announce (statusOf outcome) with stage := .ended outcome }

/-- Announce that the run is running, then call the gateway. -/
def call (r : Run) : Run := { (r.announce .running).perform .called with stage := .calling }

/-- Take the answer of the gateway, if there is one. -/
def take (r : Run) : Option GatewayAnswer → Run
  | none => r
  | some (.results results) => r.finish (.ok results)
  | some (.error e) => r.finish (.error e)
  | some (.crash message) => { r with stage := .crashed message }

/-- Poll a run. The answer is what the gateway would answer at this very moment. -/
def poll (r : Run) (answer : Option GatewayAnswer) : Run :=
  if r.isOver then r
  else if r.cancelRequested then { r.finish (.error .cancelled) with cancelRequested := false }
  else match r.stage with
    | .waiting => r.call.take answer
    | _ => r.take answer

/-- Ask the run to cancel. -/
def cancel (r : Run) : Run := { r with cancelRequested := true }

/-- The error of a run whose gateway crashed; `task` is how the run is referred to. -/
def crashError (task message : String) : GatewayError :=
  .internal (task ++ " panicked with message " ++ Text.quote message)

/-- What a run that is over has brought. -/
def outcome? (task : String) (r : Run) : Option (Except GatewayError Results) :=
  match r.stage with
  | .waiting | .calling => none
  | .ended outcome => some outcome
  | .crashed message => some (.error (crashError task message))

/-- How often the gateway was called. -/
def calls (r : Run) : Nat := r.trace.count .called

end Run

end OpticalBench
