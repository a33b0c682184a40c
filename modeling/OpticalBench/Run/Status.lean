import OpticalBench.Json.Record

/-!
# The status of a run

A run is queued, then running, and ends completed, failed or cancelled. The last three are terminal.

- `RunStatus.text`: for people.
- `RunStatus.encode`, `decode?`: as JSON. A failure is an object with its reason, every other status
  its name.
-/

namespace OpticalBench

/-- Where a run stands. -/
inductive RunStatus
  | queued
  | running
  | completed
  | failed (reason : String)
  | cancelled
  deriving DecidableEq, Inhabited, Repr

namespace RunStatus

/-- The name of a status. -/
def name : RunStatus → String
  | queued => "Queued"
  | running => "Running"
  | completed => "Completed"
  | failed _ => "Failed"
  | cancelled => "Cancelled"

/-- A status for people. -/
def text (s : RunStatus) : String :=
  match s with
  | failed reason => s.name ++ ": " ++ reason
  | _ => s.name

/-- Whether the run has ended. -/
def isTerminal : RunStatus → Bool
  | completed | failed _ | cancelled => true
  | queued | running => false

/-- Whether the run has not ended. -/
def isPending (s : RunStatus) : Bool := !s.isTerminal

/-- Whether the run brought results. -/
def isSuccess (s : RunStatus) : Bool := s == completed

/-- A status as a value. -/
def encode (s : RunStatus) : Json.Value :=
  match s with
  | failed reason => .object [(s.name, .text reason)]
  | _ => .text s.name

/-- The statuses that say nothing more than their name. -/
def bare : List RunStatus := [queued, running, completed, cancelled]

/-- The status that a document is. -/
def decode? (d : Json.Document) : Option RunStatus :=
  match d with
  | .object [(some "Failed", reason)] => reason.text?.map failed
  | _ => d.name?.bind fun word => bare.find? fun s => s.name == word

/-- The text of a status. -/
def render (s : RunStatus) : String := s.encode.render

/-- The status that a text is. -/
def read? (s : String) : Option RunStatus := (Json.Document.read? s).bind decode?

end RunStatus

end OpticalBench
