import OpticalBench.Gateway.Duration

/-!
# Gateway errors

A `GatewayError` says why a run brought no results. `message` is its wording; what a simulation
printed on its way down is kept apart as its traceback.
-/

namespace OpticalBench

/-- Why a run brought no results. -/
inductive GatewayError
  /-- The service could not be reached. -/
  | network (detail : String)
  /-- The service refused the request. -/
  | http (status : UInt16) (body : String)
  /-- A value could not be written or read. -/
  | serialization (detail : String)
  /-- The answer is not what a service answers. -/
  | invalidResponse (detail : String)
  /-- The service reports that the program failed. -/
  | simulationFailed (reason : String) (traceback : Option String)
  /-- There was no answer in time. -/
  | timeout (after : Duration)
  /-- The run was cancelled. -/
  | cancelled
  /-- The gateway cannot work as it is configured. -/
  | configuration (detail : String)
  /-- The run itself broke down. -/
  | internal (detail : String)
  deriving DecidableEq, Inhabited, Repr

namespace GatewayError

/-- The sentence that reports an error. -/
def message : GatewayError → String
  | network detail => "Network error: " ++ detail
  | http status body => "Server returned HTTP " ++ toString status.toNat ++ ": " ++ body
  | serialization detail => "Serialization error: " ++ detail
  | invalidResponse detail => "Invalid response from server: " ++ detail
  | simulationFailed reason _ => "Simulation failed: " ++ reason
  | timeout after => "Simulation timed out after " ++ after.text ++ "s"
  | cancelled => "Simulation cancelled"
  | configuration detail => "Configuration error: " ++ detail
  | internal detail => "Internal error: " ++ detail

/-- What the simulation printed when it failed. -/
def traceback? : GatewayError → Option String
  | simulationFailed _ traceback => traceback
  | _ => none

end GatewayError

end OpticalBench
