import OpticalBench.Gateway.Error
import OpticalBench.Json.Value

/-!
# Payloads

A payload is the JSON value that a service answers with. `Payload.check` lets every object pass,
except one whose `success` is `false`: that one reports a failed simulation.
-/

namespace OpticalBench.Payload

/-- The reason of a failure that gives none. -/
def unknownReason : String := "Unknown server error"

/-- Whether a payload reports a failed simulation. -/
def reportsFailure (payload : Json.Value) : Bool :=
  (payload.get? "success").bind Json.Value.boolean? == some false

/-- The failure that a payload reports. -/
def failure (payload : Json.Value) : GatewayError :=
  .simulationFailed (((payload.get? "error").bind Json.Value.text?).getD unknownReason)
    ((payload.get? "traceback").bind Json.Value.text?)

/-- The payload itself, if it is an object that reports no failure. -/
def check (payload : Json.Value) : Except GatewayError Json.Value :=
  if payload.fields?.isNone then
    .error (.invalidResponse ("expected a JSON object, got " ++ payload.kindName))
  else if reportsFailure payload then .error (failure payload)
  else .ok payload

end OpticalBench.Payload
