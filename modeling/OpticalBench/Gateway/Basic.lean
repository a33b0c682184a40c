import OpticalBench.Gateway.Client
import OpticalBench.Gateway.Settings
import OpticalBench.Results.Basic

/-!
# Gateways

A gateway carries generated source to the service of a framework and brings back results.

- `Gateway.ofSettings`: the gateway that settings describe.
- `Gateway.execute`: the payload of a successful simulation.
- `Gateway.simulate`: its results.
-/

namespace OpticalBench

/-- Settings and the client made from them. -/
structure Gateway where
  settings : GatewaySettings
  client : Client

namespace Gateway

/-- The gateway that settings describe. -/
def ofSettings (s : GatewaySettings) : Except ServiceError Gateway :=
  (Client.new s.endpoint s.timeout s.token).map fun client => ⟨s, client⟩

/-- The gateway to the local service of a framework. -/
def ofFramework (f : Framework) : Except ServiceError Gateway := ofSettings (.default f)

/-- The gateway for debug views. -/
def debugText (g : Gateway) : String :=
  "HttpGateway \x7b name: " ++ Text.quote g.settings.name ++ ", endpoint: " ++
    Text.quote g.settings.endpoint ++ " \x7d"

/-- The payload of a simulation that did not fail. -/
def execute [Json.Diagnosis] (transport : Transport) (g : Gateway) (source : String) :
    Except GatewayError Json.Value :=
  match g.client.execute transport source with
  | .ok payload => Payload.check payload
  | .error e => .error e.toGatewayError

/-- The results of a simulation. -/
def simulate [Json.Diagnosis] (transport : Transport) (g : Gateway) (source : String) :
    Except GatewayError Results :=
  (g.execute transport source).map Results.interpret

end Gateway

end OpticalBench
