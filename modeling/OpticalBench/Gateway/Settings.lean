import OpticalBench.Catalog.Framework
import OpticalBench.Gateway.Duration
import OpticalBench.Json.Record
import OpticalBench.Text.Quoted

/-!
# Settings of a gateway

What a gateway needs to know about its service. Services may define settings of their own; these are
kept under `extra` as they are. The token is a secret: it is neither written to a file nor shown in a
debug view.

- `GatewaySettings.default`: the settings of the local service of a framework.
- `encode`, `render`: settings as JSON, the extra ones after the others.
- `decode?`, `read?`: settings from JSON.
-/

namespace OpticalBench

/-- Where the local service of a framework listens. -/
def Framework.defaultEndpoint : Framework → String
  | .strawberryFields => "http://localhost:8080"
  | .perceval => "http://localhost:8081"

/-- The name of a framework in debug views. -/
def Framework.debugName : Framework → String
  | .strawberryFields => "StrawberryFields"
  | .perceval => "Perceval"

/-- How long a service may take if nothing else is said. -/
def Duration.defaultTimeout : Duration := .ofSeconds 30

/-- The settings of a gateway. -/
structure GatewaySettings where
  name : String
  framework : Framework
  endpoint : String
  timeout : Duration
  token : Option String
  /-- Settings that only the service understands. -/
  extra : TextMap Json.Value

namespace GatewaySettings

/-- The settings of the local service of a framework. -/
def default (f : Framework) : GatewaySettings where
  name := f.identifier
  framework := f
  endpoint := f.defaultEndpoint
  timeout := .defaultTimeout
  token := none
  extra := .empty

instance : Inhabited GatewaySettings := ⟨default Inhabited.default⟩

/-- The keys of the settings that every service has. -/
def fieldNames : List String := ["name", "framework", "endpoint", "timeout", "token"]

/-- Settings as a value, without the token and with whole seconds. -/
def encode (s : GatewaySettings) : Json.Value :=
  .object <|
    [("name", .text s.name), ("framework", .text s.framework.identifier),
      ("endpoint", .text s.endpoint), ("timeout", .ofNat s.timeout.wholeSeconds)] ++
    s.extra.entries

/-- The text of settings. -/
def render (s : GatewaySettings) : String := s.encode.render

/-- The fields that are not declared, as values. They lie one level deep. -/
def extraFields? (fields : List (Option String × Json.Document)) : Option (TextMap Json.Value) :=
  let undeclared := fields.filter fun (key, _) => !key.any (· ∈ fieldNames)
  (Json.Value.ofFields? (Json.Value.maxDepth - 1) undeclared).map .ofList

/-- The settings that a document is. Only an object can be, for only it has names for the extra
settings. -/
def decode? (d : Json.Document) : Option GatewaySettings :=
  match d with
  | .object fields => do
    let r ← d.record? fieldNames
    let name ← r.required? "name" Json.Document.text?
    let framework ← r.required? "framework" fun f => f.name?.bind Framework.ofIdentifier?
    let endpoint ← r.required? "endpoint" Json.Document.text?
    let seconds ← r.required? "timeout" (Json.Document.natural? Text.max64)
    let token ← r.optional? "token" (Json.Document.nullable? Json.Document.text?)
    let extra ← extraFields? fields
    some { name, framework, endpoint, timeout := .ofSeconds seconds, token, extra }
  | _ => none

/-- The settings that a text is. -/
def read? (s : String) : Option GatewaySettings := (Json.Document.read? s).bind decode?

/-- Settings for debug views. -/
def debugText (s : GatewaySettings) : String :=
  "GatewayConfig \x7b name: " ++ Text.quote s.name ++ ", framework: " ++ s.framework.debugName ++
    ", endpoint: " ++ Text.quote s.endpoint ++ ", timeout: " ++ s.timeout.debugText ++
    ", token: " ++ Text.redacted ++
    ", extra: \x7b" ++ Json.Value.debugFields true s.extra.entries ++ "\x7d \x7d"

end GatewaySettings

end OpticalBench
