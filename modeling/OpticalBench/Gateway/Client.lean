import OpticalBench.Gateway.Payload
import OpticalBench.Gateway.Transport
import OpticalBench.Text.Quoted

/-!
# Clients of simulation services

A service takes `{"code": source}` and answers with a JSON object. A client knows where the service
is, how long it may take and which token it wants.

- `Client.new`: a client for an endpoint that starts with `http://` or `https://`. That the machinery
  behind a client can be set up is assumed.
- `Client.request`: the request for a source.
- `Client.read`: what a reply means. A service that refuses a request but reports a failed simulation
  in the body has answered all the same.
- `Client.execute`: request and reply.
- `ServiceError.toGatewayError`: the error of the gateway that a client's error becomes.
-/

namespace OpticalBench

/-- Why a client has no payload. -/
inductive ServiceError
  /-- The request could not be made or was not carried. -/
  | transport (detail : String)
  /-- There was no reply in time. -/
  | timeout (after : Duration)
  /-- There cannot be a service under this address. -/
  | invalidEndpoint (endpoint : String)
  /-- The service refused the request. -/
  | refused (status : UInt16) (body : String)
  /-- The reply is not JSON. -/
  | invalidJson (detail : String)
  deriving DecidableEq, Inhabited, Repr

namespace ServiceError

/-- The sentence that reports an error. -/
def message : ServiceError → String
  | transport detail => "HTTP error: " ++ detail
  | timeout after => "Request timed out after " ++ after.text ++ "s"
  | invalidEndpoint endpoint => "Invalid endpoint: " ++ endpoint
  | refused status body => "API error (" ++ toString status.toNat ++ "): " ++ body
  | invalidJson detail => "Invalid JSON response from server: " ++ detail

/-- The error of a gateway whose client failed. -/
def toGatewayError : ServiceError → GatewayError
  | transport detail => .network (transport detail).message
  | timeout after => .timeout after
  | invalidEndpoint endpoint => .configuration endpoint
  | refused status body => .http status body
  | invalidJson detail => .invalidResponse detail

end ServiceError

/-- A client of a service. -/
structure Client where
  /-- The address, without slashes at its end. -/
  endpoint : String
  timeout : Duration
  token : Option String
  deriving DecidableEq, Inhabited, Repr

namespace Client

/-- An address without slashes at its end. -/
def trimEndpoint (endpoint : String) : String :=
  String.ofList (endpoint.toList.reverse.dropWhile (· == '/')).reverse

/-- Whether an address starts with a scheme that services use. -/
def hasScheme (endpoint : String) : Bool :=
  "http://".toList.isPrefixOf endpoint.toList || "https://".toList.isPrefixOf endpoint.toList

/-- A client for an endpoint. The scheme is looked for after the slashes at the end are gone. What
carries the requests is built with the client; that this succeeds is assumed here, and it is the only
other way in which there could be no client. -/
def new (endpoint : String) (timeout : Duration) (token : Option String) :
    Except ServiceError Client :=
  let trimmed := trimEndpoint endpoint
  if hasScheme trimmed then .ok ⟨trimmed, timeout, token⟩ else .error (.invalidEndpoint trimmed)

/-- The client for debug views; the token is not shown. -/
def debugText (c : Client) : String :=
  "SimulationClient \x7b endpoint: " ++ Text.quote c.endpoint ++ ", timeout: " ++
    c.timeout.debugText ++ ", token: " ++ Text.redacted ++ " \x7d"

/-! ## Requests -/

/-- Whether credentials may hold a character. -/
def isTokenCharacter (c : Char) : Bool :=
  c == '\t' || (decide (0x20 ≤ c.toNat) && c.toNat != 0x7f)

/-- The body of the request for a source. -/
def body (source : String) : String := (Json.Value.object [("code", .text source)]).render

/-- Whether a token can be sent. -/
def isToken (token : String) : Bool := token.toList.all isTokenCharacter

/-- Why a request cannot be built, where there is something wrong with this address. -/
def unbuilt (url : Option Url) : ServiceError :=
  .transport ("builder error" ++ ((url.map fun u => " for url (" ++ u.text ++ ")").getD ""))

/-- The request for a source, if the address and the token allow one. -/
def request (c : Client) (source : String) : Except ServiceError Request :=
  match Url.read? c.endpoint with
  | none => .error (unbuilt none)
  | some url =>
    if !c.token.all isToken then .error (unbuilt none)
    else if !url.canBeSent then .error (unbuilt url)
    else .ok ⟨url, c.token.map ("Bearer " ++ ·), c.timeout, body source⟩

/-! ## Replies -/

/-- How much of an unreadable body is quoted, in characters. -/
def excerptLength : Nat := 200

/-- The beginning of a body. -/
def excerpt (body : String) : String := String.ofList (body.toList.take excerptLength)

/-- What a reply means. An unreadable body is quoted behind what is wrong with it. -/
def read [Json.Diagnosis] (r : Reply) : Except ServiceError Json.Value :=
  match Json.Value.read? r.body with
  | some payload =>
    if r.isSuccess || Payload.reportsFailure payload then .ok payload
    else .error (.refused r.status r.body)
  | none =>
    if r.isSuccess then
      .error (.invalidJson (Json.Diagnosis.describe r.body ++ ": " ++ excerpt r.body))
    else .error (.refused r.status r.body)

/-- Have a service execute a source. -/
def execute [Json.Diagnosis] (transport : Transport) (c : Client) (source : String) :
    Except ServiceError Json.Value :=
  match c.request source with
  | .error e => .error e
  | .ok request =>
    match transport request with
    | .ok reply => read reply
    | .error .timedOut => .error (.timeout c.timeout)
    | .error (.failed detail) => .error (.transport detail)

end Client

end OpticalBench
