import OpticalBench.Gateway.Duration
import OpticalBench.Gateway.Url

/-!
# Requests and replies

A `Transport` carries a request to a service and brings back its reply. Everything else in this
library is a function of what the transport answers.

- `Request`: what is posted, and where.
- `Reply`: the status and the body of an answer.
- `Transport.unreachable`: the transport of a program without a network.
-/

namespace OpticalBench

/-- A JSON text that is posted to a service. -/
structure Request where
  url : Url
  /-- The credentials that go along. -/
  authorization : Option String
  /-- How long the reply may take. -/
  timeout : Duration
  body : String
  deriving DecidableEq, Inhabited, Repr

/-- The answer of a service. -/
structure Reply where
  status : UInt16
  body : String
  deriving DecidableEq, Inhabited, Repr

namespace Reply

/-- Whether the status says that the request was carried out. -/
def isSuccess (r : Reply) : Bool := decide (200 ≤ r.status.toNat) && decide (r.status.toNat < 300)

end Reply

/-- Why there is no reply. -/
inductive TransportFailure
  /-- The time was up. -/
  | timedOut
  /-- Anything else. -/
  | failed (detail : String)
  deriving DecidableEq, Inhabited, Repr

/-- How requests are carried to services. -/
abbrev Transport := Request → Except TransportFailure Reply

/-- The failure of a request that does not reach its service. -/
def Request.unsent (r : Request) : TransportFailure :=
  .failed ("error sending request for url (" ++ r.url.text ++ ")")

/-- A transport that reaches no service. -/
def Transport.unreachable : Transport := fun r => .error r.unsent

end OpticalBench
