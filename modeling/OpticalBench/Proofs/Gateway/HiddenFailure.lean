import OpticalBench.Proofs.Run.Lifecycle

/-!
# Failures that a payload hides

`Payload.check` turns a payload whose `success` is the boolean `false` at the top level into an error.
`Results.interpret` looks further for a failure: into texts, under `"results"`, and at an error.

- `SaysNo`: the values that are read as `false`.
- `HidesFailure`: a payload reports its failure only where `Payload.check` does not look.
- `check_eq_ok_iff`, `success_eq_false_iff`: what passes the check, and what is read as a failure.
- `failure_surfaces_unless_hidden`: a failure becomes an error if and only if it is not hidden, also
  for a gateway and for a run that completes.
-/

namespace OpticalBench.Payload

open Json (Value)
open Results (field? truth? errorText? interpret)

/-! ## Reading a failure -/

/-- The values that say no: a boolean and two words. -/
inductive SaysNo : Value → Prop
  | boolean : SaysNo (.boolean false)
  | word {s : String} (h : Text.trim s = "False" ∨ Text.trim s = "false") : SaysNo (.text s)

theorem truth?_eq_false_iff {v : Value} : truth? v = some false ↔ SaysNo v := by
  constructor
  · intro h
    cases v with
    | boolean b =>
      cases h
      exact .boolean
    | text s =>
      refine .word ?_
      by_contra hno
      by_cases hyes : Text.trim s = "True" ∨ Text.trim s = "true"
      · simp [truth?, hyes] at h
      · simp [truth?, hyes, hno] at h
    | null => exact nomatch h
    | number n => exact nomatch h
    | array items => exact nomatch h
    | object fields => exact nomatch h
  · rintro (_ | hword)
    · rfl
    · rcases hword with hword | hword <;> simp [truth?, hword]

theorem errorText?_eq_some_iff {v : Value} {s : String} :
    errorText? v = some s ↔ v = .text s ∧ s ≠ "" := by
  cases v with
  | text t =>
    by_cases ht : t.isEmpty = true
    · have hempty : t = "" := String.isEmpty_iff.1 ht
      subst hempty
      simp only [errorText?, ht, if_true, Value.text.injEq]
      exact ⟨nofun, fun ⟨h, hs⟩ => absurd h.symm hs⟩
    · have hne : t ≠ "" := fun h => ht (String.isEmpty_iff.2 h)
      simp only [errorText?, ht, Value.text.injEq]
      exact ⟨fun h => by cases h; exact ⟨rfl, hne⟩, fun ⟨h, _⟩ => by rw [h]; rfl⟩
  | _ => simp [errorText?]

/-- A payload reports its failure only where `check` does not look. -/
inductive HidesFailure (payload : Value) : Prop
  /-- Success is denied by a word. -/
  | word {s : String} (success : payload.get? "success" = some (.text s))
    (no : SaysNo (.text s))
  /-- Success is denied one level deeper. -/
  | nested {results v : Value} (success : payload.get? "success" = none)
    (deeper : payload.get? "results" = some results) (found : results.get? "success" = some v)
    (no : SaysNo v)
  /-- Nothing readable is said about success, but an error is reported. -/
  | error {reason : String} (success : (field? payload "success").bind truth? = none)
    (reported : field? payload "error" = some (.text reason)) (nonempty : reason ≠ "")

variable {p q : Value}

/-- A field is found at the top level, or else under `"results"`. -/
theorem field?_eq_some_iff {key : String} {v : Value} : field? p key = some v ↔
    p.get? key = some v ∨ p.get? key = none ∧
      ∃ results, p.get? "results" = some results ∧ results.get? key = some v := by
  rw [field?]
  cases htop : p.get? key with
  | none => simp [Option.bind_eq_some_iff]
  | some w => simp

theorem reportsFailure_iff :
    reportsFailure p = true ↔ p.get? "success" = some (.boolean false) := by
  rw [reportsFailure, beq_iff_eq]
  constructor
  · intro h
    obtain ⟨v, hget, hboolean⟩ := Option.bind_eq_some_iff.1 h
    cases v with
    | boolean b =>
      cases hboolean
      exact hget
    | _ => exact nomatch hboolean
  · intro h
    rw [h]
    rfl

/-- Only objects have fields. -/
theorem isSome_fields?_of_get? {key : String} {v : Value} (h : p.get? key = some v) :
    p.fields?.isSome = true := by
  cases p with
  | object fields => rfl
  | _ => exact nomatch h

theorem isSome_fields?_of_field? {key : String} {v : Value} (h : field? p key = some v) :
    p.fields?.isSome = true := by
  rcases field?_eq_some_iff.1 h with htop | ⟨-, results, hresults, -⟩
  · exact isSome_fields?_of_get? htop
  · exact isSome_fields?_of_get? hresults

/-- The check lets through the objects that do not report a failure, as they are. -/
theorem check_eq_ok_iff :
    check p = .ok q ↔ q = p ∧ p.fields?.isSome = true ∧ reportsFailure p = false := by
  rw [check]
  by_cases hfields : p.fields?.isNone = true
  · rw [if_pos hfields]
    have hnone : p.fields? = none := Option.isNone_iff_eq_none.1 hfields
    simp [hnone]
  · have hsome : p.fields?.isSome = true := by
      simpa [Option.isNone_iff_eq_none, Option.isSome_iff_ne_none] using hfields
    rw [if_neg hfields]
    cases hreports : reportsFailure p with
    | true => simp
    | false => simp [hsome, eq_comm]

/-- A reported failure becomes an error, with the reason and the traceback of the payload. -/
theorem check_of_reportsFailure (h : reportsFailure p = true) : check p = .error (failure p) := by
  have hsome := isSome_fields?_of_get? (reportsFailure_iff.1 h)
  have hfields : ¬ p.fields?.isNone = true := by
    rw [← Option.not_isSome, hsome]
    exact Bool.noConfusion
  rw [check, if_neg hfields, if_pos h]

/-- A payload is read as a failure if it reports one or hides one. -/
theorem success_eq_false_iff :
    (interpret p).success = false ↔ reportsFailure p = true ∨ HidesFailure p := by
  show ((field? p "success").bind truth?).getD
    ((field? p "error").bind errorText?).isNone = false ↔ _
  -- an error counts only where nothing readable is said about success
  constructor
  · intro h
    cases hword : (field? p "success").bind truth? with
    | none =>
      rw [hword, Option.getD_none, Option.isNone_eq_false_iff, Option.isSome_iff_exists] at h
      obtain ⟨reason, herror⟩ := h
      obtain ⟨v, hfield, htext⟩ := Option.bind_eq_some_iff.1 herror
      obtain ⟨rfl, hne⟩ := errorText?_eq_some_iff.1 htext
      exact .inr (.error hword hfield hne)
    | some b =>
      rw [hword, Option.getD_some] at h
      subst h
      obtain ⟨v, hfield, htruth⟩ := Option.bind_eq_some_iff.1 hword
      have hno := truth?_eq_false_iff.1 htruth
      rcases field?_eq_some_iff.1 hfield with htop | ⟨htop, results, hresults, hfound⟩
      · cases hno with
        | boolean => exact .inl (reportsFailure_iff.2 htop)
        | word hs => exact .inr (.word htop (.word hs))
      · exact .inr (.nested htop hresults hfound hno)
  · have hdenied : ∀ {v}, field? p "success" = some v → SaysNo v →
        ((field? p "success").bind truth?).getD
          ((field? p "error").bind errorText?).isNone = false := by
      intro v hfield hno
      rw [hfield, Option.bind_some, truth?_eq_false_iff.2 hno, Option.getD_some]
    rintro (hreports | hhides)
    · exact hdenied (field?_eq_some_iff.2 (.inl (reportsFailure_iff.1 hreports))) .boolean
    · cases hhides with
      | word htop hno => exact hdenied (field?_eq_some_iff.2 (.inl htop)) hno
      | nested htop hresults hfound hno =>
        exact hdenied (field?_eq_some_iff.2 (.inr ⟨htop, _, hresults, hfound⟩)) hno
      | error hword hfield hne =>
        rw [hword, hfield, Option.bind_some, errorText?_eq_some_iff.2 ⟨rfl, hne⟩]
        rfl

/-- A boolean hides nothing. -/
theorem HidesFailure.get?_ne_boolean (h : HidesFailure p) (b : Bool) :
    p.get? "success" ≠ some (.boolean b) := by
  intro hget
  cases h with
  | word success => exact nomatch success.symm.trans hget
  | nested success => exact nomatch success.symm.trans hget
  | error success =>
    rw [field?_eq_some_iff.2 (.inl hget)] at success
    exact nomatch success

/-- A hidden failure passes the check. -/
theorem HidesFailure.check (h : HidesFailure p) : check p = .ok p := by
  refine check_eq_ok_iff.2 ⟨rfl, ?_, ?_⟩
  · cases h with
    | word success => exact isSome_fields?_of_get? success
    | nested _ deeper => exact isSome_fields?_of_get? deeper
    | error _ reported => exact isSome_fields?_of_field? reported
  · rw [Bool.eq_false_iff, Ne, reportsFailure_iff]
    exact h.get?_ne_boolean false

/-- What passes the check is read as a success if and only if it hides no failure. -/
theorem success_of_check (h : check p = .ok q) :
    (interpret q).success = true ↔ ¬ HidesFailure q := by
  obtain ⟨rfl, -, hreports⟩ := check_eq_ok_iff.1 h
  rw [← Bool.not_eq_false, not_iff_not, success_eq_false_iff, hreports]
  simp

/-! ## Gateways and runs -/

variable {transport : Transport} {g : Gateway} {source : String} {r : Results}

/-- The results of a gateway are those of a payload that it was answered and that passed the
check. -/
theorem simulate_eq_ok [Json.Diagnosis] (h : g.simulate transport source = .ok r) :
    ∃ p, g.client.execute transport source = .ok p ∧ check p = .ok p ∧ r = interpret p := by
  rw [Gateway.simulate, Gateway.execute] at h
  cases hexecute : g.client.execute transport source with
  | error e => simp [hexecute, Except.map] at h
  | ok p =>
    rw [hexecute] at h
    cases hcheck : check p with
    | error e => simp [hcheck, Except.map] at h
    | ok q =>
      simp only [hcheck, Except.map, Except.ok.injEq] at h
      obtain ⟨rfl, -⟩ := check_eq_ok_iff.1 hcheck
      exact ⟨q, rfl, hcheck, h.symm⟩

/-- Results come from a payload that was read as a success or hides a failure. -/
theorem success_or_hidden_of_simulate [Json.Diagnosis] (h : g.simulate transport source = .ok r) :
    r.success = true ∨
      ∃ p, g.client.execute transport source = .ok p ∧ HidesFailure p ∧ r = interpret p := by
  obtain ⟨p, hexecute, hcheck, rfl⟩ := simulate_eq_ok h
  by_cases hhides : HidesFailure p
  · exact .inr ⟨p, hexecute, hhides, rfl⟩
  · exact .inl ((success_of_check hcheck).2 hhides)

/-- **A failure becomes an error unless the payload hides it.** -/
theorem failure_surfaces_unless_hidden [Json.Diagnosis] (p : Value) (transport : Transport)
    (g : Gateway) (source : String) :
    (∀ q, check p = .ok q → q = p ∧ ((interpret p).success = true ↔ ¬ HidesFailure p)) ∧
    ((interpret p).success = false →
      check p = .error (failure p) ∨ HidesFailure p ∧ check p = .ok p) ∧
    (∀ b, p.get? "success" = some (.boolean b) →
      (check p = .ok p ↔ (interpret p).success = true)) ∧
    (∀ r, g.simulate transport source = .ok r → r.success = true ∨
      ∃ p, g.client.execute transport source = .ok p ∧ HidesFailure p ∧ r = interpret p) ∧
    ∀ schedule, (∀ outcome, .poll (some outcome) ∈ schedule →
        outcome = g.simulate transport source) →
      (Run.after schedule).status = .completed →
      ∃ r, (∀ task, (Run.after schedule).outcome? task = some (.ok r)) ∧ (r.success = true ∨
        ∃ p, g.client.execute transport source = .ok p ∧ HidesFailure p ∧ r = interpret p) := by
  refine ⟨?passed, ?failed, ?plain, fun r => success_or_hidden_of_simulate, ?completed⟩
  case passed =>
    intro q hcheck
    have hsame := (check_eq_ok_iff.1 hcheck).1
    subst hsame
    exact ⟨rfl, success_of_check hcheck⟩
  case failed =>
    intro hsuccess
    rcases success_eq_false_iff.1 hsuccess with hreports | hhides
    · exact .inl (check_of_reportsFailure hreports)
    · exact .inr ⟨hhides, hhides.check⟩
  case plain =>
    intro b hget
    constructor
    · intro hcheck
      exact (success_of_check hcheck).2 fun hhides => hhides.get?_ne_boolean b hget
    · intro hsuccess
      have hreports : reportsFailure p = false := by
        by_contra hreports
        have hfailure := success_eq_false_iff.2 (.inl (eq_true_of_ne_false hreports))
        exact nomatch hsuccess.symm.trans hfailure
      exact check_eq_ok_iff.2 ⟨rfl, isSome_fields?_of_get? hget, hreports⟩
  case completed =>
    intro schedule hresolved hcompleted
    -- a completed run has results, and its gateway had resolved to them at one of the polls
    have hstands := Run.stands_after schedule
    have hended := hstands.isOver_of_isTerminal (by rw [hcompleted]; rfl)
    obtain ⟨outcome, houtcome⟩ := Option.isSome_iff_exists.1 (Run.isSome_outcome? hended "")
    obtain ⟨r, rfl⟩ := ((hstands.agrees "").2 outcome houtcome).completed.1 hcompleted
    have hstage := hstands.stage_of_outcome? houtcome
    have hsimulate := hresolved _ (Run.resolved_of_after hstage)
    refine ⟨r, ?_, success_or_hidden_of_simulate hsimulate.symm⟩
    intro task
    rw [Run.outcome?, hstage]

/-- An error alone passes the check, and is read as a failure all the same. -/
theorem not_forall_success_of_check :
    ¬ ∀ p q : Value, check p = .ok q → (interpret q).success = true := by
  intro hall
  have hhides : HidesFailure (.object [("error", .text "boom")]) :=
    .error rfl rfl (by decide)
  have hsuccess := hall _ _ hhides.check
  exact (success_of_check hhides.check).1 hsuccess hhides

end OpticalBench.Payload
