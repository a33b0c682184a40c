import Mathlib.Data.List.Induction
import OpticalBench.Run.Submission

/-!
# What can become of a run

A run is polled and asked to cancel in any order. Of a gateway that does not crash, a run gets to know
only what it has resolved to, if anything, at the moment of a poll.

- `Step`, `after`: a schedule of polls and requests to cancel, and the run after it.
- `Stands`: the four ways in which such a run can stand; `Stands.step` shows that a step leads from
  one of them to another, `stands_after` that a schedule does.
- `Agrees`: a status says what an outcome is.
- `after_isSafe`: whatever the schedule, statuses only advance, the gateway is called at most once,
  and the last status agrees with the outcome.
-/

namespace OpticalBench.Run

/-- Something that happens to a run whose gateway does not crash. -/
inductive Step
  /-- The run is polled; its gateway has resolved to something or is still pending. -/
  | poll (resolved : Option (Except GatewayError Results))
  /-- Somebody asks the run to cancel. -/
  | cancel

/-- A run after something has happened to it. -/
def step (r : Run) : Step → Run
  | .poll resolved => r.poll (resolved.map Submission.answer)
  | .cancel => r.cancel

/-- A new run after all that a schedule says. -/
def after (schedule : List Step) : Run := schedule.foldl step fresh

/-- The statuses of a run in the order in which they were announced. It starts queued. -/
def history (r : Run) : List RunStatus := .queued :: r.log.reverse

/-! ## One step -/

/-- How a run can stand: it is waiting to be polled, waiting for its gateway, was withdrawn before it
called the gateway, or has ended after the call. It may have been asked to cancel in any of these. -/
inductive Stands : Run → Prop
  | waiting (asked : Bool) : Stands ⟨[], asked, .waiting⟩
  | calling (asked : Bool) : Stands ⟨[.called, .announced .running], asked, .calling⟩
  | withdrawn (asked : Bool) :
    Stands ⟨[.announced .cancelled], asked, .ended (.error .cancelled)⟩
  | ended (asked : Bool) (outcome : Except GatewayError Results) :
    Stands ⟨[.announced (statusOf outcome), .called, .announced .running], asked, .ended outcome⟩

variable {r : Run}

/-- A step leads from one of these ways to one of them. -/
theorem Stands.step (h : Stands r) (s : Step) : Stands (r.step s) := by
  cases s with
  | cancel =>
    cases h with
    | waiting => exact .waiting true
    | calling => exact .calling true
    | withdrawn => exact .withdrawn true
    | ended _ outcome => exact .ended true outcome
  | poll resolved =>
    cases h with
    | waiting asked =>
      cases asked with
      | true => exact .withdrawn false
      | false =>
        -- the gateway is called, and may have resolved by the end of the same poll
        cases resolved with
        | none => exact .calling false
        | some outcome => cases outcome <;> exact .ended false _
    | calling asked =>
      cases asked with
      | true => exact .ended false (.error .cancelled)
      | false =>
        cases resolved with
        | none => exact .calling false
        | some outcome => cases outcome <;> exact .ended false _
    | withdrawn asked => exact .withdrawn asked
    | ended asked outcome => exact .ended asked outcome

/-- A run that has ended does nothing more. -/
theorem step_of_isOver (hended : r.isOver = true) (s : Step) :
    (r.step s).trace = r.trace ∧ (r.step s).stage = r.stage := by
  cases s with
  | cancel => exact ⟨rfl, rfl⟩
  | poll resolved =>
    have hpoll : r.poll (resolved.map Submission.answer) = r := by
      rw [poll, if_pos hended]
    show (r.poll _).trace = r.trace ∧ (r.poll _).stage = r.stage
    rw [hpoll]
    exact ⟨rfl, rfl⟩

/-- Once the gateway has resolved, the next poll ends the run. -/
theorem Stands.isOver_poll (h : Stands r) (outcome : Except GatewayError Results) :
    (r.step (.poll (some outcome))).isOver = true := by
  cases h with
  | waiting asked => cases asked <;> cases outcome <;> rfl
  | calling asked => cases asked <;> cases outcome <;> rfl
  | withdrawn => rfl
  | ended => rfl

/-- A run gets results only from its gateway. -/
theorem Stands.resolved_of_step {results : Results} {s : Step} (h : Stands r)
    (hended : (r.step s).stage = .ended (.ok results)) :
    r.stage = .ended (.ok results) ∨ s = .poll (some (.ok results)) := by
  cases s with
  | cancel => exact .inl hended
  | poll resolved =>
    cases h with
    | withdrawn => exact .inl hended
    | ended => exact .inl hended
    | waiting asked =>
      cases asked with
      | true => exact nomatch hended
      | false =>
        rcases resolved with _ | _ | _
        · exact nomatch hended
        · exact nomatch hended
        · cases hended
          exact .inr rfl
    | calling asked =>
      cases asked with
      | true => exact nomatch hended
      | false =>
        rcases resolved with _ | _ | _
        · exact nomatch hended
        · exact nomatch hended
        · cases hended
          exact .inr rfl

/-! ## Schedules -/

theorem after_append (schedule more : List Step) :
    after (schedule ++ more) = more.foldl step (after schedule) := List.foldl_append

theorem after_concat (schedule : List Step) (s : Step) :
    after (schedule ++ [s]) = (after schedule).step s := by
  rw [after_append]
  rfl

theorem stands_after (schedule : List Step) : Stands (after schedule) := by
  induction schedule using List.reverseRecOn with
  | nil => exact .waiting false
  | append_singleton schedule s ih =>
    rw [after_concat]
    exact ih.step s

/-- After the end of a run a schedule changes nothing that it did and nothing that it brought. -/
theorem after_append_of_isOver {schedule : List Step} (hended : (after schedule).isOver = true)
    (more : List Step) : (after (schedule ++ more)).trace = (after schedule).trace ∧
      (after (schedule ++ more)).stage = (after schedule).stage := by
  induction more using List.reverseRecOn with
  | nil => simp
  | append_singleton more s ih =>
    obtain ⟨htrace, hstage⟩ := ih
    have hended' : (after (schedule ++ more)).isOver = true := by
      rw [isOver, hstage]
      exact hended
    obtain ⟨htrace', hstage'⟩ := step_of_isOver hended' s
    rw [← List.append_assoc, after_concat, htrace', hstage']
    exact ⟨htrace, hstage⟩

/-- The results of a run are what its gateway had resolved to at one of the polls. -/
theorem resolved_of_after {schedule : List Step} {results : Results}
    (h : (after schedule).stage = .ended (.ok results)) : .poll (some (.ok results)) ∈ schedule := by
  induction schedule using List.reverseRecOn with
  | nil => exact nomatch h
  | append_singleton schedule s ih =>
    rw [after_concat] at h
    rw [List.mem_append, List.mem_singleton]
    exact ((stands_after schedule).resolved_of_step h).imp ih Eq.symm

/-! ## Statuses and outcomes -/

/-- A status says what an outcome is. -/
structure Agrees (status : RunStatus) (outcome : Except GatewayError Results) : Prop where
  completed : status = .completed ↔ ∃ results, outcome = .ok results
  cancelled : status = .cancelled ↔ outcome = .error .cancelled
  failed : ∀ reason, status = .failed reason ↔
    ∃ e : GatewayError, e ≠ .cancelled ∧ e.message = reason ∧ outcome = .error e

/-- The status that a run ends with agrees with its outcome, and is terminal. -/
theorem agrees_statusOf (outcome : Except GatewayError Results) :
    Agrees (statusOf outcome) outcome ∧ (statusOf outcome).isTerminal = true := by
  rcases outcome with e | results
  · by_cases he : e = .cancelled
    · subst he
      exact ⟨⟨by simp [statusOf], by simp [statusOf], by simp [statusOf]⟩, rfl⟩
    · have hstatus : statusOf (.error e) = .failed e.message := by
        cases e <;> first | rfl | exact absurd rfl he
      rw [hstatus]
      refine ⟨⟨by simp, by simp [he], fun reason => ?_⟩, rfl⟩
      simp [he]
  · exact ⟨⟨by simp [statusOf], by simp [statusOf], by simp [statusOf]⟩, rfl⟩

/-- A run is over if and only if its status is terminal, and then the status agrees with what it
has brought. -/
theorem Stands.agrees (h : Stands r) (task : String) :
    ((r.outcome? task).isSome = true ↔ r.status.isTerminal = true) ∧
      ∀ outcome, r.outcome? task = some outcome → Agrees r.status outcome := by
  cases h with
  | waiting => exact ⟨iff_of_false Bool.noConfusion Bool.noConfusion, fun _ h => nomatch h⟩
  | calling => exact ⟨iff_of_false Bool.noConfusion Bool.noConfusion, fun _ h => nomatch h⟩
  | withdrawn =>
    refine ⟨iff_of_true rfl rfl, fun outcome h => ?_⟩
    cases h
    exact (agrees_statusOf (.error .cancelled)).1
  | ended asked outcome =>
    obtain ⟨hagrees, hterminal⟩ := agrees_statusOf outcome
    refine ⟨iff_of_true rfl hterminal, fun outcome' h => ?_⟩
    cases h
    exact hagrees

/-- The statuses of a run: at most queued, running and a terminal one, or queued and cancelled. -/
theorem Stands.history_advances (h : Stands r) : ∃ last : RunStatus, last.isTerminal = true ∧
    (r.history <+: [.queued, .running, last] ∨ r.history <+: [.queued, .cancelled]) := by
  cases h with
  | waiting => exact ⟨.completed, rfl, .inl ⟨[.running, .completed], rfl⟩⟩
  | calling => exact ⟨.completed, rfl, .inl ⟨[.completed], rfl⟩⟩
  | withdrawn => exact ⟨.cancelled, rfl, .inr List.prefix_rfl⟩
  | ended _ outcome => exact ⟨statusOf outcome, (agrees_statusOf outcome).2, .inl List.prefix_rfl⟩

/-- The gateway is called at most once, and only after the run was announced as running. -/
theorem Stands.calls_le_one (h : Stands r) : r.calls ≤ 1 ∧
    ∀ later earlier, r.trace = later ++ .called :: earlier → .announced .running ∈ earlier := by
  have habsent : ∀ {es later earlier : List Effect}, .called ∉ es →
      es ≠ later ++ .called :: earlier := by
    rintro _ later earlier hes rfl
    exact hes (List.mem_append_right later List.mem_cons_self)
  have hcall : ∀ later earlier, [Effect.called, .announced .running] = later ++ .called :: earlier →
      .announced .running ∈ earlier := by
    intro later earlier h
    cases later with
    | nil => exact (List.cons.inj h).2 ▸ List.mem_singleton_self _
    | cons _ later => exact absurd (List.cons.inj h).2 (habsent (by decide))
  cases h with
  | waiting => exact ⟨Nat.zero_le 1, fun _ _ h => absurd h (habsent List.not_mem_nil)⟩
  | calling => exact ⟨Nat.le_refl 1, hcall⟩
  | withdrawn => exact ⟨Nat.zero_le 1, fun _ _ h => absurd h (habsent (by simp))⟩
  | ended _ outcome =>
    refine ⟨by simp [calls], fun later earlier h => ?_⟩
    cases later with
    | nil => exact absurd (List.cons.inj h).1 (by simp)
    | cons _ later => exact hcall later earlier (List.cons.inj h).2

/-! ## The lifecycle -/

/-- What is safe about the run after a schedule. -/
structure IsSafe (schedule : List Step) (r : Run) : Prop where
  /-- The statuses announced so far are the beginning of a lifecycle. -/
  advances : ∃ last : RunStatus, last.isTerminal = true ∧
    (r.history <+: [.queued, .running, last] ∨ r.history <+: [.queued, .cancelled])
  /-- After a terminal status nothing is announced, and the outcome stays. -/
  final : r.status.isTerminal = true → ∀ more task,
    (after (schedule ++ more)).history = r.history ∧
      (after (schedule ++ more)).outcome? task = r.outcome? task
  called_once : r.calls ≤ 1
  /-- Before the gateway is called the run is announced as running. -/
  called_running : ∀ later earlier, r.trace = later ++ .called :: earlier →
    .announced .running ∈ earlier
  /-- Whoever waits is told the outcome as soon as the status is terminal, and not before. -/
  waited : ∀ task, (r.outcome? task).isSome = true ↔ r.status.isTerminal = true
  /-- The status agrees with what whoever waits is told. -/
  agrees : ∀ task outcome, r.outcome? task = some outcome → Agrees r.status outcome
  /-- Results are what the gateway resolved to. -/
  genuine : ∀ task results, r.outcome? task = some (.ok results) →
    .poll (some (.ok results)) ∈ schedule
  /-- Once the gateway has resolved, a poll brings the run to its end. -/
  ends : ∀ outcome task, ((r.step (.poll (some outcome))).outcome? task).isSome = true

/-- Only a run that is over has brought something. -/
theorem Stands.stage_of_outcome? (h : Stands r) {task : String}
    {outcome : Except GatewayError Results} (houtcome : r.outcome? task = some outcome) :
    r.stage = .ended outcome := by
  cases h with
  | waiting => exact nomatch houtcome
  | calling => exact nomatch houtcome
  | withdrawn => exact congrArg Stage.ended (Option.some.inj houtcome)
  | ended => exact congrArg Stage.ended (Option.some.inj houtcome)

theorem Stands.isOver_of_isTerminal (h : Stands r) (terminal : r.status.isTerminal = true) :
    r.isOver = true := by
  cases h with
  | waiting => exact nomatch terminal
  | calling => exact nomatch terminal
  | withdrawn => rfl
  | ended => rfl

/-- A run that is over has brought something. -/
theorem isSome_outcome? (hended : r.isOver = true) (task : String) :
    (r.outcome? task).isSome = true := by
  unfold isOver at hended
  unfold outcome?
  cases hstage : r.stage with
  | waiting => simp [hstage] at hended
  | calling => simp [hstage] at hended
  | ended => rfl
  | crashed => rfl

/-- **The lifecycle of a run is safe**, in whatever order it is polled and asked to cancel, and
whenever its gateway resolves, if ever. -/
theorem after_isSafe (schedule : List Step) : IsSafe schedule (after schedule) where
  advances := (stands_after schedule).history_advances
  final terminal more task := by
    have hended := (stands_after schedule).isOver_of_isTerminal terminal
    obtain ⟨htrace, hstage⟩ := after_append_of_isOver hended more
    constructor
    · rw [history, history, log, log, htrace]
    · rw [outcome?, outcome?, hstage]
  called_once := (stands_after schedule).calls_le_one.1
  called_running := (stands_after schedule).calls_le_one.2
  waited task := ((stands_after schedule).agrees task).1
  agrees task := ((stands_after schedule).agrees task).2
  genuine _ _ houtcome := resolved_of_after ((stands_after schedule).stage_of_outcome? houtcome)
  ends outcome task := isSome_outcome? ((stands_after schedule).isOver_poll outcome) task

-- the gateway has answered by the second poll, but cancelling goes first
example : (after [.poll none, .cancel, .poll (some (.ok default))]).history =
    [.queued, .running, .cancelled] := rfl

end OpticalBench.Run
