import OpticalBench.Proofs.Run.Lifecycle
import OpticalBench.Proofs.Run.Notification
import OpticalBench.Run.Clock

/-!
# No request to cancel is lost, and none acts late

A run is polled and asked to cancel in any order, and its gateway may answer in any way at any poll,
by crashing too.

- `Heeds`: a run that was asked in time ends cancelled when it is polled; `Heeds.undergo` shows that
  nothing in between takes the request back.
- `Withdrawn`: a run that was asked before its first poll never gets as far as calling the gateway.
- `through_heedsCancels`: the first poll at which the gateway answers divides the requests that are
  heeded from those that do nothing.
-/

namespace OpticalBench

/-- What a run brings whose gateway answers this; `task` is how the run is referred to. -/
def GatewayAnswer.outcome (task : String) : GatewayAnswer → Except GatewayError Results
  | results r => .ok r
  | error e => .error e
  | crash message => .error (Run.crashError task message)

namespace Run

variable {r : Run}

theorem through_append (schedule more : List Incident) :
    through (schedule ++ more) = more.foldl undergo (through schedule) := List.foldl_append

/-! ## What a request does in time -/

/-- A run that ended because it was asked to cancel. -/
structure IsCancelled (r : Run) : Prop where
  stage_eq : r.stage = .ended (.error .cancelled)
  status_eq : r.status = .cancelled

theorem IsCancelled.outcome?_eq (h : r.IsCancelled) (task : String) :
    r.outcome? task = some (.error .cancelled) := by
  rw [outcome?, h.stage_eq]

theorem IsCancelled.undergo (h : r.IsCancelled) (i : Incident) : (r.undergo i).IsCancelled := by
  cases i with
  | cancel => exact ⟨h.stage_eq, h.status_eq⟩
  | poll answer =>
    have hover : r.isOver = true := by rw [isOver, h.stage_eq]
    show (r.poll answer).IsCancelled
    rw [poll_of_isOver hover]
    exact h

/-- A request that is at hand goes before the answer of the gateway. -/
theorem isCancelled_poll (hopen : r.isOver = false) (hasked : r.cancelRequested = true)
    (answer : Option GatewayAnswer) : (r.poll answer).IsCancelled := by
  rw [poll_of_asked hopen hasked]
  exact ⟨rfl, rfl⟩

/-- A poll without an answer and without a request ends nothing. -/
theorem isOver_poll_none (hopen : r.isOver = false) (hasked : r.cancelRequested = false) :
    (r.poll none).isOver = false ∧ (r.poll none).cancelRequested = false := by
  rw [poll_of_unasked hopen hasked, cancelRequested_proceed]
  refine ⟨?_, hasked⟩
  unfold proceed
  split
  · rfl
  · exact hopen

/-- Until its gateway answers, a run ends in no way but one. -/
theorem open_or_isCancelled {schedule : List Incident}
    (h : ∀ answer, .poll (some answer) ∉ schedule) :
    (through schedule).isOver = false ∨ (through schedule).IsCancelled := by
  induction schedule using List.reverseRecOn with
  | nil => exact .inl rfl
  | append_singleton schedule i ih =>
    rw [through_append]
    show ((through schedule).undergo i).isOver = false ∨ ((through schedule).undergo i).IsCancelled
    rcases ih fun answer hmem => h answer (List.mem_append_left _ hmem) with hopen | hcancelled
    · -- only a poll that finds a request can end it
      cases i with
      | cancel => exact .inl hopen
      | poll answer =>
        cases answer with
        | some answer => exact absurd List.mem_concat_self (h answer)
        | none =>
          cases hasked : (through schedule).cancelRequested with
          | true => exact .inr (isCancelled_poll hopen hasked none)
          | false => exact .inl (isOver_poll_none hopen hasked).1
    · exact .inr (hcancelled.undergo i)

/-- A run that was asked to cancel before it was over. -/
def Heeds (r : Run) : Prop :=
  r.isOver = false ∧ r.cancelRequested = true ∨ r.IsCancelled

/-- Only the poll that ends the run uses the request up. -/
theorem Heeds.undergo (h : r.Heeds) (i : Incident) : (r.undergo i).Heeds := by
  rcases h with ⟨hopen, hasked⟩ | hcancelled
  · cases i with
    | cancel => exact .inl ⟨hopen, rfl⟩
    | poll answer => exact .inr (isCancelled_poll hopen hasked answer)
  · exact .inr (hcancelled.undergo i)

theorem Heeds.isCancelled_poll (h : r.Heeds) (answer : Option GatewayAnswer) :
    (r.poll answer).IsCancelled := by
  rcases h with ⟨hopen, hasked⟩ | hcancelled
  · exact Run.isCancelled_poll hopen hasked answer
  · exact hcancelled.undergo (.poll answer)

theorem IsCancelled.foldl (h : r.IsCancelled) (schedule : List Incident) :
    (schedule.foldl Run.undergo r).IsCancelled :=
  List.foldlRecOn schedule _ h fun _ h i _ => h.undergo i

/-- However often it is asked again, the first poll ends it. -/
theorem Heeds.foldl (h : r.Heeds) {schedule : List Incident} {answer : Option GatewayAnswer}
    (hpoll : .poll answer ∈ schedule) : (schedule.foldl Run.undergo r).IsCancelled := by
  induction schedule generalizing r with
  | nil => exact nomatch hpoll
  | cons i schedule ih =>
    rcases List.mem_cons.1 hpoll with rfl | hlater
    · exact (h.isCancelled_poll answer).foldl schedule
    · exact ih (h.undergo i) hlater

/-! ## What a request does before the first poll -/

/-- A run that was asked to cancel before it called its gateway, and did nothing but end. -/
inductive Withdrawn : Run → Prop
  | asked : Withdrawn ⟨[], true, .waiting⟩
  | ended (asked : Bool) : Withdrawn ⟨[.announced .cancelled], asked, .ended (.error .cancelled)⟩

theorem Withdrawn.undergo (h : Withdrawn r) (i : Incident) : Withdrawn (r.undergo i) := by
  cases h with
  | asked =>
    cases i with
    | cancel => exact .asked
    | poll => exact .ended false
  | ended asked =>
    cases i with
    | cancel => exact .ended true
    | poll => exact .ended asked

theorem Withdrawn.foldl (h : Withdrawn r) (schedule : List Incident) :
    Withdrawn (schedule.foldl Run.undergo r) :=
  List.foldlRecOn schedule _ h fun _ h i _ => h.undergo i

theorem Withdrawn.calls_eq_zero (h : Withdrawn r) : .running ∉ r.history ∧ r.calls = 0 := by
  cases h with
  | asked => exact ⟨by decide, rfl⟩
  | ended asked =>
    have hhistory : .running ∉ [RunStatus.queued, .cancelled] := by decide
    exact ⟨hhistory, rfl⟩

/-- Before its first poll a run does nothing. -/
theorem through_of_unpolled {schedule : List Incident} (h : ∀ answer, .poll answer ∉ schedule) :
    (through schedule).trace = [] ∧ (through schedule).stage = .waiting := by
  induction schedule using List.reverseRecOn with
  | nil => exact ⟨rfl, rfl⟩
  | append_singleton schedule i ih =>
    rw [through_append]
    cases i with
    | cancel => exact ih fun answer hmem => h answer (List.mem_append_left _ hmem)
    | poll answer => exact absurd List.mem_concat_self (h answer)

theorem withdrawn_cancel (htrace : r.trace = []) (hstage : r.stage = .waiting) :
    Withdrawn r.cancel := by
  rw [cancel, htrace, hstage]
  exact .asked

/-! ## What happens after the end -/

/-- Nothing that happens to a run that is over has any effect. -/
theorem foldl_of_isOver (h : r.isOver = true) (schedule : List Incident) :
    (schedule.foldl undergo r).status = r.status ∧
      ∀ task, (schedule.foldl undergo r).outcome? task = r.outcome? task := by
  induction schedule generalizing r with
  | nil => exact ⟨rfl, fun _ => rfl⟩
  | cons i schedule ih =>
    cases i with
    | cancel => exact ih (r := r.cancel) h
    | poll answer =>
      rw [List.foldl_cons, undergo, poll_of_isOver h]
      exact ih h

/-- A run that is not asked to cancel waits for its gateway. -/
theorem open_of_unasked {schedule : List Incident} (hasked : .cancel ∉ schedule)
    (hanswer : ∀ answer, .poll (some answer) ∉ schedule) :
    (through schedule).isOver = false ∧ (through schedule).cancelRequested = false := by
  induction schedule using List.reverseRecOn with
  | nil => exact ⟨rfl, rfl⟩
  | append_singleton schedule i ih =>
    obtain ⟨hopen, hunasked⟩ := ih (fun hmem => hasked (List.mem_append_left _ hmem))
      fun answer hmem => hanswer answer (List.mem_append_left _ hmem)
    rw [through_append]
    cases i with
    | cancel => exact absurd List.mem_concat_self hasked
    | poll answer =>
      cases answer with
      | none => exact isOver_poll_none hopen hunasked
      | some answer =>
        exact absurd List.mem_concat_self (hanswer answer)

/-- A run that nobody has asked to cancel ends with the answer of its gateway. -/
theorem outcome?_poll_some (hopen : r.isOver = false) (hunasked : r.cancelRequested = false)
    (answer : GatewayAnswer) (task : String) :
    (r.poll (some answer)).isOver = true ∧
      (r.poll (some answer)).outcome? task = some (answer.outcome task) := by
  rw [poll_of_unasked hopen hunasked]
  unfold proceed
  split
  · cases answer <;> exact ⟨rfl, rfl⟩
  · cases answer <;> exact ⟨rfl, rfl⟩

end Run

/-- A run that is asked to cancel wants to be polled, and the poll ends it. -/
theorem TimedRun.finish_cancel (t : TimedRun) (hopen : t.run.isOver = false) :
    t.cancel.finish.now = t.now ∧ t.cancel.finish.run.status = .cancelled ∧
      ∀ task, t.cancel.finish.run.outcome? task = some (.error .cancelled) := by
  have hawake : t.cancel.awake = true := by
    show (!t.run.isOver) = true
    rw [hopen]
    rfl
  have hcancelled : t.cancel.settle.run.IsCancelled := by
    rw [settle, if_pos hawake]
    exact Run.isCancelled_poll (r := t.run.cancel) hopen rfl _
  have hover : t.cancel.settle.run.isOver = true := by rw [Run.isOver, hcancelled.stage_eq]
  have hfinish : t.cancel.finish = t.cancel.settle := if_pos hover
  rw [hfinish]
  refine ⟨?_, hcancelled.status_eq, hcancelled.outcome?_eq⟩
  rw [settle, if_pos hawake]
  rfl

namespace Run

/-! ## The promise -/

/-- What requests to cancel do in the course of a schedule. -/
structure HeedsCancels (schedule : List Incident) : Prop where
  /-- If the run was asked before the first poll at which its gateway answers, the next poll ends it
  cancelled. -/
  heeded : ∀ before after polled, schedule = before ++ .cancel :: after →
    (∀ answer, .poll (some answer) ∉ before) → .poll polled ∈ after →
    (through schedule).status = .cancelled ∧
      ∀ task, (through schedule).outcome? task = some (.error .cancelled)
  /-- If it was asked before its first poll, it is never running and never calls its gateway. -/
  withdrawn : ∀ before after, schedule = before ++ .cancel :: after →
    (∀ answer, .poll answer ∉ before) →
    .running ∉ (through schedule).history ∧ (through schedule).calls = 0
  /-- Requests after the end, and polls, change neither its status nor what it has brought. -/
  late : (through schedule).isOver = true → ∀ more,
    (through (schedule ++ more)).status = (through schedule).status ∧
      ∀ task, (through (schedule ++ more)).outcome? task = (through schedule).outcome? task
  /-- If it was not asked before the first poll at which its gateway answers, it brings that answer,
  however often it is asked afterwards. -/
  answered : ∀ before answer after, schedule = before ++ .poll (some answer) :: after →
    .cancel ∉ before → (∀ answer, .poll (some answer) ∉ before) →
    ∀ task, (through schedule).outcome? task = some (answer.outcome task)
  /-- A run that has to listen for notifications, and is woken by one or finds a permit, does and
  brings the same. -/
  listened : (ListeningRun.through schedule).run.trace = (through schedule).trace ∧
    (ListeningRun.through schedule).run.stage = (through schedule).stage
  /-- On a clock, whoever asks a run that is not over, and then waits, waits no time. -/
  prompt : ∀ t : TimedRun, t.run = through schedule → (through schedule).isOver = false →
    t.cancel.finish.now = t.now ∧ t.cancel.finish.run.status = .cancelled ∧
      ∀ task, t.cancel.finish.run.outcome? task = some (.error .cancelled)

/-- **No request to cancel is lost, and none acts late**, whatever the schedule and whatever the
gateway answers. -/
theorem through_heedsCancels (schedule : List Incident) : HeedsCancels schedule := by
  constructor
  case heeded =>
    rintro before after polled rfl hunanswered hpolled
    have hheeds : ((through before).undergo .cancel).Heeds := by
      rcases open_or_isCancelled hunanswered with hopen | hcancelled
      · exact .inl ⟨hopen, rfl⟩
      · exact .inr (hcancelled.undergo .cancel)
    have hend : (through (before ++ .cancel :: after)).IsCancelled := by
      rw [through_append]
      exact hheeds.foldl hpolled
    exact ⟨hend.status_eq, hend.outcome?_eq⟩
  case withdrawn =>
    rintro before after rfl hunpolled
    obtain ⟨htrace, hstage⟩ := through_of_unpolled hunpolled
    rw [through_append, List.foldl_cons]
    exact ((withdrawn_cancel htrace hstage).foldl after).calls_eq_zero
  case late =>
    intro hover more
    rw [through_append]
    exact foldl_of_isOver hover more
  case answered =>
    rintro before answer after rfl hunasked hunanswered task
    obtain ⟨hopen, hunrequested⟩ := open_of_unasked hunasked hunanswered
    obtain ⟨hover, houtcome⟩ := outcome?_poll_some hopen hunrequested answer task
    rw [through_append, List.foldl_cons]
    exact ((foldl_of_isOver hover after).2 task).trans houtcome
  case listened =>
    rw [(ListeningRun.refines_through schedule).run_eq]
    exact ⟨rfl, rfl⟩
  case prompt =>
    intro t hrun hopen
    exact t.finish_cancel (hrun ▸ hopen)

/-- The gateway has answered by the second poll, but the second request came before that poll. -/
example : (through [.poll none, .cancel, .cancel, .poll (some (.crash "down")), .cancel]).history =
    [.queued, .running, .cancelled] := by
  rfl

end Run

end OpticalBench
