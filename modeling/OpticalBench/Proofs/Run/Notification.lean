import OpticalBench.Run.Lifecycle

/-!
# Listening for a notification

To ask a run to cancel is to notify it. A notification wakes whoever waits for one; if nobody waits,
a permit is kept for whoever comes next, and never more than one. A run waits for a notification and
for its gateway at once: whenever it is polled, it looks for the notification first, and lets the
gateway get on only if there is none.

- `Run.Incident`, `Run.through`: a schedule of polls and requests to cancel, and the run after it.
- `Notifier`: a permit, and the one who listens.
- `ListeningRun`: a run that gets to know of requests by listening.
- `ListeningRun.Refines`: it knows of a request whenever it was asked; `Refines.undergo` shows that
  this is so after every step, so listening loses nothing.
-/

namespace OpticalBench

namespace Run

/-- Something that happens to a run. -/
inductive Incident
  /-- The run is polled, and its gateway would answer this now. -/
  | poll (answer : Option GatewayAnswer)
  /-- Somebody asks the run to cancel. -/
  | cancel

/-- A run after something has happened to it. -/
def undergo (r : Run) : Incident → Run
  | .poll answer => r.poll answer
  | .cancel => r.cancel

/-- A new run after all that a schedule says. -/
def through (schedule : List Incident) : Run := schedule.foldl undergo fresh

/-- Let the gateway get on. -/
def proceed (r : Run) (answer : Option GatewayAnswer) : Run :=
  match r.stage with
  | .waiting => r.call.take answer
  | _ => r.take answer

variable {r : Run}

theorem poll_of_isOver (h : r.isOver = true) (answer : Option GatewayAnswer) : r.poll answer = r :=
  if_pos h

/-- A request that is at hand goes before the answer of the gateway, and is used up. -/
theorem poll_of_asked (hopen : r.isOver = false) (hasked : r.cancelRequested = true)
    (answer : Option GatewayAnswer) :
    r.poll answer = { r.finish (.error .cancelled) with cancelRequested := false } := by
  rw [poll, if_neg (Bool.eq_false_iff.1 hopen), if_pos hasked]

theorem poll_of_unasked (hopen : r.isOver = false) (hunasked : r.cancelRequested = false)
    (answer : Option GatewayAnswer) : r.poll answer = r.proceed answer := by
  rw [poll, if_neg (Bool.eq_false_iff.1 hopen), if_neg (Bool.eq_false_iff.1 hunasked)]
  rfl

/-- The gateway asks nobody to cancel. -/
theorem cancelRequested_proceed (r : Run) (answer : Option GatewayAnswer) :
    (r.proceed answer).cancelRequested = r.cancelRequested := by
  have htake : ∀ r : Run, (r.take answer).cancelRequested = r.cancelRequested := by
    intro r
    rcases answer with _ | answer
    · rfl
    · cases answer <;> rfl
  unfold proceed
  split
  · exact htake r.call
  · exact htake r

end Run

/-- What somebody does who listens for a notification. -/
inductive Listener
  /-- It has not looked for one. -/
  | idle
  /-- It has looked in vain. -/
  | waiting
  /-- It was notified. -/
  | woken

/-- What is known of notifications. -/
structure Notifier where
  /-- There was a notification while nobody was waiting. -/
  permit : Bool
  listener : Listener

namespace Notifier

/-- Notify whoever listens. -/
def notify (n : Notifier) : Notifier :=
  match n.listener with
  | .waiting => { n with listener := .woken }
  | .idle | .woken => { n with permit := true }

/-- Whether whoever listens will find a notification. -/
def isNotified (n : Notifier) : Bool :=
  match n.listener with
  | .idle => n.permit
  | .waiting => false
  | .woken => true

/-- Look for a notification. This uses up the permit, if there is one; if not, one waits. -/
def listen (n : Notifier) : Notifier :=
  match n.listener with
  | .idle => ⟨false, if n.permit then .woken else .waiting⟩
  | .waiting | .woken => n

theorem isNotified_notify (n : Notifier) : n.notify.isNotified = true := by
  obtain ⟨permit, listener⟩ := n
  cases listener <;> rfl

/-- Who has looked in vain has not been notified since. -/
theorem isNotified_listen {n : Notifier} (h : n.isNotified = false) :
    n.listen.isNotified = false := by
  obtain ⟨permit, listener⟩ := n
  cases listener with
  | idle =>
    -- there was no permit to use up
    obtain rfl : permit = false := h
    rfl
  | waiting => rfl
  | woken => exact nomatch h

end Notifier

/-- A run that listens. -/
structure ListeningRun where
  run : Run
  notifier : Notifier

namespace ListeningRun

open Run (Incident)

/-- A run that has not been polled, and to which nobody has said anything. -/
def fresh : ListeningRun := ⟨.fresh, ⟨false, .idle⟩⟩

/-- Poll a run: it looks for a notification first. -/
def poll (t : ListeningRun) (answer : Option GatewayAnswer) : ListeningRun :=
  if t.run.isOver then t
  else {
    notifier := t.notifier.listen
    run := if t.notifier.isNotified then t.run.finish (.error .cancelled) else t.run.proceed answer }

/-- A run after something has happened to it. -/
def undergo (t : ListeningRun) : Incident → ListeningRun
  | .poll answer => t.poll answer
  | .cancel => { t with notifier := t.notifier.notify }

/-- A new run after all that a schedule says. -/
def through (schedule : List Incident) : ListeningRun := schedule.foldl undergo fresh

/-- A run that listens is where a run is that remembers requests, and finds a notification whenever
the other one remembers a request. -/
structure Refines (t : ListeningRun) (r : Run) : Prop where
  run_eq : t.run = { r with cancelRequested := false }
  notified : r.isOver = false → t.notifier.isNotified = r.cancelRequested

variable {t : ListeningRun} {r : Run}

theorem Refines.poll (h : t.Refines r) (answer : Option GatewayAnswer) :
    (t.poll answer).Refines (r.poll answer) := by
  have hsame : t.run.isOver = r.isOver := by
    rw [h.run_eq]
    rfl
  cases hover : r.isOver with
  | true =>
    have hstays : t.poll answer = t := if_pos (hsame.trans hover)
    rw [hstays, Run.poll_of_isOver hover]
    exact h
  | false =>
    have hopen : ¬t.run.isOver = true := Bool.eq_false_iff.1 (hsame.trans hover)
    have hnotified := h.notified hover
    rw [ListeningRun.poll, if_neg hopen, hnotified]
    cases hasked : r.cancelRequested with
    | true =>
      rw [if_pos rfl, h.run_eq, Run.poll_of_asked hover hasked]
      exact ⟨rfl, nofun⟩
    | false =>
      -- neither finds anything, and both let the gateway get on
      have hrun : t.run = r := by rw [h.run_eq, ← hasked]
      have hunasked : (r.proceed answer).cancelRequested = false :=
        (r.cancelRequested_proceed answer).trans hasked
      rw [if_neg Bool.false_ne_true, hrun, Run.poll_of_unasked hover hasked]
      constructor
      · show r.proceed answer = { r.proceed answer with cancelRequested := false }
        rw [← hunasked]
      · intro _
        exact (Notifier.isNotified_listen (hnotified.trans hasked)).trans hunasked.symm

theorem Refines.undergo (h : t.Refines r) (i : Incident) :
    (t.undergo i).Refines (r.undergo i) := by
  cases i with
  | poll answer => exact h.poll answer
  | cancel => exact ⟨h.run_eq, fun _ => t.notifier.isNotified_notify⟩

/-- No schedule tells the two apart. -/
theorem refines_through (schedule : List Incident) :
    (through schedule).Refines (Run.through schedule) := by
  have hfresh : fresh.Refines .fresh := ⟨rfl, fun _ => rfl⟩
  rw [through, Run.through]
  generalize fresh = t, Run.fresh = r at hfresh
  induction schedule generalizing t r with
  | nil => exact hfresh
  | cons i schedule ih => exact ih _ _ (hfresh.undergo i)

end ListeningRun

end OpticalBench
