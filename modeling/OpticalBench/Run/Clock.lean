import OpticalBench.Run.Lifecycle

/-!
# Runs on a clock

A `TimedRun` is a run together with the time at which its gateway answers. Time passes only while
somebody waits, and then exactly up to the next thing that happens: the run is polled once at the
start, when its gateway answers, and after it was asked to cancel.

- `settle`: let the run get as far as it can without time passing.
- `sleep`: let time pass. Who sleeps until the very moment of the answer wakes up before the run does.
- `finish`: wait for the end of the run.
- `Watcher`: whether the status has changed since somebody last looked.
-/

namespace OpticalBench

/-- A run, the time, and what its gateway will answer. -/
structure TimedRun where
  run : Run
  /-- The time that has passed, in milliseconds. -/
  now : Nat
  /-- How long the gateway takes. -/
  delay : Nat
  answer : GatewayAnswer
  /-- When the gateway answers, if it has been called. -/
  due : Option Nat
  /-- Whether the run wants to be polled. -/
  awake : Bool

namespace TimedRun

/-- A run that has just been started. -/
def start (delay : Nat) (answer : GatewayAnswer) : TimedRun where
  run := .fresh
  now := 0
  delay
  answer
  due := none
  awake := true

/-- When the gateway answers if it is called now at the latest. -/
def answerTime (t : TimedRun) : Nat := t.due.getD (t.now + t.delay)

/-- What the gateway answers now. -/
def answerNow (t : TimedRun) : Option GatewayAnswer :=
  if t.answerTime ≤ t.now then some t.answer else none

/-- Poll the run if it wants to be polled. -/
def settle (t : TimedRun) : TimedRun :=
  if t.awake then
    { t with run := t.run.poll t.answerNow, due := some t.answerTime, awake := false }
  else t

/-- Ask the run to cancel. -/
def cancel (t : TimedRun) : TimedRun := { t with run := t.run.cancel, awake := !t.run.isOver }

/-- Move the time on to a moment at which the gateway may answer. -/
def advance (t : TimedRun) (moment : Nat) : TimedRun :=
  { t with now := moment, awake := !t.run.isOver && decide (t.answerTime ≤ moment) }

/-- Let time pass. No time is no wait. -/
def sleep (t : TimedRun) (milliseconds : Nat) : TimedRun :=
  if milliseconds = 0 then t
  else
    let target := t.now + milliseconds
    let t := t.settle
    let t := if t.answerTime < target then (t.advance (max t.now t.answerTime)).settle else t
    t.advance target

/-- Wait for the end of the run. -/
def finish (t : TimedRun) : TimedRun :=
  let t := t.settle
  if t.run.isOver then t else (t.advance (max t.now t.answerTime)).settle

end TimedRun

/-- Somebody who watches the status of a run. -/
structure Watcher where
  /-- How many announcements have been seen. -/
  seen : Nat
  deriving DecidableEq, Inhabited, Repr

namespace Watcher

/-- A watcher that has seen the first status. -/
def fresh : Watcher := ⟨0⟩

/-- Whether a run has announced anything new; nothing once the run is over. -/
def changed? (w : Watcher) (r : Run) : Option Bool × Watcher :=
  if r.isOver then (none, w) else (some (decide (w.seen < r.log.length)), ⟨r.log.length⟩)

end Watcher

end OpticalBench
