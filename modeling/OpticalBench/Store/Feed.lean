/-!
# Event feeds

A feed hands events to any number of subscribers and keeps the newest sixty-four. A subscriber holds
the number of the event it wants next. One that has fallen behind what is kept is told once how many
events it lost and goes on with the oldest kept one; publishing never waits for anybody.

- `publish`: add an event.
- `subscribe`: start with the next event.
- `receive`: what a subscriber gets, and where it stands afterwards.
-/

namespace OpticalBench

/-- How many events a feed keeps. -/
def Feed.capacity : Nat := 64

/-- The newest events out of all that were sent, oldest first. -/
structure Feed (α : Type) where
  sent : Nat
  kept : List α
  length_kept : kept.length = min sent Feed.capacity

/-- Where a subscriber stands: the number of the event it wants next. -/
structure Subscription where
  next : Nat
  deriving DecidableEq, Inhabited, Repr

/-- What a subscriber gets. -/
inductive Receipt (α : Type)
  | event (a : α)
  /-- So many events were lost. -/
  | lagged (lost : Nat)
  /-- Nothing has happened since. -/
  | empty
  /-- Nothing will happen any more. -/
  | closed
  deriving DecidableEq, Inhabited, Repr

namespace Feed

variable {α : Type}

/-- A feed on which nothing was sent. -/
def fresh : Feed α := ⟨0, [], rfl⟩

instance : Inhabited (Feed α) := ⟨fresh⟩

/-- Send an event; the oldest kept one gives way if there is no room. -/
def publish (f : Feed α) (a : α) : Feed α where
  sent := f.sent + 1
  kept := (f.kept ++ [a]).drop (f.kept.length + 1 - capacity)
  length_kept := by
    have := f.length_kept
    simp only [List.length_drop, List.length_append, List.length_cons, List.length_nil]
    omega

/-- Send a list of events in order. -/
def publishAll (f : Feed α) (events : List α) : Feed α := events.foldl publish f

/-- The number of the oldest event that is kept. -/
def oldest (f : Feed α) : Nat := f.sent - f.kept.length

/-- Subscribe to what is sent from now on. -/
def subscribe (f : Feed α) : Subscription := ⟨f.sent⟩

/-- Receive once. The feed is closed when nobody can send on it any more. -/
def receive (f : Feed α) (closed : Bool) (s : Subscription) : Receipt α × Subscription :=
  if s.next < f.oldest then (.lagged (f.oldest - s.next), ⟨f.oldest⟩)
  else match f.kept[s.next - f.oldest]? with
    | some a => (.event a, ⟨s.next + 1⟩)
    | none => (if closed then .closed else .empty, s)

@[simp] theorem sent_publish (f : Feed α) (a : α) : (f.publish a).sent = f.sent + 1 := rfl

end Feed

end OpticalBench
