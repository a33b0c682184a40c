import OpticalBench.Store.Basic

/-!
# The feed of a store is a complete change log

An observer knows a list of identifiers with their elements and a number of modes, and keeps them up
to date from the events of a store alone.

- `Mirror`: what an observer knows; `Mirror.observe` says what it makes of an event.
- `Store.log`: the events that a list of edits publishes.
- `Observer`: an observer that receives from the feed of a store after every edit.
- `Edit.announced`: an edit without an event changes nothing, and one with an event changes what
  the event says.
- `Store.isChangeLog`: after any edits an observer knows the circuit.
-/

namespace OpticalBench

/-- What an observer knows of a circuit. -/
structure Mirror where
  /-- The identifiers and elements of the operations, in the order in which they were placed. -/
  entries : List (Uuid × Element)
  modeCount : ModeCount

namespace Mirror

/-- What there is to know of a circuit. -/
def of (c : Circuit) : Mirror := ⟨c.operations.map fun op => (op.id, op.element), c.modeCount⟩

/-- What an observer knows after an event. -/
def observe (m : Mirror) : Event → Mirror
  | .added id element _ => { m with entries := m.entries ++ [(id, element)] }
  | .removed id => { m with entries := m.entries.filter fun e => e.1 != id }
  | .modeCountChanged count => { m with modeCount := count }
  | .cleared => { m with entries := [] }
  | .updated _ | .sourceGenerated _ => m

/-- What an observer knows after it has received. -/
def receive (m : Mirror) : Receipt Event → Mirror
  | .event e => m.observe e
  | .lagged _ | .empty | .closed => m

/-- What an observer knows after events. -/
def observeAll (m : Mirror) (events : List Event) : Mirror := events.foldl observe m

theorem observeAll_append (m : Mirror) (es fs : List Event) :
    m.observeAll (es ++ fs) = (m.observeAll es).observeAll fs := List.foldl_append

end Mirror

/-! ## One edit -/

namespace Circuit

variable {c : Circuit} {id : Uuid}

/-- A change of the first element that keeps what is looked at changes nothing there. -/
theorem map_changeFirst {α β : Type} {p : α → Bool} {f : α → α} {g : α → β}
    (keeps : ∀ x, g (f x) = g x) (xs : List α) : (changeFirst p f xs).map g = xs.map g := by
  induction xs with
  | nil => rfl
  | cons x xs ih =>
    rw [changeFirst]
    by_cases hp : p x = true
    · rw [if_pos hp, List.map_cons, List.map_cons, keeps]
    · rw [if_neg hp, List.map_cons, List.map_cons, ih]

/-- An observer does not see a change that keeps identifier and element. -/
theorem of_change {f : Operation → Operation}
    (keeps : ∀ op, ((f op).id, (f op).element) = (op.id, op.element)) :
    Mirror.of (c.change id f) = Mirror.of c := by
  rw [change]
  by_cases hholds : c.holds id = true
  · rw [if_pos hholds, Mirror.of, map_changeFirst keeps]
    rfl
  · rw [if_neg hholds]

/-- Operations are removed from a circuit as their entries are from what an observer knows. -/
theorem of_remove (h : c.holds id = true) :
    Mirror.of (c.remove id) = (Mirror.of c).observe (.removed id) := by
  rw [remove, if_pos h, Mirror.of, Mirror.observe, Mirror.of, List.filter_map]
  rfl

end Circuit

namespace Edit

/-- What an edit and its event have to do with each other: either there is no event and nothing at
all changes, or the event says what changes for an observer. -/
def Announced (c : Circuit) (event : Option Event) (c' : Circuit) : Prop :=
  event = none ∧ c' = c ∨ ∃ e, event = some e ∧ Mirror.of c' = (Mirror.of c).observe e

variable {c c' : Circuit}

theorem Announced.silent (h : Announced c none c') : c' = c := by
  rcases h with ⟨-, hsame⟩ | ⟨e, he, -⟩
  · exact hsame
  · exact nomatch he

theorem Announced.observe {event : Option Event} (h : Announced c event c') :
    Mirror.of c' = (Mirror.of c).observeAll event.toList := by
  rcases h with ⟨rfl, rfl⟩ | ⟨e, rfl, hof⟩
  · rfl
  · exact hof

/-- The number of modes is announced if and only if it changes. -/
theorem announced_setModeCount (c : Circuit) (n : Nat) :
    Announced c (modeCountEvent? c (c.setModeCount n)) (c.setModeCount n) := by
  rw [Circuit.setModeCount]
  by_cases hsame : c.modeCount = .clamp n
  · rw [if_pos hsame]
    exact .inl ⟨if_pos rfl, rfl⟩
  · rw [if_neg hsame]
    exact .inr ⟨.modeCountChanged (.clamp n), if_neg hsame, rfl⟩

/-- A change of one operation is announced if and only if the operation exists. -/
theorem announced_change (c : Circuit) (id : Uuid) {f : Operation → Operation}
    (keeps : ∀ op, ((f op).id, (f op).element) = (op.id, op.element)) :
    Announced c (if c.holds id then some (.updated id) else none) (c.change id f) := by
  by_cases hholds : c.holds id = true
  · rw [if_pos hholds]
    exact .inr ⟨.updated id, rfl, Circuit.of_change keeps⟩
  · rw [if_neg hholds]
    exact .inl ⟨rfl, if_neg hholds⟩

/-- Clearing is announced unless there is nothing to clear. -/
theorem announced_clear (c : Circuit) : Announced c (event? .clear c) c.clear := by
  rw [event?]
  by_cases hempty : (c.operations.isEmpty && c.source.isEmpty) = true
  · rw [if_pos hempty]
    obtain ⟨hoperations, hsource⟩ := Bool.and_eq_true_iff.1 hempty
    rw [List.isEmpty_iff] at hoperations
    rw [String.isEmpty_iff] at hsource
    refine .inl ⟨rfl, ?_⟩
    rw [Circuit.clear, ← hoperations, ← hsource]
  · rw [if_neg hempty]
    exact .inr ⟨.cleared, rfl, rfl⟩

/-- Whatever the edit, its event tells what it changes. -/
theorem announced (e : Edit) (c : Circuit) : Announced c (e.event? c) (e.run c) := by
  have hadd : ∀ id element mode position parameters,
      Mirror.of (c.addAt id element mode position parameters) =
        (Mirror.of c).observe (.added id element mode) := by
    intro id element mode position parameters
    rw [Circuit.addAt, Mirror.of, List.map_append]
    rfl
  cases e with
  | add id element mode parameters => exact .inr ⟨_, rfl, hadd ..⟩
  | addAt id element mode position parameters => exact .inr ⟨_, rfl, hadd ..⟩
  | remove id =>
    by_cases hholds : c.holds id = true
    · exact .inr ⟨.removed id, if_pos hholds, Circuit.of_remove hholds⟩
    · exact .inl ⟨if_neg hholds, if_neg hholds⟩
  | updateParameters id parameters => exact announced_change c id fun _ => rfl
  | move id mode position => exact announced_change c id fun _ => rfl
  | setModeCount n => exact announced_setModeCount c n
  | addMode => exact announced_setModeCount c _
  | removeMode => exact announced_setModeCount c _
  | clear => exact announced_clear c
  | remember framework source => exact .inr ⟨_, rfl, rfl⟩

end Edit

/-! ## The feed -/

namespace Feed

variable {α : Type}

theorem length_kept_le (f : Feed α) : f.kept.length ≤ f.sent := by
  rw [f.length_kept]
  exact Nat.min_le_left ..

theorem getLast?_kept_publish (f : Feed α) (a : α) : (f.publish a).kept.getLast? = some a := by
  have hroom : f.kept.length + 1 - capacity ≤ f.kept.length := by
    rw [capacity]
    omega
  show ((f.kept ++ [a]).drop (f.kept.length + 1 - capacity)).getLast? = some a
  rw [List.drop_append_of_le_length hroom, List.getLast?_concat]

theorem sent_publishAll (f : Feed α) (events : List α) :
    (f.publishAll events).sent = f.sent + events.length := by
  induction events generalizing f with
  | nil => rfl
  | cons a events ih =>
    rw [publishAll, List.foldl_cons, ← publishAll, ih, sent_publish, List.length_cons]
    omega

/-- A subscriber who waits for the next event receives it when it is published. -/
theorem receive_publish (f : Feed α) (a : α) (closed : Bool) :
    (f.publish a).receive closed f.subscribe = (.event a, (f.publish a).subscribe) := by
  -- the event that the subscriber waits for is the last one kept, however many were forgotten
  have hlast := getLast?_kept_publish f a
  have hle := (f.publish a).length_kept_le
  have hpos : 0 < (f.publish a).kept.length := by
    rw [(f.publish a).length_kept, sent_publish, capacity]
    omega
  have hnext : f.subscribe.next = (f.publish a).oldest + ((f.publish a).kept.length - 1) := by
    rw [sent_publish] at hle
    show f.sent = f.sent + 1 - (f.publish a).kept.length + ((f.publish a).kept.length - 1)
    omega
  rw [receive, if_neg (by omega), hnext, Nat.add_sub_cancel_left, ← List.getLast?_eq_getElem?,
    hlast, ← hnext]
  rfl

/-- A subscriber who has received everything gets nothing. -/
theorem receive_subscribe (f : Feed α) :
    f.receive false f.subscribe = (.empty, f.subscribe) := by
  have hnext : f.subscribe.next = f.oldest + f.kept.length :=
    (Nat.sub_add_cancel f.length_kept_le).symm
  rw [receive, if_neg (by omega), hnext, Nat.add_sub_cancel_left,
    List.getElem?_eq_none (Nat.le_refl _)]
  rfl

end Feed

/-! ## Runs -/

namespace Store

/-- The events that edits of a store publish. -/
def log (s : Store) : List Edit → List Event
  | [] => []
  | e :: edits => (e.event? s.circuit).toList ++ (s.apply e).log edits

variable (s : Store)

/-- An edit publishes its event, if it has one. -/
theorem feed_apply (e : Edit) : (s.apply e).feed = s.feed.publishAll (e.event? s.circuit).toList := by
  rw [apply]
  cases e.event? s.circuit <;> rfl

theorem applyAll_cons (e : Edit) (edits : List Edit) :
    s.applyAll (e :: edits) = (s.apply e).applyAll edits := rfl

theorem applyAll_concat (edits : List Edit) (e : Edit) :
    s.applyAll (edits ++ [e]) = (s.applyAll edits).apply e := by
  rw [applyAll, List.foldl_append]
  rfl

theorem log_concat (edits : List Edit) (e : Edit) :
    s.log (edits ++ [e]) = s.log edits ++ (e.event? (s.applyAll edits).circuit).toList := by
  induction edits generalizing s with
  | nil => exact List.append_nil _
  | cons e' edits ih => rw [List.cons_append, log, ih, log, List.append_assoc, applyAll_cons]

/-- The feed gets exactly the events of the log. -/
theorem feed_applyAll (edits : List Edit) :
    (s.applyAll edits).feed = s.feed.publishAll (s.log edits) := by
  induction edits generalizing s with
  | nil => rfl
  | cons e edits ih =>
    rw [applyAll_cons, ih, feed_apply, log, Feed.publishAll, Feed.publishAll, Feed.publishAll,
      List.foldl_append]

/-- Whoever observes the log knows the circuit. -/
theorem observeAll_log (edits : List Edit) :
    (Mirror.of s.circuit).observeAll (s.log edits) = .of (s.applyAll edits).circuit := by
  induction edits generalizing s with
  | nil => rfl
  | cons e edits ih =>
    rw [log, Mirror.observeAll_append, ← (e.announced s.circuit).observe, applyAll_cons, ← ih,
      circuit_apply]

end Store

/-- An observer with a subscription. -/
structure Observer where
  subscription : Subscription
  mirror : Mirror

namespace Observer

/-- An observer that has just subscribed and looked at the circuit. -/
def join (s : Store) : Observer := ⟨s.feed.subscribe, .of s.circuit⟩

/-- Receive once. -/
def poll (w : Observer) (feed : Feed Event) : Observer :=
  let (receipt, subscription) := feed.receive false w.subscription
  ⟨subscription, w.mirror.receive receipt⟩

/-- What an observer of a store knows that polls once after each edit. -/
def follow (w : Observer) (s : Store) : List Edit → Observer
  | [] => w
  | e :: edits => (w.poll (s.apply e).feed).follow (s.apply e) edits

/-- One poll after an edit is enough to be up to date. -/
theorem poll_apply (s : Store) (e : Edit) : (join s).poll (s.apply e).feed = join (s.apply e) := by
  have hobserve := (e.announced s.circuit).observe
  have hfeed := s.feed_apply e
  cases hevent : e.event? s.circuit with
  | none =>
    rw [hevent] at hobserve hfeed
    replace hfeed : (s.apply e).feed = s.feed := hfeed
    rw [poll, join, join, hfeed, s.feed.receive_subscribe, Store.circuit_apply, hobserve]
    rfl
  | some event =>
    rw [hevent] at hobserve hfeed
    replace hfeed : (s.apply e).feed = s.feed.publish event := hfeed
    rw [poll, join, join, hfeed, s.feed.receive_publish, Store.circuit_apply, hobserve]
    rfl

theorem follow_join (s : Store) (edits : List Edit) :
    (join s).follow s edits = join (s.applyAll edits) := by
  induction edits generalizing s with
  | nil => rfl
  | cons e edits ih => rw [follow, poll_apply, ih, Store.applyAll_cons]

end Observer

namespace Store

/-- What makes the feed of a store a complete change log of edits and of whichever edit comes next. -/
structure IsChangeLog (s : Store) (edits : List Edit) : Prop where
  /-- The feed has got the events of the log, and nothing else. -/
  published : (s.applyAll edits).feed = s.feed.publishAll (s.log edits)
  /-- Whoever looked at the circuit before the edits and observes the log knows it afterwards. -/
  known : (Mirror.of s.circuit).observeAll (s.log edits) = .of (s.applyAll edits).circuit
  /-- Whoever subscribed before the edits and polls after each knows as much, and has nothing more
  to receive. -/
  followed : (Observer.join s).follow s edits = .join (s.applyAll edits)
  /-- An edit publishes at most one event. -/
  single : ∀ e, ∃ events : List Event, events.length ≤ 1 ∧
    s.log (edits ++ [e]) = s.log edits ++ events ∧
      (s.applyAll (edits ++ [e])).feed = (s.applyAll edits).feed.publishAll events
  /-- An edit that publishes nothing leaves the circuit exactly as it was. -/
  silent : ∀ e, (s.applyAll (edits ++ [e])).feed.sent = (s.applyAll edits).feed.sent →
    (s.applyAll (edits ++ [e])).circuit = (s.applyAll edits).circuit

/-- **The feed of a store is a complete change log**, whatever circuit the store holds at first and
whatever edits are applied to it. -/
theorem isChangeLog (s : Store) (edits : List Edit) : IsChangeLog s edits where
  published := s.feed_applyAll edits
  known := s.observeAll_log edits
  followed := Observer.follow_join s edits
  single e := by
    refine ⟨(e.event? (s.applyAll edits).circuit).toList, Option.length_toList_le, ?_, ?_⟩
    · exact s.log_concat edits e
    · rw [applyAll_concat, feed_apply]
  silent e hsent := by
    rw [applyAll_concat, feed_apply, Feed.sent_publishAll] at hsent
    -- any event would have been counted
    have hnone : e.event? (s.applyAll edits).circuit = none := by
      cases hevent : e.event? (s.applyAll edits).circuit with
      | none => rfl
      | some event =>
        rw [hevent] at hsent
        exact absurd hsent (Nat.succ_ne_self _)
    have hannounced := e.announced (s.applyAll edits).circuit
    rw [hnone] at hannounced
    rw [applyAll_concat]
    exact hannounced.silent

end Store

end OpticalBench
