import OpticalBench.Proofs.Store.Delivery

/-!
# The subscribers of a store

A store is edited while any number of subscribers receive from its feed, each at its own pace, and
in the end the store may be dropped.

- `Broadcast`: a store with its subscribers. `Broadcast.step` is one action of anybody, and
  `Broadcast.published` are the events that actions publish.
- `Watches`: the invariant of one subscriber, which every action keeps.
- `Agree`: two broadcasts differ in nothing but in what subscribers have received that nobody
  watches.
- `Subscribing.serves`: a slow subscriber loses only old events and knows how many, whatever the
  others do.
-/

namespace OpticalBench

/-- A store with its subscribers, in the order in which they have subscribed. -/
structure Broadcast where
  store : Store
  /-- The store is gone. What it sent can still be received. -/
  dropped : Bool
  subscribers : List (Subscriber Event)

namespace Broadcast

/-- What can be done. -/
inductive Action
  | edit (e : Edit)
  | subscribe
  /-- The subscriber with this number receives. -/
  | receive (i : Nat)
  | drop
  deriving DecidableEq

/-- A store that holds a circuit, to which nobody has subscribed. -/
def start (c : Circuit) : Broadcast := ⟨.ofCircuit c, false, []⟩

/-- One action. There is nothing to edit or to subscribe to once the store is gone. -/
def step (b : Broadcast) : Action → Broadcast
  | .edit e => if b.dropped then b else { b with store := b.store.apply e }
  | .subscribe =>
    if b.dropped then b else { b with subscribers := b.subscribers ++ [.join b.store.feed] }
  | .receive i =>
    { b with subscribers := b.subscribers.modify i fun w => w.receive b.store.feed b.dropped }
  | .drop => { b with dropped := true }

/-- Actions in order. -/
def run (b : Broadcast) (actions : List Action) : Broadcast := actions.foldl step b

/-- The event that an action publishes. -/
def event? (b : Broadcast) : Action → Option Event
  | .edit e => if b.dropped then none else e.event? b.store.circuit
  | .subscribe | .receive _ | .drop => none

/-- The events that actions publish, in order. -/
def published (b : Broadcast) : List Action → List Event
  | [] => []
  | a :: actions => (b.event? a).toList ++ (b.step a).published actions

/-- How many events a subscriber has neither received nor been told to have lost. -/
def pending (b : Broadcast) (i : Nat) : Nat :=
  match b.subscribers[i]? with
  | some w => b.store.feed.sent - w.subscription.next
  | none => 0

variable {b b' : Broadcast} {i : Nat} {w : Subscriber Event} {past since : List Event}

theorem run_append (b : Broadcast) (actions more : List Action) :
    b.run (actions ++ more) = (b.run actions).run more := List.foldl_append

/-! ## One action -/

/-- Only dropping the store drops it. -/
theorem dropped_step (b : Broadcast) (a : Action) :
    (b.step a).dropped = (b.dropped || a == .drop) := by
  cases a with
  | edit e =>
    rw [step]
    split <;> exact (Bool.or_false _).symm
  | subscribe =>
    rw [step]
    split <;> exact (Bool.or_false _).symm
  | receive i => exact (Bool.or_false _).symm
  | drop => exact (Bool.or_true _).symm

/-- Only edits change the store. -/
theorem store_step (b : Broadcast) {a : Action} (h : ∀ e, a ≠ .edit e) :
    (b.step a).store = b.store := by
  cases a with
  | edit e => exact absurd rfl (h e)
  | subscribe =>
    rw [step]
    split <;> rfl
  | receive i => rfl
  | drop => rfl

/-- Nothing can be done to a store that is gone. -/
theorem store_step_dropped (h : b.dropped = true) (a : Action) : (b.step a).store = b.store := by
  cases a with
  | edit e => rw [step, if_pos h]
  | subscribe => exact b.store_step nofun
  | receive i => rfl
  | drop => rfl

theorem event?_dropped (h : b.dropped = true) (a : Action) : b.event? a = none := by
  cases a with
  | edit e => exact if_pos h
  | subscribe => rfl
  | receive i => rfl
  | drop => rfl

/-- What an action publishes is sent on the feed. -/
theorem feed_step (b : Broadcast) (a : Action) :
    (b.step a).store.feed = b.store.feed.publishAll (b.event? a).toList := by
  by_cases hdropped : b.dropped = true
  · rw [store_step_dropped hdropped, event?_dropped hdropped]
    rfl
  · cases a with
    | edit e =>
      rw [step, event?, if_neg hdropped, if_neg hdropped]
      exact b.store.feed_apply e
    | subscribe =>
      have hstore : (b.step .subscribe).store = b.store := b.store_step nofun
      rw [hstore]
      rfl
    | receive i => rfl
    | drop => rfl

/-- What an action makes of the subscriber with the number `i`: only its own receiving matters. -/
def stepSubscriber (b : Broadcast) (i : Nat) (a : Action) (w : Subscriber Event) :
    Subscriber Event :=
  if a = .receive i then w.receive b.store.feed b.dropped else w

theorem subscribers_step (h : b.subscribers[i]? = some w) (a : Action) :
    (b.step a).subscribers[i]? = some (b.stepSubscriber i a w) := by
  cases a with
  | edit e =>
    have hsame : b.stepSubscriber i (.edit e) w = w := if_neg nofun
    rw [step, hsame]
    split <;> exact h
  | subscribe =>
    have hsame : b.stepSubscriber i .subscribe w = w := if_neg nofun
    -- a new subscriber comes after all others
    have hlt : i < b.subscribers.length := (List.getElem?_eq_some_iff.1 h).1
    rw [step, hsame]
    split
    · exact h
    · exact (List.getElem?_append_left hlt).trans h
  | receive j =>
    show (b.subscribers.modify j _)[i]? = _
    by_cases heq : j = i
    · rw [heq, List.getElem?_modify_eq, h, stepSubscriber, if_pos rfl]
      rfl
    · rw [List.getElem?_modify_ne _ _ heq, h, stepSubscriber,
        if_neg fun hreceive => heq (Action.receive.inj hreceive)]
  | drop => exact h

/-! ## Many actions -/

theorem dropped_run (b : Broadcast) {actions : List Action} (h : .drop ∉ actions) :
    (b.run actions).dropped = b.dropped := by
  induction actions generalizing b with
  | nil => rfl
  | cons a actions ih =>
    have ha : a ≠ .drop := fun heq => h (heq ▸ List.mem_cons_self)
    have hstep : (b.step a).dropped = b.dropped := by
      rw [dropped_step, beq_eq_false_iff_ne.2 ha, Bool.or_false]
    exact (ih (b.step a) fun hmem => h (List.mem_cons_of_mem a hmem)).trans hstep

theorem carries_run (h : b.store.feed.Carries past) (actions : List Action) :
    (b.run actions).store.feed.Carries (past ++ b.published actions) := by
  induction actions generalizing b past with
  | nil =>
    rw [published, List.append_nil]
    exact h
  | cons a actions ih =>
    rw [published, ← List.append_assoc]
    refine ih ?_
    rw [feed_step]
    exact h.publishAll _

/-- The feed of a store carries what its edits have published. -/
theorem carries_start (c : Circuit) (actions : List Action) :
    ((start c).run actions).store.feed.Carries ((start c).published actions) := by
  have hfresh : (start c).store.feed.Carries [] := Feed.carries_fresh
  exact carries_run hfresh actions

/-! ## One subscriber -/

/-- The subscriber with the number `i` has joined after the events `past`, and `since` was published
since then. -/
structure Watches (b : Broadcast) (i : Nat) (past since : List Event) (w : Subscriber Event) :
    Prop where
  present : b.subscribers[i]? = some w
  carries : b.store.feed.Carries (past ++ since)
  follows : w.Follows past since b.dropped

theorem Watches.pending_eq (h : b.Watches i past since w) :
    b.pending i = since.length - w.story.length := by
  rw [pending, h.present]
  show b.store.feed.sent - w.subscription.next = _
  rw [h.carries.sent_eq, List.length_append, h.follows.next_eq]
  omega

/-- Who subscribes watches what is published from then on. -/
theorem watches_subscribe (h : b.store.feed.Carries past) (hdropped : b.dropped = false) :
    (b.step .subscribe).Watches b.subscribers.length past [] (.join b.store.feed) := by
  rw [step, if_neg (Bool.eq_false_iff.1 hdropped)]
  constructor
  · exact List.getElem?_concat_length
  · rw [List.append_nil]
    exact h
  · exact Subscriber.follows_join h b.dropped

/-- Whatever is done, a subscriber goes on watching. -/
theorem Watches.step (h : b.Watches i past since w) (a : Action) :
    (b.step a).Watches i past (since ++ (b.event? a).toList) (b.stepSubscriber i a w) := by
  constructor
  · exact subscribers_step h.present a
  · rw [feed_step, ← List.append_assoc]
    exact h.carries.publishAll _
  · -- events are published before the store is gone, not after
    have hpublished : w.Follows past (since ++ (b.event? a).toList) b.dropped := by
      refine h.follows.publishAll fun hdropped => ?_
      rw [event?_dropped hdropped]
      rfl
    rw [dropped_step, stepSubscriber]
    cases a with
    | edit e =>
      rw [if_neg nofun]
      exact (Bool.or_false b.dropped).symm ▸ hpublished
    | subscribe =>
      rw [if_neg nofun]
      exact (Bool.or_false b.dropped).symm ▸ hpublished
    | receive j =>
      have hopen : (b.dropped || Action.receive j == .drop) = b.dropped := Bool.or_false _
      have hsame : since ++ (b.event? (.receive j)).toList = since := List.append_nil since
      rw [hopen, hsame]
      split
      · exact h.follows.receive h.carries
      · exact h.follows
    | drop =>
      rw [if_neg nofun]
      exact (Bool.or_true b.dropped).symm ▸ hpublished.close

theorem Watches.run (h : b.Watches i past since w) (actions : List Action) :
    ∃ w', (b.run actions).Watches i past (since ++ b.published actions) w' := by
  induction actions generalizing b since w with
  | nil =>
    rw [published, List.append_nil]
    exact ⟨w, h⟩
  | cons a actions ih =>
    rw [published, ← List.append_assoc]
    exact ih (h.step a)

/-- Who is never too far behind when it receives is never told of a loss. -/
theorem Watches.lagged_notMem (h : b.Watches i past since w) (hkept : ∀ k, .lagged k ∉ w.receipts)
    (actions : List Action)
    (hbehind : ∀ earlier later, actions = earlier ++ .receive i :: later →
      (b.run earlier).pending i ≤ Feed.capacity) :
    ∃ w', (b.run actions).subscribers[i]? = some w' ∧ ∀ k, .lagged k ∉ w'.receipts := by
  induction actions generalizing b since w with
  | nil => exact ⟨w, h.present, hkept⟩
  | cons a actions ih =>
    refine ih (h.step a) ?_ fun earlier later heq => hbehind (a :: earlier) later (heq ▸ rfl)
    rw [stepSubscriber]
    split
    case isTrue hreceive =>
      have hnow : b.pending i ≤ Feed.capacity := hbehind [] actions (hreceive ▸ rfl)
      rw [h.pending_eq] at hnow
      exact h.follows.lagged_notMem_receive h.carries hnow hkept
    case isFalse => exact hkept

/-- When the store is gone a subscriber can only receive. -/
theorem subscribers_run_dropped (hdropped : b.dropped = true) (h : b.subscribers[i]? = some w)
    (actions : List Action) :
    (b.run actions).subscribers[i]? =
      some ((fun w => w.receive b.store.feed true)^[actions.count (.receive i)] w) := by
  induction actions generalizing b w with
  | nil => exact h
  | cons a actions ih =>
    have hstep : (b.step a).dropped = true := by rw [dropped_step, hdropped, Bool.true_or]
    have hrest := ih hstep (subscribers_step h a)
    rw [store_step_dropped hdropped] at hrest
    refine hrest.trans ?_
    rw [stepSubscriber]
    by_cases hreceive : a = .receive i
    · rw [if_pos hreceive, hreceive, List.count_cons_self, Function.iterate_succ_apply, hdropped]
    · rw [if_neg hreceive, List.count_cons_of_ne hreceive]

/-! ## Many subscribers -/

/-- Everything that is done, but for what is received by subscribers that nobody watches. -/
def concerns (watched : Nat → Bool) : Action → Bool
  | .receive i => watched i
  | .edit _ | .subscribe | .drop => true

/-- There is no difference, unless one looks at subscribers that are not watched. -/
structure Agree (watched : Nat → Bool) (b b' : Broadcast) : Prop where
  store_eq : b.store = b'.store
  dropped_eq : b.dropped = b'.dropped
  length_eq : b.subscribers.length = b'.subscribers.length
  subscribers_eq : ∀ i, watched i = true → b.subscribers[i]? = b'.subscribers[i]?

variable {watched : Nat → Bool}

theorem Agree.refl (watched : Nat → Bool) (b : Broadcast) : Agree watched b b :=
  ⟨rfl, rfl, rfl, fun _ _ => rfl⟩

/-- The same action makes no difference. -/
theorem Agree.step (h : Agree watched b b') (a : Action) :
    Agree watched (b.step a) (b'.step a) := by
  cases a with
  | edit e =>
    rw [Broadcast.step, Broadcast.step, h.dropped_eq]
    split
    · exact h
    · exact ⟨by rw [h.store_eq], rfl, h.length_eq, h.subscribers_eq⟩
  | subscribe =>
    rw [Broadcast.step, Broadcast.step, h.dropped_eq]
    split
    · exact h
    · -- there are as many subscribers in both, so the new one gets the same number
      refine ⟨h.store_eq, rfl, ?_, fun i hi => ?_⟩
      · rw [List.length_append, List.length_append, h.length_eq]
        rfl
      · rw [List.getElem?_append, List.getElem?_append, h.length_eq, h.subscribers_eq i hi,
          h.store_eq]
  | receive j =>
    refine ⟨h.store_eq, h.dropped_eq, ?_, fun i hi => ?_⟩
    · show (b.subscribers.modify j _).length = (b'.subscribers.modify j _).length
      rw [List.length_modify, List.length_modify, h.length_eq]
    · show (b.subscribers.modify j _)[i]? = (b'.subscribers.modify j _)[i]?
      rw [List.getElem?_modify, List.getElem?_modify, h.subscribers_eq i hi, h.store_eq,
        h.dropped_eq]
  | drop => exact ⟨h.store_eq, rfl, h.length_eq, h.subscribers_eq⟩

/-- Nor does it make one that somebody else receives. -/
theorem Agree.receive (h : Agree watched b b') {j : Nat} (hj : watched j ≠ true) :
    Agree watched (b.step (.receive j)) b' := by
  refine ⟨h.store_eq, h.dropped_eq, ?_, fun i hi => ?_⟩
  · show (b.subscribers.modify j _).length = _
    rw [List.length_modify, h.length_eq]
  · show (b.subscribers.modify j _)[i]? = _
    have hne : j ≠ i := by
      rintro rfl
      exact hj hi
    rw [List.getElem?_modify_ne _ _ hne, h.subscribers_eq i hi]

/-- Leaving out what others receive leaves the store and the watched subscribers as they are. -/
theorem agree_run (h : Agree watched b b') (actions : List Action) :
    Agree watched (b.run actions) (b'.run (actions.filter (concerns watched))) := by
  induction actions generalizing b b' with
  | nil => exact h
  | cons a actions ih =>
    by_cases hconcerns : concerns watched a = true
    · rw [List.filter_cons_of_pos hconcerns]
      exact ih (h.step a)
    · rw [List.filter_cons_of_neg hconcerns]
      cases a with
      | receive j => exact ih (h.receive hconcerns)
      | edit e => exact absurd rfl hconcerns
      | subscribe => exact absurd rfl hconcerns
      | drop => exact absurd rfl hconcerns

end Broadcast

/-! ## Somebody subscribes -/

open Broadcast

/-- A store that holds a circuit, and what is done before and after somebody subscribes. One can
subscribe until the store is gone. -/
structure Subscribing where
  circuit : Circuit
  before : List Action
  after : List Action
  undropped : .drop ∉ before

namespace Subscribing

/-- The number of the subscriber. -/
def number (s : Subscribing) : Nat := ((start s.circuit).run s.before).subscribers.length

/-- After so many of the actions that come after the subscribing. -/
def reached (s : Subscribing) (actions : List Action) : Broadcast :=
  (start s.circuit).run (s.before ++ .subscribe :: actions)

/-- After all actions. -/
def now (s : Subscribing) : Broadcast := s.reached s.after

/-- What was published since the subscribing. -/
def published (s : Subscribing) : List Event := (s.reached []).published s.after

/-- What a store does for a subscriber. -/
structure Serves (s : Subscribing) (w : Subscriber Event) : Prop where
  present : s.now.subscribers[s.number]? = some w
  /-- What was received, with an unknown event for each one that was lost, is position by position a
  prefix of what was published since. -/
  told : List.Forall₂ Subscriber.Knows w.story (s.published.take w.story.length)
  /-- The events that were received were published in the same order, and none came twice. -/
  ordered : w.heard.Sublist s.published
  /-- Every event was received, or counted as lost, or is pending. -/
  accounted : w.heard.length + w.lost + s.now.pending s.number = s.published.length
  /-- Who was never too far behind when it received has lost nothing. -/
  complete :
    (∀ earlier later, s.after = earlier ++ .receive s.number :: later →
      (s.reached earlier).pending s.number ≤ Feed.capacity) →
    (∀ k, .lagged k ∉ w.receipts) ∧
      w.heard = s.published.take (s.published.length - s.now.pending s.number)
  /-- If what subscribers receive that nobody watches is left out, or other such receiving is put
  in, nothing is different for the store and for those that are watched. -/
  undisturbed : ∀ (watched : Nat → Bool) (other : List Action),
    other.filter (concerns watched) =
      (s.before ++ .subscribe :: s.after).filter (concerns watched) →
    ((start s.circuit).run other).store = s.now.store ∧
      (watched s.number = true → ((start s.circuit).run other).subscribers[s.number]? = some w)
  /-- Who was told that there is nothing more to come has nothing pending. -/
  closed_last : .closed ∈ w.receipts → s.now.dropped = true ∧ s.now.pending s.number = 0
  /-- When the store is gone, who goes on receiving gets everything that is outstanding, and only
  then is told that there is nothing more to come. -/
  closing : s.now.dropped = true → ∀ more : List Action, ∃ w',
    (s.now.run more).subscribers[s.number]? = some w' ∧
      w'.receipts = w.receipts ++ Receipt.firstOf (more.count (.receive s.number))
        (Feed.outstanding s.published (s.now.pending s.number)) .closed

theorem reached_eq (s : Subscribing) (actions : List Action) :
    s.reached actions = (s.reached []).run actions := by
  rw [reached, reached, ← run_append, List.append_assoc]
  rfl

/-- Right after the subscribing there is nothing to tell. -/
theorem watches (s : Subscribing) :
    (s.reached []).Watches s.number ((start s.circuit).published s.before) []
      (.join ((start s.circuit).run s.before).store.feed) := by
  rw [reached, run_append]
  exact watches_subscribe (carries_start s.circuit s.before) (dropped_run _ s.undropped)

/-- **A slow subscriber loses only old events and knows how many**, whatever is done by anybody. -/
theorem serves (s : Subscribing) : ∃ w, s.Serves w := by
  obtain ⟨w, hw⟩ := s.watches.run s.after
  rw [← s.reached_eq s.after] at hw
  have hfollows : w.Follows _ s.published s.now.dropped := hw.follows
  have hle : w.story.length ≤ s.published.length := hfollows.length_story_le
  have hpending : s.now.pending s.number = s.published.length - w.story.length := hw.pending_eq
  refine ⟨w, hw.present, hfollows.knows, hfollows.heard_sublist, ?accounted, ?complete,
    ?undisturbed, ?closed_last, ?closing⟩
  case accounted =>
    rw [hpending, ← w.length_story]
    exact Nat.add_sub_cancel' hle
  case complete =>
    intro hbehind
    obtain ⟨w', hpresent, hkept⟩ := s.watches.lagged_notMem nofun s.after
      fun earlier later heq => s.reached_eq earlier ▸ hbehind earlier later heq
    rw [← s.reached_eq s.after, hw.present] at hpresent
    obtain rfl := Option.some.inj hpresent
    refine ⟨hkept, ?_⟩
    rw [hpending, Nat.sub_sub_self hle]
    exact hfollows.heard_eq_take hkept
  case undisturbed =>
    intro watched other heq
    -- both are what is left when all that nobody watches is left out
    have hother := agree_run (.refl watched (start s.circuit)) other
    have hnow := agree_run (.refl watched (start s.circuit)) (s.before ++ .subscribe :: s.after)
    rw [heq] at hother
    refine ⟨hother.store_eq.trans hnow.store_eq.symm, fun hwatched => ?_⟩
    have hsame := (hother.subscribers_eq _ hwatched).trans (hnow.subscribers_eq _ hwatched).symm
    exact hsame.trans hw.present
  case closed_last =>
    intro hmem
    obtain ⟨hdropped, hend⟩ := hfollows.closed_last hmem
    refine ⟨hdropped, ?_⟩
    rw [hpending, hend, Nat.sub_self]
  case closing =>
    intro hdropped more
    refine ⟨_, subscribers_run_dropped hdropped hw.present more, ?_⟩
    have hcarries : s.now.store.feed.Carries (_ ++ s.published) := hw.carries
    rw [hdropped] at hfollows
    rw [hfollows.receipts_iterate hcarries, hpending]
    rfl

/-- Sixty-six changes are two more than are kept, and a fresh circuit had two modes. -/
example :
    let s : Subscribing := {
      circuit := .fresh
      before := [.subscribe]
      after := (List.replicate 33 [.edit .addMode, .edit .removeMode]).flatten ++
        [.receive 1, .receive 1, .receive 0, .drop, .receive 1]
      undropped := by decide }
    s.now.subscribers.map (fun w => (w.subscription.next, w.receipts)) =
      [(2, [.lagged 2]),
        (4, [.lagged 2, .event (.modeCountChanged (.clamp 3)),
          .event (.modeCountChanged (.clamp 2))])] := by
  decide +kernel

end Subscribing

end OpticalBench
