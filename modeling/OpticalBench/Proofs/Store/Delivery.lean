import Mathlib.Data.List.Forall2
import Mathlib.Logic.Function.Iterate
import OpticalBench.Proofs.Store.ChangeLog

/-!
# What a feed delivers

A feed keeps the newest events only, so a subscriber may miss some. What it gets still accounts for
every event: each was received, or counted as lost, or is yet to come.

- `Feed.Carries`: a feed on which a list of events was sent, in terms of that list alone.
- `Feed.Carries.receive_cases`: everything that receiving can do.
- `Subscriber.story`: what a subscriber knows of the events that were sent to it, one entry for
  each; a lost event is an entry that says nothing.
- `Subscriber.Follows`: the invariant of a subscriber. It is kept when an event is sent, when the
  feed is closed, and when the subscriber receives.
- `Feed.outstanding`: everything there is to receive for one who is so many events behind.
-/

namespace OpticalBench

variable {α : Type}

/-! ## Feeds -/

namespace Feed

/-- Exactly these events were sent on a feed. -/
structure Carries (f : Feed α) (all : List α) : Prop where
  sent_eq : f.sent = all.length
  kept_eq : f.kept = all.drop (all.length - capacity)

variable {f : Feed α} {all : List α} {s : Subscription} {closed : Bool}

theorem carries_fresh : (fresh : Feed α).Carries [] := ⟨rfl, rfl⟩

theorem Carries.publish (h : f.Carries all) (a : α) : (f.publish a).Carries (all ++ [a]) := by
  constructor
  · rw [sent_publish, h.sent_eq, List.length_append, List.length_singleton]
  · have hkept : (f.publish a).kept = (f.kept ++ [a]).drop (f.kept.length + 1 - capacity) := rfl
    -- forgetting some of what is kept of the events is forgetting more of the events
    have hle : all.length - capacity ≤ all.length := Nat.sub_le ..
    have hplace : all.length - capacity + (all.length - (all.length - capacity) + 1 - capacity) =
        all.length + 1 - capacity := by omega
    rw [hkept, h.kept_eq, ← List.drop_append_of_le_length hle, List.drop_drop, List.length_drop,
      hplace, List.length_append, List.length_singleton]

theorem Carries.publishAll (h : f.Carries all) (events : List α) :
    (f.publishAll events).Carries (all ++ events) := by
  induction events generalizing f all with
  | nil =>
    rw [List.append_nil]
    exact h
  | cons a events ih =>
    rw [List.append_cons]
    exact ih (h.publish a)

theorem Carries.oldest_eq (h : f.Carries all) : f.oldest = all.length - capacity := by
  rw [oldest, h.sent_eq, h.kept_eq, List.length_drop]
  omega

/-- A subscriber can be too far behind, or receive the event that it wants next, or have received
everything. -/
theorem Carries.receive_cases (h : f.Carries all) (closed : Bool) (hle : s.next ≤ all.length) :
    (s.next + capacity < all.length ∧
      f.receive closed s = (.lagged (all.length - capacity - s.next), ⟨all.length - capacity⟩)) ∨
    (∃ a, all.length ≤ s.next + capacity ∧ all[s.next]? = some a ∧
      f.receive closed s = (.event a, ⟨s.next + 1⟩)) ∨
    (s.next = all.length ∧ f.receive closed s = (if closed then .closed else .empty, s)) := by
  rw [receive, h.oldest_eq]
  by_cases hlate : s.next < all.length - capacity
  · rw [if_pos hlate]
    exact .inl ⟨by omega, rfl⟩
  · have hplace : all.length - capacity + (s.next - (all.length - capacity)) = s.next := by omega
    rw [if_neg hlate, h.kept_eq, List.getElem?_drop, hplace]
    by_cases hend : s.next = all.length
    · rw [List.getElem?_eq_none (Nat.le_of_eq hend.symm)]
      exact .inr (.inr ⟨hend, rfl⟩)
    · have hlt : s.next < all.length := by omega
      rw [List.getElem?_eq_getElem hlt]
      exact .inr (.inl ⟨all[s.next], by omega, rfl, rfl⟩)

/-- Everything there is to receive for one who has not received the last `n` of the events: if that
is more than a feed keeps, how many are lost, and then the ones that are kept. -/
def outstanding (all : List α) (n : Nat) : List (Receipt α) :=
  (if capacity < n then [.lagged (n - capacity)] else []) ++
    (all.drop (all.length - min n capacity)).map .event

/-- What was sent before does not count. -/
theorem outstanding_append {n : Nat} (past : List α) {since : List α} (hn : n ≤ since.length) :
    outstanding (past ++ since) n = outstanding since n := by
  have hplace : (past ++ since).length - min n capacity =
      past.length + (since.length - min n capacity) := by
    rw [List.length_append]
    omega
  rw [outstanding, outstanding, hplace, List.drop_append, List.drop_eq_nil_of_le (by omega),
    Nat.add_sub_cancel_left, List.nil_append]

@[simp] theorem outstanding_zero (all : List α) : outstanding all 0 = [] := by
  rw [outstanding, if_neg (Nat.not_lt_zero _), Nat.zero_min, Nat.sub_zero, List.drop_length]
  rfl

/-- One who is too far behind is told so, and is then as far behind as one can be. -/
theorem outstanding_of_late {n : Nat} (hlate : capacity < n) :
    outstanding all n = .lagged (n - capacity) :: outstanding all capacity := by
  rw [outstanding, outstanding, if_pos hlate, if_neg (Nat.lt_irrefl _), Nat.min_self,
    Nat.min_eq_right (Nat.le_of_lt hlate)]
  rfl

/-- Anybody else gets the first of the last events, and the others are left. -/
theorem outstanding_succ {n : Nat} {a : α} (hkept : n + 1 ≤ capacity) (hn : n + 1 ≤ all.length)
    (ha : all[all.length - (n + 1)]? = some a) :
    outstanding all (n + 1) = .event a :: outstanding all n := by
  have hlt : all.length - (n + 1) < all.length := by omega
  have hafter : all.length - (n + 1) + 1 = all.length - n := by omega
  rw [List.getElem?_eq_getElem hlt, Option.some.injEq] at ha
  rw [outstanding, outstanding, if_neg (by omega), if_neg (by omega), Nat.min_eq_left hkept,
    Nat.min_eq_left (by omega), List.drop_eq_getElem_cons hlt, ha, hafter]
  rfl

/-- Receiving takes the first of what is outstanding, if there is anything. -/
theorem Carries.receive_outstanding (h : f.Carries all) (closed : Bool)
    (hle : s.next ≤ all.length) :
    (f.receive closed s).1 = (outstanding all (all.length - s.next)).headD
        (if closed then .closed else .empty) ∧
      outstanding all (all.length - (f.receive closed s).2.next) =
        (outstanding all (all.length - s.next)).tail := by
  rcases h.receive_cases closed hle with ⟨hlate, heq⟩ | ⟨a, hkept, hnext, heq⟩ | ⟨hend, heq⟩
  · have hlost : all.length - s.next - capacity = all.length - capacity - s.next := by omega
    have hleft : all.length - (all.length - capacity) = capacity := by omega
    rw [heq, outstanding_of_late (by omega), hlost]
    refine ⟨rfl, ?_⟩
    rw [hleft]
    rfl
  · have hlt : s.next < all.length := (List.getElem?_eq_some_iff.1 hnext).1
    obtain ⟨n, hn⟩ : ∃ n, all.length = s.next + (n + 1) := ⟨all.length - s.next - 1, by omega⟩
    have hplace : all.length - (n + 1) = s.next := by omega
    have hbehind : all.length - s.next = n + 1 := by omega
    have hafter : all.length - (s.next + 1) = n := by omega
    rw [heq, hbehind, outstanding_succ (by omega) (by omega) (by rw [hplace]; exact hnext)]
    refine ⟨rfl, ?_⟩
    rw [hafter]
    rfl
  · rw [heq, hend, Nat.sub_self, outstanding_zero]
    exact ⟨rfl, rfl⟩

end Feed

/-! ## Receipts -/

namespace Receipt

/-- What a receipt tells of the events that it stands for. -/
def told : Receipt α → List (Option α)
  | event a => [some a]
  | lagged lost => List.replicate lost none
  | empty | closed => []

/-- The event that a receipt brings. -/
def event? : Receipt α → Option α
  | event a => some a
  | lagged _ | empty | closed => none

/-- How many events a receipt says were lost. -/
def lost : Receipt α → Nat
  | lagged lost => lost
  | event _ | empty | closed => 0

theorem length_told (r : Receipt α) : r.told.length = r.event?.toList.length + r.lost := by
  cases r with
  | event a => rfl
  | lagged lost => exact List.length_replicate.trans (Nat.zero_add lost).symm
  | empty => rfl
  | closed => rfl

/-- The first `n` of these receipts, and of the same receipt without end after them. -/
def firstOf (n : Nat) (rs : List (Receipt α)) (last : Receipt α) : List (Receipt α) :=
  rs.take n ++ List.replicate (n - rs.length) last

@[simp] theorem firstOf_zero (rs : List (Receipt α)) (last : Receipt α) :
    firstOf 0 rs last = [] := by
  rw [firstOf, List.take_zero, Nat.zero_sub, List.replicate_zero, List.append_nil]

theorem firstOf_succ (n : Nat) (rs : List (Receipt α)) (last : Receipt α) :
    firstOf (n + 1) rs last = rs.headD last :: firstOf n rs.tail last := by
  cases rs with
  | nil =>
    rw [firstOf, firstOf, List.tail_nil, List.take_nil, List.take_nil]
    rfl
  | cons r rs =>
    rw [firstOf, firstOf, List.length_cons, Nat.add_sub_add_right]
    rfl

end Receipt

/-- A subscriber, and what it has received so far, oldest first. -/
structure Subscriber (α : Type) where
  subscription : Subscription
  receipts : List (Receipt α)

namespace Subscriber

/-- A subscriber from now on. -/
def join (f : Feed α) : Subscriber α := ⟨f.subscribe, []⟩

/-- Receive once. -/
def receive (w : Subscriber α) (f : Feed α) (closed : Bool) : Subscriber α :=
  let (receipt, subscription) := f.receive closed w.subscription
  ⟨subscription, w.receipts ++ [receipt]⟩

/-- The events that it has received. -/
def heard (w : Subscriber α) : List α := w.receipts.filterMap Receipt.event?

/-- How many events it was told it has lost. -/
def lost (w : Subscriber α) : Nat := w.receipts.foldr (fun r n => r.lost + n) 0

/-- What it knows of the events that were sent to it, in order; of a lost one nothing. -/
def story (w : Subscriber α) : List (Option α) := w.receipts.flatMap Receipt.told

variable {w : Subscriber α}

theorem length_story (w : Subscriber α) : w.story.length = w.heard.length + w.lost := by
  rw [story, heard, lost]
  induction w.receipts with
  | nil => rfl
  | cons r rs ih =>
    rw [List.flatMap_cons, List.length_append, ih, r.length_told, List.foldr_cons]
    cases hevent : r.event? with
    | none =>
      rw [List.filterMap_cons_none hevent, Option.toList_none, List.length_nil]
      omega
    | some a =>
      rw [List.filterMap_cons_some hevent, Option.toList_some, List.length_singleton,
        List.length_cons]
      omega

theorem story_concat (w : Subscriber α) (s : Subscription) (r : Receipt α) :
    story ⟨s, w.receipts ++ [r]⟩ = w.story ++ r.told := by
  rw [story, List.flatMap_append, List.flatMap_singleton]
  rfl

/-- Who was never told of a loss knows what it has heard. -/
theorem story_of_not_lagged (h : ∀ k, .lagged k ∉ w.receipts) : w.story = w.heard.map some := by
  rw [story, heard]
  induction hrs : w.receipts generalizing w with
  | nil => rfl
  | cons r rs ih =>
    rw [hrs] at h
    have hrest := @ih ⟨w.subscription, rs⟩ (fun k hk => h k (List.mem_cons_of_mem r hk)) rfl
    rw [List.flatMap_cons, hrest]
    cases r with
    | event a => rfl
    | lagged k => exact absurd List.mem_cons_self (h k)
    | empty => rfl
    | closed => rfl

/-! ## The invariant -/

/-- What is known of an event, if anything, is the event. -/
def Knows (known : Option α) (a : α) : Prop := known = none ∨ known = some a

/-- To know nothing is never wrong. -/
theorem knows_nothing {n : Nat} {as : List α} (h : as.length = n) :
    List.Forall₂ Knows (List.replicate n none) as := by
  subst h
  induction as with
  | nil => exact .nil
  | cons a as ih => exact .cons (.inl rfl) ih

theorem eq_of_knows {as bs : List α} (h : List.Forall₂ Knows (as.map some) bs) : as = bs := by
  induction as generalizing bs with
  | nil =>
    cases h
    rfl
  | cons a as ih =>
    rcases h with _ | ⟨hknows, hrest⟩
    rcases hknows with hnone | hsome
    · exact nomatch hnone
    · rw [Option.some.inj hsome, ih hrest]

/-- A subscriber joined after the events `past`, and `since` was sent since then. It wants next what
comes after its story, its story is true, and it was told that the feed is closed only if it is and
everything was received. -/
structure Follows (past since : List α) (closed : Bool) (w : Subscriber α) : Prop where
  next_eq : w.subscription.next = past.length + w.story.length
  knows : List.Forall₂ Knows w.story (since.take w.story.length)
  closed_last : .closed ∈ w.receipts → closed = true ∧ w.story.length = since.length

variable {past since all : List α} {f : Feed α} {closed : Bool}

theorem Follows.length_story_le (h : w.Follows past since closed) :
    w.story.length ≤ since.length := by
  have hlength := h.knows.length_eq
  rw [List.length_take] at hlength
  omega

theorem Follows.next_le (h : w.Follows past since closed) :
    w.subscription.next ≤ (past ++ since).length := by
  rw [List.length_append, h.next_eq]
  exact Nat.add_le_add_left h.length_story_le _

theorem follows_join (h : f.Carries past) (closed : Bool) : (join f).Follows past [] closed where
  next_eq := h.sent_eq
  knows := .nil
  closed_last hmem := nomatch hmem

/-- Sending events leaves a subscriber where it is. -/
theorem Follows.publishAll {events : List α} (h : w.Follows past since closed)
    (hopen : closed = true → events = []) : w.Follows past (since ++ events) closed := by
  constructor
  · exact h.next_eq
  · rw [List.take_append_of_le_length h.length_story_le]
    exact h.knows
  · intro hmem
    obtain ⟨hclosed, hend⟩ := h.closed_last hmem
    rw [hopen hclosed, List.append_nil]
    exact ⟨hclosed, hend⟩

/-- So does closing the feed. -/
theorem Follows.close (h : w.Follows past since closed) : w.Follows past since true where
  next_eq := h.next_eq
  knows := h.knows
  closed_last hmem := ⟨rfl, (h.closed_last hmem).2⟩

/-- A receipt that is true of what comes next continues the story. -/
theorem Follows.concat {r : Receipt α} {s : Subscription} (h : w.Follows past since closed)
    (hnext : s.next = w.subscription.next + r.told.length)
    (htold : List.Forall₂ Knows r.told ((since.drop w.story.length).take r.told.length))
    (hclosed : r = .closed → closed = true ∧ w.story.length = since.length) :
    Follows past since closed ⟨s, w.receipts ++ [r]⟩ := by
  constructor
  · rw [story_concat, List.length_append, hnext, h.next_eq, Nat.add_assoc]
  · rw [story_concat, List.length_append, List.take_add]
    exact List.rel_append h.knows htold
  · intro hmem
    rw [story_concat, List.length_append]
    rcases List.mem_append.1 hmem with hbefore | hnow
    · -- nothing comes after the end
      have hend := h.closed_last hbefore
      have hlength := htold.length_eq
      rw [List.length_take, List.length_drop] at hlength
      exact ⟨hend.1, by omega⟩
    · have hr : r = .closed := (List.mem_singleton.1 hnow).symm
      obtain ⟨hc, hend⟩ := hclosed hr
      rw [hr]
      exact ⟨hc, hend⟩

/-- Receiving keeps to the story. -/
theorem Follows.receive (h : w.Follows past since closed) (hf : f.Carries (past ++ since)) :
    (w.receive f closed).Follows past since closed := by
  have hnext := h.next_eq
  have hall : (past ++ since).length = past.length + since.length := List.length_append
  rcases hf.receive_cases closed h.next_le with
    ⟨hlate, heq⟩ | ⟨a, -, ha, heq⟩ | ⟨hend, heq⟩
  · -- too far behind: of the lost events nothing is known
    rw [Subscriber.receive, heq]
    refine h.concat ?_ ?_ nofun
    · rw [Receipt.told, List.length_replicate]
      show (past ++ since).length - Feed.capacity = _
      omega
    · rw [Receipt.told, List.length_replicate]
      refine knows_nothing ?_
      rw [List.length_take, List.length_drop]
      omega
  · -- the event that comes next in everything that was sent comes next in what was sent since
    rw [Subscriber.receive, heq]
    refine h.concat rfl ?_ nofun
    have hfirst : since[w.story.length]? = some a := by
      rw [hnext, List.getElem?_append_right (by omega), Nat.add_sub_cancel_left] at ha
      exact ha
    have hhere : (since.drop w.story.length).take 1 = [a] := by
      rw [List.take_one, List.head?_drop, hfirst]
      rfl
    show List.Forall₂ Knows [some a] ((since.drop w.story.length).take 1)
    rw [hhere]
    exact .cons (.inr rfl) .nil
  · -- everything was received, and nothing is told
    rw [Subscriber.receive, heq]
    cases closed with
    | false => exact h.concat rfl .nil nofun
    | true => exact h.concat rfl .nil fun _ => ⟨rfl, by omega⟩

/-! ## What follows from it -/

/-- The events that were heard are among those that are known. -/
theorem heard_eq_story (w : Subscriber α) : w.heard = w.story.filterMap id := by
  rw [heard, story, List.filterMap_flatMap]
  induction w.receipts with
  | nil => rfl
  | cons r rs ih =>
    rw [List.flatMap_cons, ← ih]
    cases r with
    | event a => rfl
    | lagged k =>
      show rs.filterMap Receipt.event? = (List.replicate k none).filterMap id ++ _
      rw [List.filterMap_replicate_of_none rfl, List.nil_append]
    | empty => rfl
    | closed => rfl

theorem sublist_of_knows {known : List (Option α)} {as : List α}
    (h : List.Forall₂ Knows known as) : (known.filterMap id).Sublist as := by
  induction h with
  | nil => exact .slnil
  | cons hknows hrest ih =>
    rcases hknows with rfl | rfl
    · exact ih.cons _
    · exact ih.cons_cons _

/-- The events that were heard were sent, in the same order, and each was heard once. -/
theorem Follows.heard_sublist (h : w.Follows past since closed) : w.heard.Sublist since := by
  rw [heard_eq_story]
  exact (sublist_of_knows h.knows).trans (List.take_sublist ..)

/-- Who was never told of a loss has heard the events that its story is about. -/
theorem Follows.heard_eq_take (h : w.Follows past since closed)
    (hkept : ∀ k, .lagged k ∉ w.receipts) :
    w.heard = since.take w.story.length := by
  have hknows := h.knows
  rw [story_of_not_lagged hkept, List.length_map] at hknows
  rw [story_of_not_lagged hkept, List.length_map]
  exact eq_of_knows hknows

/-- Who is not too far behind is not told of a loss. -/
theorem Follows.lagged_notMem_receive (h : w.Follows past since closed)
    (hf : f.Carries (past ++ since)) (hbehind : since.length - w.story.length ≤ Feed.capacity)
    (hkept : ∀ k, .lagged k ∉ w.receipts) (k : Nat) :
    .lagged k ∉ (w.receive f closed).receipts := by
  have hnow : (f.receive closed w.subscription).1 ≠ .lagged k := by
    rcases hf.receive_cases closed h.next_le with ⟨hlate, -⟩ | ⟨a, -, -, heq⟩ | ⟨-, heq⟩
    · rw [List.length_append, h.next_eq] at hlate
      omega
    · rw [heq]
      exact nofun
    · rw [heq]
      cases closed <;> exact nofun
  intro hmem
  rcases List.mem_append.1 hmem with hbefore | hlast
  · exact hkept k hbefore
  · exact hnow (List.mem_singleton.1 hlast).symm

/-- What is still to be received by a subscriber to whom `since` was sent. -/
def outstanding (since : List α) (w : Subscriber α) : List (Receipt α) :=
  Feed.outstanding since (since.length - w.story.length)

/-- A subscriber receives the first of what is outstanding. -/
theorem Follows.receive_outstanding (h : w.Follows past since closed)
    (hf : f.Carries (past ++ since)) :
    (w.receive f closed).receipts =
        w.receipts ++ [(w.outstanding since).headD (if closed then .closed else .empty)] ∧
      (w.receive f closed).outstanding since = (w.outstanding since).tail := by
  -- behind the end of everything that was sent as far as behind the end of what was sent to it
  have hbehind : ∀ {w : Subscriber α}, w.Follows past since closed →
      w.outstanding since =
        Feed.outstanding (past ++ since) ((past ++ since).length - w.subscription.next) := by
    intro w h
    have hplace : (past ++ since).length - w.subscription.next = since.length - w.story.length := by
      rw [List.length_append, h.next_eq]
      omega
    rw [outstanding, hplace, Feed.outstanding_append past (Nat.sub_le ..)]
  obtain ⟨hfirst, hrest⟩ := hf.receive_outstanding closed h.next_le
  rw [hbehind h, hbehind (h.receive hf), ← hfirst]
  exact ⟨rfl, hrest⟩

/-- Who receives again and again while nothing is sent gets everything that is outstanding, and then
is told every time that there is nothing. -/
theorem Follows.receipts_iterate (h : w.Follows past since closed) (hf : f.Carries (past ++ since))
    (n : Nat) :
    ((fun w => Subscriber.receive w f closed)^[n] w).receipts = w.receipts ++
      Receipt.firstOf n (w.outstanding since) (if closed then .closed else .empty) := by
  induction n generalizing w with
  | zero => rw [Receipt.firstOf_zero, List.append_nil, Function.iterate_zero, id]
  | succ n ih =>
    obtain ⟨hfirst, hrest⟩ := h.receive_outstanding hf
    rw [Function.iterate_succ_apply, ih (h.receive hf), hfirst, hrest, List.append_assoc,
      Receipt.firstOf_succ]
    rfl

end Subscriber

end OpticalBench
