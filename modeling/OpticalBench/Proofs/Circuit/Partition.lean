import Mathlib.Data.List.Induction
import OpticalBench.Proofs.Binary64.Order
import OpticalBench.Proofs.Circuit.Traversal

/-!
# The operations of each mode

`byMode` shares the operations of a circuit out among its modes. Nothing is lost but what is dormant,
nothing is doubled, and the order on a mode is that of the positions, with ties in the order in which
the operations were placed.

- `deal`: one walk over the operations, each put at the end of what its mode has so far.
- `deal_eq`: afterwards each mode has its operations in the order of the walk.
- `mem_onMode`, `mem_flatten_byMode`: which operations are on a mode, and which are on any.
- `flatten_byMode_perm`: all modes together have the live operations.
- `IsStablePartition`: what it means to share the operations out among the modes.
- `byMode_isStablePartition`: this is what `byMode` does, for any positions.
-/

namespace OpticalBench.Circuit

variable {c : Circuit} {m : Nat} {op : Operation}

/-! ## Dealing out -/

/-- Share operations out among as many modes, in one walk: each operation is put at the end of what its
mode has so far, and left out if it has no mode. -/
def deal (count : Nat) (ops : List Operation) : List (List Operation) :=
  ops.foldl (fun dealt op => dealt.modify op.mode.index (· ++ [op])) (List.replicate count [])

/-- Each mode gets its operations in the order of the walk. -/
theorem deal_eq (count : Nat) (ops : List Operation) : deal count ops =
    (List.range count).map fun m => ops.filter fun op => op.mode.index == m := by
  induction ops using List.reverseRecOn with
  | nil => exact List.map_const' .. |>.trans (by rw [List.length_range]; rfl) |>.symm
  | append_singleton ops op ih =>
    have hstep : deal count (ops ++ [op]) =
        (deal count ops).modify op.mode.index (· ++ [op]) := by
      rw [deal, List.foldl_append]
      rfl
    rw [hstep, ih]
    refine List.ext_getElem? fun m => ?_
    rw [List.getElem?_modify, List.getElem?_map, List.getElem?_map]
    by_cases hm : m < count
    · rw [List.getElem?_range hm]
      by_cases hop : op.mode.index = m
      · simp [hop, List.filter_append]
      · simp [hop, List.filter_append]
    · have hnone : (List.range count)[m]? = none :=
        List.getElem?_eq_none (by rw [List.length_range]; exact Nat.le_of_not_lt hm)
      rw [hnone]
      rfl

/-! ## Which operations are on a mode -/

theorem mem_onMode : op ∈ c.onMode m ↔ op ∈ c.operations ∧ op.mode.index = m := by
  rw [onMode, mem_stableSort, List.mem_filter, beq_iff_eq]

theorem mem_flatten_byMode :
    op ∈ c.byMode.flatten ↔ op ∈ c.operations ∧ c.containsMode op.mode = true := by
  rw [byMode, List.mem_flatten, containsMode, decide_eq_true_iff]
  constructor
  · rintro ⟨ops, hops, hop⟩
    obtain ⟨m, hm, rfl⟩ := List.mem_map.1 hops
    obtain ⟨hplaced, rfl⟩ := mem_onMode.1 hop
    exact ⟨hplaced, List.mem_range.1 hm⟩
  · rintro ⟨hop, hlive⟩
    exact ⟨_, List.mem_map_of_mem (List.mem_range.2 hlive), mem_onMode.2 ⟨hop, rfl⟩⟩

theorem length_byMode (c : Circuit) : c.byMode.length = c.modeCount.toNat := by
  rw [byMode, List.length_map, ModeCount.modes, List.length_range]

theorem getElem?_byMode (hm : m < c.modeCount.toNat) : c.byMode[m]? = some (c.onMode m) := by
  rw [byMode, ModeCount.modes, List.getElem?_map, List.getElem?_range hm]
  rfl

theorem lt_of_getElem?_byMode {ops : List Operation} (h : c.byMode[m]? = some ops) :
    m < c.modeCount.toNat := by
  obtain ⟨hm, -⟩ := List.getElem?_eq_some_iff.1 h
  rwa [length_byMode] at hm

/-- All modes together have the live operations, each as often as the circuit. -/
theorem flatten_byMode_perm (c : Circuit) :
    c.byMode.flatten.Perm (c.operations.filter fun op => c.containsMode op.mode) := by
  have hleft : c.traversal.map c.operationAt = c.byMode.flatten := by
    rw [traversal, List.map_flatMap, byMode, ← List.flatMap_def]
    exact List.flatMap_congr fun m _ => c.map_placesOn m
  have hright : ((List.finRange _).filter c.isLiveAt).map c.operationAt =
      c.operations.filter fun op => c.containsMode op.mode := by
    have hops : (List.finRange _).map c.operationAt = c.operations := List.map_get_finRange _
    conv_rhs => rw [← hops]
    rw [List.filter_map]
    rfl
  rw [← hleft, ← hright]
  exact c.traversal_perm.map _

/-! ## Sharing out -/

/-- The position of the operation at a place. -/
def positionAt (c : Circuit) (p : c.Place) : Binary64 := (c.operationAt p).position

/-- What it means to share the operations of a circuit out among its modes, by their positions. -/
structure IsStablePartition (c : Circuit) (shares : List (List Operation)) : Prop where
  /-- Each mode has a share. -/
  length : shares.length = c.modeCount.toNat
  /-- The share of a mode is what stands at the places on that mode, in the total order of positions.
  Where a position repeats, the order is that of the places. -/
  sorted : ∀ m < c.modeCount.toNat, ∃ places : List c.Place,
    shares[m]? = some (places.map c.operationAt) ∧ (∀ p, p ∈ places ↔ c.modeAt p = m) ∧
      places.Pairwise fun p q => (c.positionAt p).Before (c.positionAt q) ∨
        c.positionAt p = c.positionAt q ∧ p < q
  /-- The share of a mode has the operations on that mode, each as often as the circuit. -/
  count : ∀ m share, shares[m]? = some share → ∀ op,
    share.count op = if op.mode.index = m then c.operations.count op else 0
  /-- The operations in no share are the dormant ones, in the order in which they were placed. -/
  rest : (c.operations.filter fun op => !shares.flatten.contains op) = c.dormant
  total : shares.flatten.length + c.dormant.length = c.operations.length
  /-- The shares can be dealt out in one walk and sorted afterwards, one by one. -/
  dealt : shares = (deal c.modeCount.toNat c.operations).map (stableSort Operation.positionLe)

/-- The places on a mode are in the total order of positions, and ties in the order of the places. -/
theorem placesOn_pairwise_before (c : Circuit) (m : Nat) :
    (c.placesOn m).Pairwise fun p q => (c.positionAt p).Before (c.positionAt q) ∨
      c.positionAt p = c.positionAt q ∧ p < q := by
  refine (c.placesOn_pairwise m).imp_of_mem fun {p q} hp hq hpq => ?_
  rw [mem_placesOn] at hp hq
  rcases hpq with hmode | ⟨-, hrank | ⟨hrank, hplace⟩⟩
  · rw [hp, hq] at hmode
    exact absurd hmode (Nat.lt_irrefl m)
  · exact .inl (Binary64.before_iff.2 hrank)
  · exact .inr ⟨Binary64.eq_of_rank_eq hrank, hplace⟩

theorem count_onMode (c : Circuit) (m : Nat) (op : Operation) :
    (c.onMode m).count op = if op.mode.index = m then c.operations.count op else 0 := by
  rw [onMode, (stableSort_perm _ _).count_eq]
  by_cases hop : op.mode.index = m
  · rw [if_pos hop]
    exact List.count_filter (beq_iff_eq.2 hop)
  · rw [if_neg hop, List.count_eq_zero, List.mem_filter, beq_iff_eq]
    exact fun h => hop h.2

/-- **The modes share the live operations out**: each has its own ones, in the total order of their
positions, ties in the order in which they were placed, and only dormant operations are left out. -/
theorem byMode_isStablePartition (c : Circuit) : c.IsStablePartition c.byMode where
  length := c.length_byMode
  sorted m hm := ⟨c.placesOn m, by rw [getElem?_byMode hm, map_placesOn], fun _ => mem_placesOn,
    c.placesOn_pairwise_before m⟩
  count m share hshare op := by
    rw [getElem?_byMode (lt_of_getElem?_byMode hshare), Option.some.injEq] at hshare
    rw [← hshare, count_onMode]
  rest := by
    refine List.filter_congr fun op hop => ?_
    have hshared : c.byMode.flatten.contains op = c.containsMode op.mode := by
      rw [Bool.eq_iff_iff, List.contains_iff_mem, mem_flatten_byMode]
      exact and_iff_right hop
    rw [hshared]
  total := by
    rw [c.flatten_byMode_perm.length_eq, dormant]
    exact (List.length_eq_length_filter_add _).symm
  dealt := by
    rw [deal_eq, List.map_map]
    rfl

end OpticalBench.Circuit
