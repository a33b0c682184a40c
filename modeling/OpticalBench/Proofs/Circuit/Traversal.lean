import Mathlib.Data.List.FinRange
import OpticalBench.Circuit.Basic
import OpticalBench.Proofs.Binary64.Order
import OpticalBench.Proofs.Stability

/-!
# The traversal of a circuit

Operations of a circuit may repeat in every respect, identifiers included, so an operation is known
here by its `Place` in the list of operations.

- `Precedes`: the order by mode, then by position, then by place.
- `traversal`: the places of the live operations, mode by mode.
- `map_placesOn`: on each mode the traversal is `onMode`.
- `traversal_perm`, `traversal_pairwise`: every live operation is passed exactly once, and the
  traversal runs in the order of `Precedes`.
-/

namespace OpticalBench

/-- Operations are sorted by the rank of their positions. -/
theorem Operation.positionLe_eq_keyLe :
    Operation.positionLe = keyLe fun op => op.position.rank := rfl

namespace Circuit

/-- Where an operation stands in the list of operations. -/
abbrev Place (c : Circuit) : Type := Fin c.operations.length

variable {c : Circuit}

/-- The operation at a place. -/
def operationAt (c : Circuit) (p : c.Place) : Operation := c.operations.get p

/-- The index of the mode of the operation at a place. -/
def modeAt (c : Circuit) (p : c.Place) : Nat := (c.operationAt p).mode.index

/-- The rank of the position of the operation at a place. -/
def rankAt (c : Circuit) (p : c.Place) : Int := (c.operationAt p).position.rank

/-- Whether the operation at a place is on a mode of the circuit. -/
def isLiveAt (c : Circuit) (p : c.Place) : Bool := c.containsMode (c.operationAt p).mode

theorem isLiveAt_iff {p : c.Place} : c.isLiveAt p = true ↔ c.modeAt p < c.modeCount.toNat := by
  simp [isLiveAt, containsMode, modeAt]

/-- The order of places by mode, then by position in the total order of numbers, then by insertion. -/
def Precedes (c : Circuit) (p q : c.Place) : Prop :=
  c.modeAt p < c.modeAt q ∨
    c.modeAt p = c.modeAt q ∧
      (c.rankAt p < c.rankAt q ∨ c.rankAt p = c.rankAt q ∧ p < q)

instance (p q : c.Place) : Decidable (c.Precedes p q) := by
  unfold Precedes
  infer_instance

theorem Precedes.irrefl {p : c.Place} (h : c.Precedes p p) : False := by
  simp [Precedes] at h

theorem Precedes.asymm {p q : c.Place} (h : c.Precedes p q) : ¬c.Precedes q p := by
  simp only [Precedes, Fin.lt_def] at *
  omega

/-- The places of the operations on one mode, in the order of their positions. -/
def placesOn (c : Circuit) (m : Nat) : List c.Place :=
  stableSort (keyLe c.rankAt) ((List.finRange _).filter fun p => c.modeAt p == m)

/-- The places of the live operations, mode by mode. -/
def traversal (c : Circuit) : List c.Place := c.modeCount.modes.flatMap c.placesOn

@[simp] theorem mem_placesOn {m : Nat} {p : c.Place} : p ∈ c.placesOn m ↔ c.modeAt p = m := by
  simp [placesOn]

theorem mem_traversal {p : c.Place} : p ∈ c.traversal ↔ c.modeAt p < c.modeCount.toNat := by
  simp [traversal, ModeCount.modes]

/-- The operations at the places of a mode are the operations on that mode, in the same order. -/
theorem map_placesOn (c : Circuit) (m : Nat) : (c.placesOn m).map c.operationAt = c.onMode m := by
  have hops : (List.finRange _).map c.operationAt = c.operations := List.map_get_finRange _
  rw [onMode, Operation.positionLe_eq_keyLe]
  conv_rhs => rw [← hops]
  rw [List.filter_map, stableSort_map]
  rfl

theorem placesOn_pairwise (c : Circuit) (m : Nat) : (c.placesOn m).Pairwise c.Precedes := by
  have hsorted : (c.placesOn m).Pairwise fun p q =>
      keyLe c.rankAt p q = true ∧ (keyLe c.rankAt q p = true → p < q) :=
    stableSort_stable (keyLe_total _) (keyLe_trans _)
      ((List.pairwise_lt_finRange _).filter _)
  refine hsorted.imp_of_mem fun {p q} hp hq h => ?_
  rw [mem_placesOn] at hp hq
  refine .inr ⟨hp.trans hq.symm, ?_⟩
  simp only [keyLe, decide_eq_true_eq] at h
  rcases Int.lt_or_eq_of_le h.1 with hlt | heq
  · exact .inl hlt
  · exact .inr ⟨heq, h.2 (Int.le_of_eq heq.symm)⟩

/-- The traversal runs in the order of modes, positions and insertion. -/
theorem traversal_pairwise (c : Circuit) : c.traversal.Pairwise c.Precedes := by
  refine List.pairwise_flatMap.2 ⟨fun m _ => c.placesOn_pairwise m, ?_⟩
  refine List.pairwise_lt_range.imp fun {m n} hmn p hp q hq => .inl ?_
  rw [mem_placesOn] at hp hq
  rw [hp, hq]
  exact hmn

theorem traversal_nodup (c : Circuit) : c.traversal.Nodup := by
  refine c.traversal_pairwise.imp ?_
  rintro p q hpq rfl
  exact hpq.irrefl

/-- Every live operation is passed exactly once, and no other is. -/
theorem traversal_perm (c : Circuit) :
    c.traversal.Perm ((List.finRange _).filter c.isLiveAt) := by
  refine (List.perm_ext_iff_of_nodup c.traversal_nodup
    ((List.nodup_finRange _).filter _)).2 fun p => ?_
  rw [mem_traversal, List.mem_filter, isLiveAt_iff]
  simp

end Circuit

end OpticalBench
