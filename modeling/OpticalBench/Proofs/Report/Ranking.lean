import Mathlib.Data.List.Perm.Subperm
import OpticalBench.Proofs.Binary64.Order
import OpticalBench.Proofs.Stability
import OpticalBench.Proofs.TextMap
import OpticalBench.Report.Distribution

/-!
# The order of outcomes

A table of outcomes is the beginning of one list, in which all outcomes stand in a strict order: more
probable ones first, equally probable ones by label. Any bits can be a probability here, so the order
is the total one, in which signed zeros and NaN have their places too.

- `Precedes`: the order, which is strict.
- `ranked_perm`, `ranked_pairwise`: the outcomes in this order, each once.
- `shown`: the outcomes of a table.
- `IsTop`: the first so many outcomes, with nothing left out before them; there is one such list
  (`IsTop.unique`), and a table shows it (`isTop_shown`).
-/

namespace OpticalBench.Distribution

variable {r : Results} {a b c : String × Binary64}

/-! ## The order -/

/-- An outcome stands before another one: it is more probable, or as probable and smaller in its
label. -/
def Precedes (a b : String × Binary64) : Prop := b.2.Before a.2 ∨ a.2 = b.2 ∧ a.1 < b.1

theorem precedes_iff :
    Precedes a b ↔ b.2.rank < a.2.rank ∨ a.2.rank = b.2.rank ∧ a.1 < b.1 := by
  have hrank : a.2 = b.2 ↔ a.2.rank = b.2.rank := ⟨congrArg _, Binary64.eq_of_rank_eq⟩
  rw [Precedes, Binary64.before_iff, hrank]

theorem Precedes.asymm (h : Precedes a b) : ¬Precedes b a := by
  intro h'
  rcases precedes_iff.1 h with hrank | ⟨hrank, hlabel⟩ <;>
    rcases precedes_iff.1 h' with hrank' | ⟨hrank', hlabel'⟩
  · omega
  · omega
  · omega
  · exact String.lt_asymm hlabel hlabel'

/-! ## Sorting -/

theorem outcomeLe_iff :
    outcomeLe a b = true ↔ b.2.rank < a.2.rank ∨ a.2.rank = b.2.rank ∧ a.1 ≤ b.1 := by
  rw [outcomeLe]
  by_cases hrank : a.2.rank = b.2.rank
  · simp [hrank]
  · rw [if_neg hrank, Binary64.totalLe, decide_eq_true_eq]
    omega

theorem outcomeLe_total (a b : String × Binary64) :
    outcomeLe a b = true ∨ outcomeLe b a = true := by
  rw [outcomeLe_iff, outcomeLe_iff]
  rcases Int.lt_trichotomy a.2.rank b.2.rank with hlt | heq | hgt
  · exact .inr (.inl hlt)
  · exact (String.le_total a.1 b.1).imp (fun hle => .inr ⟨heq, hle⟩) fun hle => .inr ⟨heq.symm, hle⟩
  · exact .inl (.inl hgt)

theorem outcomeLe_trans (a b c : String × Binary64) (hab : outcomeLe a b = true)
    (hbc : outcomeLe b c = true) : outcomeLe a c = true := by
  rw [outcomeLe_iff] at *
  rcases hab with hab | ⟨hab, hle⟩
  · exact .inl (by rcases hbc with hbc | ⟨hbc, -⟩ <;> omega)
  · rcases hbc with hbc | ⟨hbc, hle'⟩
    · exact .inl (by omega)
    · exact .inr ⟨hab.trans hbc, String.le_trans hle hle'⟩

/-- All outcomes are ranked, each once. -/
theorem ranked_perm (r : Results) : (ranked r).Perm r.probabilities.entries := stableSort_perm ..

theorem nodup_ranked (r : Results) : ((ranked r).map (·.1)).Nodup :=
  ((ranked_perm r).map _).nodup_iff.2 r.probabilities.nodup_keys

theorem mem_ranked_iff : a ∈ ranked r ↔ r.probabilities.get? a.1 = some a.2 :=
  (ranked_perm r).mem_iff.trans TextMap.mem_entries_iff

/-- Ranked outcomes stand in the order. -/
theorem ranked_pairwise (r : Results) : (ranked r).Pairwise Precedes := by
  have hsorted := stableSort_pairwise outcomeLe_total outcomeLe_trans r.probabilities.entries
  have hlabels : (ranked r).Pairwise fun a b => a.1 ≠ b.1 := List.pairwise_map.1 (nodup_ranked r)
  refine hsorted.imp₂ (fun a b hle hne => ?_) hlabels
  rw [precedes_iff]
  refine (outcomeLe_iff.1 hle).imp_right fun ⟨hrank, hlabel⟩ => ⟨hrank, ?_⟩
  exact String.not_le.1 fun hlabel' => hne (String.le_antisymm hlabel hlabel')

/-! ## The first outcomes -/

/-- The outcomes of a table. -/
def shown (r : Results) (limit : Nat) : List (String × Binary64) := (ranked r).take limit

/-- The first outcomes, in order, as many as there may be. -/
structure IsTop (r : Results) (limit : Nat) (outcomes : List (String × Binary64)) : Prop where
  size : outcomes.length = min limit r.probabilities.size
  known : ∀ o ∈ outcomes, r.probabilities.get? o.1 = some o.2
  distinct : (outcomes.map (·.1)).Nodup
  ordered : outcomes.Pairwise Precedes
  /-- Whatever is left out comes after all of them. -/
  complete : ∀ label p, r.probabilities.get? label = some p → label ∉ outcomes.map (·.1) →
    ∀ o ∈ outcomes, Precedes o (label, p)

/-- Of two such lists neither has an outcome that the other one lacks. -/
theorem IsTop.subset {limit : Nat} {xs ys : List (String × Binary64)} (hxs : IsTop r limit xs)
    (hys : IsTop r limit ys) : xs ⊆ ys := by
  intro x hx
  by_contra hleft
  have hlabel : x.1 ∉ ys.map (·.1) := by
    intro hmem
    obtain ⟨y, hy, heq⟩ := List.mem_map.1 hmem
    have hsame : y.2 = x.2 := Option.some.inj ((hys.known y hy).symm.trans (heq ▸ hxs.known x hx))
    exact hleft (Prod.ext heq hsame ▸ hy)
  -- as many outcomes without `x`, so one of them is left out of `xs` in turn
  obtain ⟨y, hy, hyleft⟩ : ∃ y ∈ ys, y.1 ∉ xs.map (·.1) := by
    by_contra hall
    push Not at hall
    have hlabels : ys.map (·.1) ⊆ xs.map (·.1) := by
      intro label hmem
      obtain ⟨y, hy, rfl⟩ := List.mem_map.1 hmem
      exact hall y hy
    have hperm : (ys.map (·.1)).Perm (xs.map (·.1)) :=
      (List.subperm_of_subset hys.distinct hlabels).perm_of_length_le
        (by rw [List.length_map, List.length_map, hxs.size, hys.size])
    exact hlabel (hperm.mem_iff.2 (List.mem_map_of_mem hx))
  exact (hxs.complete y.1 y.2 (hys.known y hy) hyleft x hx).asymm
    (hys.complete x.1 x.2 (hxs.known x hx) hlabel y hy)

/-- The first outcomes are one list. -/
theorem IsTop.unique {limit : Nat} {xs ys : List (String × Binary64)} (hxs : IsTop r limit xs)
    (hys : IsTop r limit ys) : xs = ys := by
  have hperm : xs.Perm ys := (List.perm_ext_iff_of_nodup (.of_map _ hxs.distinct)
    (.of_map _ hys.distinct)).2 fun o => ⟨fun h => hxs.subset hys h, fun h => hys.subset hxs h⟩
  exact hperm.eq_of_pairwise (fun _ _ _ _ hab hba => absurd hba hab.asymm) hxs.ordered hys.ordered

/-- The outcomes of a table are the first ones. -/
theorem isTop_shown (r : Results) (limit : Nat) : IsTop r limit (shown r limit) where
  size := by rw [shown, List.length_take, (ranked_perm r).length_eq, TextMap.size]
  known o ho := mem_ranked_iff.1 (List.mem_of_mem_take ho)
  distinct := (nodup_ranked r).sublist ((List.take_sublist ..).map _)
  ordered := (ranked_pairwise r).sublist (List.take_sublist ..)
  complete := by
    intro label p hget hleft o ho
    -- an outcome that is not among the first ones is among the others
    have hmem : (label, p) ∈ (ranked r).take limit ++ (ranked r).drop limit := by
      rw [List.take_append_drop]
      exact mem_ranked_iff.2 hget
    have hdrop : (label, p) ∈ (ranked r).drop limit := by
      rcases List.mem_append.1 hmem with htake | hdrop
      · exact absurd (List.mem_map_of_mem htake) hleft
      · exact hdrop
    have hpairwise := ranked_pairwise r
    rw [← List.take_append_drop limit (ranked r), List.pairwise_append] at hpairwise
    exact hpairwise.2.2 o ho _ hdrop

end OpticalBench.Distribution
