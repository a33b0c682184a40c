import OpticalBench.Proofs.Circuit.Partition

/-!
# Where an operation is placed

`add` places an operation one after the largest finite position of the whole circuit. On its mode this
is the end, unless the mode has an operation that is after every finite position. It does not matter
that adding one may change nothing: a tie goes to the operation that was placed first.

- `BeyondFinite`: infinity, or a positive NaN.
- `IsLargest`: a number that no other of a list exceeds in value.
- `nextPosition_rank_lt_iff`: what is after the next position is beyond every finite number.
- `IsPlacing`: what placing an operation does to the modes of a circuit.
- `add_isPlacing`: this is what `add` does, wherever the other operations are.
-/

namespace OpticalBench

namespace Binary64

variable {x y : Binary64}

/-! ## Beyond the finite numbers -/

/-- After every finite number: infinity, or a NaN whose sign bit is clear. -/
def BeyondFinite (x : Binary64) : Prop :=
  x = infinity false ∨ x.isNaN = true ∧ x.isNegative = false

instance (x : Binary64) : Decidable x.BeyondFinite := by
  unfold BeyondFinite
  infer_instance

theorem beyondFinite_iff_tier : x.BeyondFinite ↔ x.tier = .infinity ∨ x.tier = .positiveNaN := by
  have hinfinity : x = infinity false ↔ x.tier = .infinity := by
    constructor
    · rintro rfl
      decide
    · intro h
      have hx := x.holds_tier
      rw [h] at hx
      refine eq_of_rank_eq (Eq.trans hx ?_)
      decide
  have hpositive : x.isNaN = true ∧ x.isNegative = false ↔ x.tier = .positiveNaN := by
    cases hsign : x.isNegative <;> simp only [tier, hsign] <;> split_ifs <;> simp_all
  rw [BeyondFinite, hinfinity, hpositive]

theorem tier_of_isFinite (h : x.isFinite = true) : x.tier = .negative ∨ x.tier = .positive := by
  rw [tier, isNaN_eq_false h, isInfinite_eq_false h]
  cases x.isNegative
  · exact .inr rfl
  · exact .inl rfl

theorem tier_of_not_isFinite (h : x.isFinite = false) :
    x.tier = .negativeNaN ∨ x.tier = .negativeInfinity ∨ x.tier = .infinity ∨
      x.tier = .positiveNaN := by
  have hfield : x.exponentField = 2047 := by simpa [isFinite] using h
  simp only [tier, isNaN, isInfinite, hfield]
  cases x.isNegative <;> by_cases hfraction : x.fraction = 0 <;> simp [hfraction]

theorem not_beyondFinite (h : x.isFinite = true) : ¬x.BeyondFinite := by
  rw [beyondFinite_iff_tier]
  rcases tier_of_isFinite h with h | h <;> simp [h]

/-- What is not finite is after a finite number if it is beyond all of them, else before it. -/
theorem rank_lt_iff_beyondFinite (hx : x.isFinite = false) (hy : y.isFinite = true) :
    y.rank < x.rank ↔ x.BeyondFinite := by
  rw [← before_iff, Before, beyondFinite_iff_tier]
  rcases tier_of_isFinite hy with hfinite | hfinite <;>
    rcases tier_of_not_isFinite hx with h | h | h | h <;>
    simp [hfinite, h, Tier.place]

/-! ## The largest number -/

/-- One of the numbers, and none of them exceeds it in value. -/
def IsLargest (ps : List Binary64) (best : Binary64) : Prop :=
  best ∈ ps ∧ ∀ p ∈ ps, p.numericRank ≤ best.numericRank

/-- The larger of two numbers that are not NaN has the larger place in the order of values. -/
theorem numericRank_numericMax (hx : x.isNaN = false) (hy : y.isNaN = false) :
    x.numericRank ≤ (x.numericMax y).numericRank ∧
      y.numericRank ≤ (x.numericMax y).numericRank := by
  simp only [numericMax, numericLt, hx, hy, Bool.not_false, Bool.true_and, decide_eq_true_eq]
  split_ifs <;> omega

theorem numericMax_eq (x y : Binary64) : x.numericMax y = x ∨ x.numericMax y = y := by
  rw [numericMax]
  split_ifs
  · exact .inr rfl
  · exact .inl rfl

end Binary64

namespace Circuit

variable {c : Circuit} {m : Nat} {op : Operation}

/-- The finite positions of a circuit. -/
def finitePositions (c : Circuit) : List Binary64 :=
  (c.operations.map (·.position)).filter Binary64.isFinite

theorem mem_finitePositions {p : Binary64} : p ∈ c.finitePositions ↔
    (∃ op ∈ c.operations, op.position = p) ∧ p.isFinite = true := by
  rw [finitePositions, List.mem_filter, List.mem_map]

/-- The last position is a largest of the finite ones; without finite ones there is none. -/
theorem lastPosition?_spec (c : Circuit) :
    c.lastPosition? = none ∧ c.finitePositions = [] ∨
      ∃ best, c.lastPosition? = some best ∧ Binary64.IsLargest c.finitePositions best := by
  have hfinite : ∀ p ∈ c.finitePositions, p.isNaN = false := fun p hp =>
    Binary64.isNaN_eq_false (mem_finitePositions.1 hp).2
  rw [lastPosition?, ← finitePositions]
  -- the positions are gone through from left to right, so the induction takes away the last one
  generalize c.finitePositions = ps at hfinite ⊢
  induction ps using List.reverseRecOn with
  | nil => exact .inl ⟨rfl, rfl⟩
  | append_singleton ps p ih =>
    have hp := hfinite p (List.mem_append_right _ (List.mem_singleton.2 rfl))
    refine .inr ?_
    rw [List.foldl_append]
    rcases ih fun q hq => hfinite q (List.mem_append_left _ hq) with
      ⟨hnone, rfl⟩ | ⟨best, hbest, hmem, hle⟩
    · rw [hnone]
      exact ⟨p, rfl, by simp [Binary64.IsLargest]⟩
    · rw [hbest]
      have hmax := Binary64.numericRank_numericMax (hfinite best (List.mem_append_left _ hmem)) hp
      refine ⟨best.numericMax p, rfl, ?_, fun q hq => ?_⟩
      · rcases Binary64.numericMax_eq best p with h | h <;> rw [h]
        · exact List.mem_append_left _ hmem
        · exact List.mem_append_right _ (List.mem_singleton.2 rfl)
      · rcases List.mem_append.1 hq with hq | hq
        · exact Int.le_trans (hle q hq) hmax.1
        · rw [List.mem_singleton.1 hq]
          exact hmax.2

/-! ## The next position -/

theorem isFinite_nextPosition (c : Circuit) : c.nextPosition.isFinite = true := by
  rw [nextPosition]
  rcases c.lastPosition?_spec with ⟨hnone, -⟩ | ⟨best, hbest, hmem, -⟩
  · rw [hnone]
    decide
  · rw [hbest]
    exact Binary64.isFinite_add_one (mem_finitePositions.1 hmem).2

/-- No finite position is after the next one. -/
theorem rank_le_nextPosition (hop : op ∈ c.operations) (hfinite : op.position.isFinite = true) :
    op.position.rank ≤ c.nextPosition.rank := by
  have hposition : op.position ∈ c.finitePositions := mem_finitePositions.2 ⟨⟨op, hop, rfl⟩, hfinite⟩
  rw [nextPosition]
  rcases c.lastPosition?_spec with ⟨-, hempty⟩ | ⟨best, hbest, hmem, hle⟩
  · rw [hempty] at hposition
    exact absurd hposition List.not_mem_nil
  · rw [hbest]
    exact Binary64.rank_le_add_one (mem_finitePositions.1 hmem).2 (hle _ hposition)

/-- What is after the next position is beyond every finite number. -/
theorem nextPosition_rank_lt_iff (hop : op ∈ c.operations) :
    c.nextPosition.rank < op.position.rank ↔ op.position.BeyondFinite := by
  cases hfinite : op.position.isFinite with
  | true =>
    exact iff_of_false (Int.not_lt.2 (rank_le_nextPosition hop hfinite))
      (Binary64.not_beyondFinite hfinite)
  | false => exact Binary64.rank_lt_iff_beyondFinite hfinite c.isFinite_nextPosition

/-! ## Placing an operation -/

/-- What placing `op` does to a circuit `c`, if `c'` is the circuit afterwards. -/
structure IsPlacing (op : Operation) (c c' : Circuit) : Prop where
  finite : op.position.isFinite = true
  operations : c'.operations = c.operations ++ [op]
  modeCount : c'.modeCount = c.modeCount
  /-- The other modes stay as they are. -/
  elsewhere : ∀ m, m ≠ op.mode.index → c'.byMode[m]? = c.byMode[m]?
  /-- On its mode the operation is put between two parts that stay as they are. It is behind all that
  is not beyond every finite position, and in front of all that is. -/
  between : ∃ before after, c.byMode[op.mode.index]? = some (before ++ after) ∧
    c'.byMode[op.mode.index]? = some (before ++ op :: after) ∧
    (∀ a ∈ before, ¬a.position.BeyondFinite) ∧ ∀ a ∈ after, a.position.BeyondFinite
  /-- It is the last one of its mode just when nothing on that mode is beyond every finite position. -/
  last : (c'.byMode[op.mode.index]?.bind List.getLast?) = some op ↔
    ∀ a ∈ c.operations, a.mode.index = op.mode.index → ¬a.position.BeyondFinite

/-- A circuit with an operation placed behind the others. -/
def concat (c : Circuit) (op : Operation) : Circuit :=
  { c with operations := c.operations ++ [op], source := "" }

/-- The other modes do not see the new operation. -/
theorem onMode_concat_of_ne (h : m ≠ op.mode.index) : (c.concat op).onMode m = c.onMode m := by
  rw [onMode, concat, List.filter_append, List.filter_cons_of_neg (by simpa using Ne.symm h),
    List.filter_nil, List.append_nil]
  rfl

/-- At the next position it is sorted behind all on its mode that is not beyond every finite position. -/
theorem exists_onMode_concat (hposition : op.position = c.nextPosition) :
    ∃ before after, c.onMode op.mode.index = before ++ after ∧
      (c.concat op).onMode op.mode.index = before ++ op :: after ∧
      (∀ a ∈ before, ¬a.position.BeyondFinite) ∧ ∀ a ∈ after, a.position.BeyondFinite := by
  obtain ⟨before, after, hsort, hconcat, hbefore, hafter⟩ :=
    exists_stableSort_concat (fun op => op.position.rank) op
      (c.operations.filter fun a => a.mode.index == op.mode.index)
  have honMode : c.onMode op.mode.index = before ++ after := hsort
  have hplaced : ∀ a ∈ before ++ after, a ∈ c.operations := fun a ha =>
    (mem_onMode.1 (honMode ▸ ha)).1
  refine ⟨before, after, honMode, ?_, fun a ha => ?_, fun a ha => ?_⟩
  · rw [onMode, concat, List.filter_append, List.filter_cons_of_pos (by simp)]
    exact hconcat
  · rw [← nextPosition_rank_lt_iff (hplaced a (List.mem_append_left _ ha)), ← hposition]
    exact Int.not_lt.2 (hbefore a ha)
  · rw [← nextPosition_rank_lt_iff (hplaced a (List.mem_append_right _ ha)), ← hposition]
    exact hafter a ha

theorem getElem?_byMode_concat_of_ne (h : m ≠ op.mode.index) :
    (c.concat op).byMode[m]? = c.byMode[m]? := by
  by_cases hm : m < c.modeCount.toNat
  · rw [getElem?_byMode hm, getElem?_byMode (c := c.concat op) hm, onMode_concat_of_ne h]
  · have hnone : ∀ d : Circuit, d.modeCount = c.modeCount → d.byMode[m]? = none := by
      intro d hd
      rw [List.getElem?_eq_none_iff, length_byMode, hd]
      exact Nat.le_of_not_lt hm
    rw [hnone c rfl, hnone (c.concat op) rfl]

/-- A finite operation is last if there is nothing behind it that is beyond every finite position. -/
theorem getLast?_eq_some_iff {before after : List Operation} (hop : op.position.isFinite = true)
    (hafter : ∀ a ∈ after, a.position.BeyondFinite) :
    (before ++ op :: after).getLast? = some op ↔ after = [] := by
  constructor
  · intro hlast
    by_contra hne
    have hback : (before ++ op :: after).getLast? = some (after.getLast hne) := by
      rw [List.getLast?_append_cons, List.getLast?_cons, List.getLast?_eq_some_getLast hne]
      rfl
    have hbeyond := hafter _ (List.getLast_mem hne)
    rw [Option.some.inj (hback.symm.trans hlast)] at hbeyond
    exact Binary64.not_beyondFinite hop hbeyond
  · rintro rfl
    simp

theorem concat_isPlacing (hmode : c.containsMode op.mode = true)
    (hposition : op.position = c.nextPosition) : IsPlacing op c (c.concat op) := by
  obtain ⟨before, after, hshare, hshare', hbefore, hafter⟩ := exists_onMode_concat hposition
  have hm : op.mode.index < c.modeCount.toNat := of_decide_eq_true hmode
  have hfinite : op.position.isFinite = true := hposition ▸ c.isFinite_nextPosition
  have hmodes : c.byMode[op.mode.index]? = some (before ++ after) := by
    rw [getElem?_byMode hm, hshare]
  have hmodes' : (c.concat op).byMode[op.mode.index]? = some (before ++ op :: after) := by
    rw [getElem?_byMode (c := c.concat op) hm, hshare']
  have honMode : ∀ a, a ∈ before ++ after ↔ a ∈ c.operations ∧ a.mode.index = op.mode.index := by
    intro a
    rw [← hshare, mem_onMode]
  refine ⟨hfinite, rfl, rfl, fun m => getElem?_byMode_concat_of_ne,
    ⟨before, after, hmodes, hmodes', hbefore, hafter⟩, ?_⟩
  rw [hmodes', Option.bind_some, getLast?_eq_some_iff hfinite hafter]
  constructor
  · rintro rfl a ha hmode
    exact hbefore a (by simpa using (honMode a).2 ⟨ha, hmode⟩)
  · intro hnone
    refine List.eq_nil_iff_forall_not_mem.2 fun a ha => ?_
    obtain ⟨hplaced, hmode⟩ := (honMode a).1 (List.mem_append_right _ ha)
    exact hnone a hplaced hmode (hafter a ha)

/-- **An operation is placed at the end of its mode just when it can be**: at a finite position, behind
all on its mode but what is beyond every finite position, with all else as it was. -/
theorem add_isPlacing (c : Circuit) (id : Uuid) (element : Element) (mode : Mode)
    (parameters : Option Parameters) (hmode : c.containsMode mode = true) :
    IsPlacing ⟨id, element, mode, c.nextPosition, parameters.getD element.defaults⟩ c
      (c.add id element mode parameters) :=
  concat_isPlacing hmode rfl

/-- Two modes: on the first `2^53`, to which nothing is added by adding one, `-0.0` and a negative NaN;
on the second a positive NaN. -/
def crowded : Circuit :=
  { modeCount := .default
    operations := [(Mode.first, 0x4340000000000000), (.first, 0x8000000000000000),
      (.first, 0xfff8000000000000), (Mode.first.next, 0x7ff8000000000000)].map fun (mode, bits) =>
        ⟨default, .laser, mode, ⟨bits⟩, Element.laser.defaults⟩
    source := "" }

theorem add_isPlacing_crowded : crowded.containsMode .first = true ∧
    crowded.containsMode Mode.first.next = true ∧ crowded.nextPosition = ⟨0x4340000000000000⟩ ∧
    ((crowded.add default .squeezeGate .first none).byMode[0]?.bind List.getLast?) =
      some ⟨default, .squeezeGate, .first, crowded.nextPosition, Element.squeezeGate.defaults⟩ ∧
    ((crowded.add default .squeezeGate Mode.first.next none).byMode[1]?.bind List.getLast?) ≠
      some ⟨default, .squeezeGate, Mode.first.next, crowded.nextPosition,
        Element.squeezeGate.defaults⟩ := by
  have hfirst : crowded.containsMode .first = true := by decide
  have hsecond : crowded.containsMode Mode.first.next = true := by decide
  refine ⟨hfirst, hsecond, by decide +kernel, ?_, fun hlast => ?_⟩
  · exact (add_isPlacing crowded default .squeezeGate .first none hfirst).last.2 (by decide +kernel)
  · have hnone := (add_isPlacing crowded default .squeezeGate _ none hsecond).last.1 hlast
    exact absurd hnone (by decide +kernel)

end Circuit

end OpticalBench
