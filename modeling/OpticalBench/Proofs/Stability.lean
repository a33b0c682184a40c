import OpticalBench.StableSort

/-!
# Stability of sorting

What `stableSort` does to elements that tie, and what its result depends on.

- `stableSort_map`, `stableSort_congr`: sorting sees an element only through its comparisons with
  the elements of the list.
- `stableSort_stable`: two elements of the result that tie stand in the order in which they came.
- `filter_key_stableSort`: sorting by a key leaves the sublist of each key as it was.
- `eq_of_filter_key_eq`: a list in the order of a key is determined by those sublists, so two lists
  with the same sublists are sorted into one (`stableSort_eq_of_filter_key_eq`).
- `filter_stableSort`: sorting and dropping elements can be exchanged.
- `stableSort_split`: a sorted list below a key, at it and above it.
- `exists_stableSort_append`, `exists_stableSort_concat`: where elements that are added to a list stand
  in the sorted list.
-/

namespace OpticalBench

variable {α β : Type}

/-! ## Comparisons are all that matters -/

theorem insertSorted_map (g : β → α) (le : α → α → Bool) (x : β) (xs : List β) :
    insertSorted le (g x) (xs.map g) = (insertSorted (fun a b => le (g a) (g b)) x xs).map g := by
  induction xs with
  | nil => rfl
  | cons y ys ih =>
    rw [List.map_cons, insertSorted, insertSorted]
    by_cases h : le (g x) (g y) = true
    · rw [if_pos h, if_pos h]
      rfl
    · rw [if_neg h, if_neg h, ih]
      rfl

/-- Sorting images compares elements through their images. -/
theorem stableSort_map (g : β → α) (le : α → α → Bool) (xs : List β) :
    stableSort le (xs.map g) = (stableSort (fun a b => le (g a) (g b)) xs).map g := by
  induction xs with
  | nil => rfl
  | cons x xs ih => rw [List.map_cons, stableSort_cons, stableSort_cons, ih, insertSorted_map]

theorem insertSorted_congr {le le' : α → α → Bool} {x : α} {xs : List α}
    (h : ∀ y ∈ xs, le x y = le' x y) : insertSorted le x xs = insertSorted le' x xs := by
  induction xs with
  | nil => rfl
  | cons y ys ih =>
    rw [insertSorted, insertSorted, h y (by simp), ih fun z hz => h z (by simp [hz])]

/-- Orders that agree on the elements of a list sort it alike. -/
theorem stableSort_congr {le le' : α → α → Bool} {xs : List α}
    (h : ∀ x ∈ xs, ∀ y ∈ xs, le x y = le' x y) : stableSort le xs = stableSort le' xs := by
  induction xs with
  | nil => rfl
  | cons x xs ih =>
    rw [stableSort_cons, stableSort_cons,
      ih fun a ha b hb => h a (List.mem_cons_of_mem _ ha) b (List.mem_cons_of_mem _ hb)]
    refine insertSorted_congr fun y hy => ?_
    exact h x (by simp) y (List.mem_cons_of_mem _ (mem_stableSort.1 hy))

/-! ## Ties -/

theorem insertSorted_stable {le : α → α → Bool} {R : α → α → Prop}
    (total : ∀ a b, le a b = true ∨ le b a = true)
    (trans : ∀ a b c, le a b = true → le b c = true → le a c = true)
    {x : α} {xs : List α} (hx : ∀ y ∈ xs, R x y)
    (h : xs.Pairwise fun a b => le a b = true ∧ (le b a = true → R a b)) :
    (insertSorted le x xs).Pairwise fun a b => le a b = true ∧ (le b a = true → R a b) := by
  induction xs with
  | nil => simp [insertSorted]
  | cons y ys ih =>
    obtain ⟨hy, hys⟩ := List.pairwise_cons.1 h
    rw [insertSorted]
    by_cases hxy : le x y = true
    · rw [if_pos hxy]
      refine List.pairwise_cons.2 ⟨fun z hz => ⟨?_, fun _ => hx z hz⟩, h⟩
      rcases List.mem_cons.1 hz with rfl | hz
      · exact hxy
      · exact trans _ _ _ hxy (hy z hz).1
    · rw [if_neg hxy]
      refine List.pairwise_cons.2 ⟨fun z hz => ?_, ih (fun z hz => hx z (by simp [hz])) hys⟩
      rcases List.mem_cons.1 ((insertSorted_perm le x ys).mem_iff.1 hz) with rfl | hz
      · -- `y` stands strictly before `x`, so the two do not tie
        exact ⟨(total z y).resolve_left hxy, fun hzy => absurd hzy hxy⟩
      · exact hy z hz

/-- Elements of a sorted list are in order, and where two of them tie they are related as they were
before. -/
theorem stableSort_stable {le : α → α → Bool} {R : α → α → Prop}
    (total : ∀ a b, le a b = true ∨ le b a = true)
    (trans : ∀ a b c, le a b = true → le b c = true → le a c = true)
    {xs : List α} (h : xs.Pairwise R) :
    (stableSort le xs).Pairwise fun a b => le a b = true ∧ (le b a = true → R a b) := by
  induction xs with
  | nil => exact .nil
  | cons x xs ih =>
    obtain ⟨hx, hxs⟩ := List.pairwise_cons.1 h
    exact insertSorted_stable total trans (fun y hy => hx y (mem_stableSort.1 hy)) (ih hxs)

/-! ## Sorting by a key -/

/-- The order of keys. -/
def keyLe (key : α → Int) (a b : α) : Bool := decide (key a ≤ key b)

theorem keyLe_total (key : α → Int) (a b : α) : keyLe key a b = true ∨ keyLe key b a = true := by
  simp only [keyLe, decide_eq_true_eq]
  omega

theorem keyLe_trans (key : α → Int) (a b c : α) (hab : keyLe key a b = true)
    (hbc : keyLe key b c = true) : keyLe key a c = true := by
  simp only [keyLe, decide_eq_true_eq] at *
  omega

theorem stableSort_keyLe_pairwise (key : α → Int) (xs : List α) :
    (stableSort (keyLe key) xs).Pairwise (keyLe key · · = true) :=
  stableSort_pairwise (keyLe_total key) (keyLe_trans key) xs

theorem filter_key_insertSorted (key : α → Int) (k : Int) (x : α) (xs : List α) :
    (insertSorted (keyLe key) x xs).filter (fun a => key a = k)
      = (x :: xs).filter fun a => key a = k := by
  induction xs with
  | nil => rfl
  | cons y ys ih =>
    rw [insertSorted]
    by_cases hxy : keyLe key x y = true
    · rw [if_pos hxy]
    · rw [if_neg hxy, List.filter_cons, ih]
      simp only [keyLe, decide_eq_true_eq] at hxy
      by_cases hy : key y = k
      · -- `x` passes `y`, whose key is smaller, so `x` is not in this sublist
        have hx : key x ≠ k := by omega
        simp [hy, hx]
      · simp [List.filter_cons, hy]

/-- Sorting by a key keeps the sublist of each key. -/
theorem filter_key_stableSort (key : α → Int) (k : Int) (xs : List α) :
    (stableSort (keyLe key) xs).filter (fun a => key a = k) = xs.filter fun a => key a = k := by
  induction xs with
  | nil => rfl
  | cons x xs ih =>
    rw [stableSort_cons, filter_key_insertSorted, List.filter_cons, List.filter_cons, ih]

/-- The first element of a list in the order of a key has the smallest key. -/
theorem key_head_le {key : α → Int} {x : α} {xs : List α}
    (h : (x :: xs).Pairwise (keyLe key · · = true)) {y : α} (hy : y ∈ x :: xs) :
    key x ≤ key y := by
  rcases List.mem_cons.1 hy with rfl | hy
  · exact Int.le_refl _
  · simpa [keyLe] using (List.pairwise_cons.1 h).1 y hy

/-- Two lists in the order of a key are equal if they have the same sublist of each key. -/
theorem eq_of_filter_key_eq {key : α → Int} {xs ys : List α}
    (hxs : xs.Pairwise (keyLe key · · = true)) (hys : ys.Pairwise (keyLe key · · = true))
    (h : ∀ k, (xs.filter fun a => key a = k) = ys.filter fun a => key a = k) : xs = ys := by
  have mem_iff : ∀ a, a ∈ xs ↔ a ∈ ys := by
    intro a
    have ha := congrArg (a ∈ ·) (h (key a))
    simpa using ha
  induction xs generalizing ys with
  | nil =>
    cases ys with
    | nil => rfl
    | cons y ys => exact absurd ((mem_iff y).2 (by simp)) (by simp)
  | cons x xs ih =>
    cases ys with
    | nil => exact absurd ((mem_iff x).1 (by simp)) (by simp)
    | cons y ys =>
      have hkey : key x = key y := by
        have hxy := key_head_le hxs ((mem_iff y).2 (by simp))
        have hyx := key_head_le hys ((mem_iff x).1 (by simp))
        omega
      have hx := h (key x)
      simp only [List.filter_cons, hkey, decide_true, if_true, List.cons.injEq] at hx
      obtain ⟨rfl, -⟩ := hx
      have htail : ∀ k, (xs.filter fun a => key a = k) = ys.filter fun a => key a = k := by
        intro k
        have hk := h k
        simp only [List.filter_cons] at hk
        by_cases hxk : key x = k
        · simpa [hxk] using hk
        · simpa [hxk] using hk
      refine congrArg _ (ih (List.pairwise_cons.1 hxs).2 (List.pairwise_cons.1 hys).2 htail ?_)
      intro a
      have ha := congrArg (a ∈ ·) (htail (key a))
      simpa using ha

/-- Lists with the same sublist of each key are sorted into the same list. -/
theorem stableSort_eq_of_filter_key_eq {key : α → Int} {xs ys : List α}
    (h : ∀ k, (xs.filter fun a => key a = k) = ys.filter fun a => key a = k) :
    stableSort (keyLe key) xs = stableSort (keyLe key) ys := by
  refine eq_of_filter_key_eq (stableSort_keyLe_pairwise key xs) (stableSort_keyLe_pairwise key ys)
    fun k => ?_
  rw [filter_key_stableSort, filter_key_stableSort, h k]

/-- Dropping elements before sorting is the same as dropping them after it. -/
theorem filter_stableSort (key : α → Int) (p : α → Bool) (xs : List α) :
    (stableSort (keyLe key) xs).filter p = stableSort (keyLe key) (xs.filter p) := by
  refine eq_of_filter_key_eq ((stableSort_keyLe_pairwise key xs).filter p)
    (stableSort_keyLe_pairwise key _) fun k => ?_
  have hcomm : ∀ ys : List α, ((ys.filter p).filter fun a => key a = k) =
      (ys.filter fun a => key a = k).filter p := by
    intro ys
    rw [List.filter_filter, List.filter_filter]
    exact List.filter_congr fun a _ => Bool.and_comm _ _
  rw [filter_key_stableSort, hcomm, hcomm, filter_key_stableSort]

/-! ## One element more -/

/-- Of the elements whose keys satisfy a condition, those with one key are all or none. -/
theorem filter_key_filter (key : α → Int) (p : Int → Bool) (k : Int) (xs : List α) :
    ((xs.filter fun a => p (key a)).filter fun a => key a = k) =
      if p k then xs.filter fun a => key a = k else [] := by
  rw [List.filter_filter]
  by_cases hp : p k = true
  · rw [if_pos hp]
    refine List.filter_congr fun a _ => ?_
    by_cases ha : key a = k
    · simp [ha, hp]
    · simp [ha]
  · rw [if_neg hp]
    refine List.filter_eq_nil_iff.2 fun a _ ha => hp ?_
    obtain ⟨hkey, ha⟩ := (Bool.and_eq_true _ _).mp ha
    exact of_decide_eq_true hkey ▸ ha

/-- A sorted list is what is below a key, then what has the key as it came, then what is above it. -/
theorem stableSort_split (key : α → Int) (k : Int) (xs : List α) :
    stableSort (keyLe key) xs = stableSort (keyLe key) (xs.filter fun a => key a < k) ++
      (xs.filter (fun a => key a = k) ++ stableSort (keyLe key) (xs.filter fun a => k < key a)) := by
  have hbelow : ∀ a ∈ stableSort (keyLe key) (xs.filter fun a => key a < k), key a < k := by
    intro a ha
    exact of_decide_eq_true (List.mem_filter.1 (mem_stableSort.1 ha)).2
  have hlevel : ∀ a ∈ xs.filter fun a => key a = k, key a = k := fun a ha =>
    of_decide_eq_true (List.mem_filter.1 ha).2
  have habove : ∀ a ∈ stableSort (keyLe key) (xs.filter fun a => k < key a), k < key a := by
    intro a ha
    exact of_decide_eq_true (List.mem_filter.1 (mem_stableSort.1 ha)).2
  refine eq_of_filter_key_eq (stableSort_keyLe_pairwise key xs) ?_ fun j => ?_
  · have hsame : (xs.filter fun a => key a = k).Pairwise (keyLe key · · = true) :=
      List.pairwise_of_forall_mem_list fun a ha b hb => by simp [keyLe, hlevel a ha, hlevel b hb]
    have hupper : ∀ a ∈ xs.filter fun a => key a = k,
        ∀ b ∈ stableSort (keyLe key) (xs.filter fun a => k < key a), keyLe key a b = true := by
      intro a ha b hb
      have := hlevel a ha
      have := habove b hb
      exact decide_eq_true (by omega)
    refine List.pairwise_append.2 ⟨stableSort_keyLe_pairwise key _, List.pairwise_append.2
      ⟨hsame, stableSort_keyLe_pairwise key _, hupper⟩, fun a ha b hb => ?_⟩
    have := hbelow a ha
    rcases List.mem_append.1 hb with hb | hb
    · have := hlevel b hb
      exact decide_eq_true (by omega)
    · have := habove b hb
      exact decide_eq_true (by omega)
  · -- each key is in one of the three parts
    rw [List.filter_append, List.filter_append, filter_key_stableSort, filter_key_stableSort,
      filter_key_stableSort, filter_key_filter key (fun i => decide (i < k)),
      filter_key_filter key (fun i => decide (i = k)),
      filter_key_filter key (fun i => decide (k < i))]
    rcases Int.lt_trichotomy j k with hj | rfl | hj
    · simp [hj, Int.ne_of_lt hj, Int.not_lt.2 (Int.le_of_lt hj)]
    · simp
    · simp [hj, (Int.ne_of_lt hj).symm, Int.not_lt.2 (Int.le_of_lt hj)]

/-- Elements with one key that come together stand together in the sorted list, and what stands around
them does not depend on them. -/
theorem exists_stableSort_append (key : α → Int) (k : Int) (xs ys : List α) :
    ∃ before after, ∀ zs : List α, (∀ z ∈ zs, key z = k) →
      stableSort (keyLe key) (xs ++ zs ++ ys) = before ++ zs ++ after := by
  refine ⟨stableSort (keyLe key) ((xs ++ ys).filter fun a => key a < k) ++
      xs.filter fun a => key a = k,
    ys.filter (fun a => key a = k) ++
      stableSort (keyLe key) ((xs ++ ys).filter fun a => k < key a), fun zs hzs => ?_⟩
  have hnone : ∀ p : Int → Bool, p k = false → (zs.filter fun a => p (key a)) = [] := by
    intro p hp
    refine List.filter_eq_nil_iff.2 fun z hz => ?_
    rw [hzs z hz, hp]
    exact Bool.false_ne_true
  have hall : (zs.filter fun a => key a = k) = zs :=
    List.filter_eq_self.2 fun z hz => decide_eq_true (hzs z hz)
  rw [stableSort_split key k]
  simp only [List.filter_append, hall, hnone (fun i => decide (i < k)) (by simp),
    hnone (fun i => decide (k < i)) (by simp), List.nil_append, List.append_assoc]

/-- The element that came last is sorted behind all that it does not stand strictly before. -/
theorem exists_stableSort_concat (key : α → Int) (x : α) (xs : List α) :
    ∃ before after, stableSort (keyLe key) xs = before ++ after ∧
      stableSort (keyLe key) (xs ++ [x]) = before ++ x :: after ∧
      (∀ a ∈ before, key a ≤ key x) ∧ ∀ a ∈ after, key x < key a := by
  refine ⟨stableSort (keyLe key) (xs.filter fun a => key a < key x) ++
      xs.filter fun a => key a = key x,
    stableSort (keyLe key) (xs.filter fun a => key x < key a), ?_, ?_, fun a ha => ?_, fun a ha => ?_⟩
  · rw [stableSort_split key (key x), List.append_assoc]
  · rw [stableSort_split key (key x)]
    simp [List.filter_append]
  · rcases List.mem_append.1 ha with ha | ha
    · exact Int.le_of_lt (of_decide_eq_true (List.mem_filter.1 (mem_stableSort.1 ha)).2)
    · exact Int.le_of_eq (of_decide_eq_true (List.mem_filter.1 ha).2)
  · exact of_decide_eq_true (List.mem_filter.1 (mem_stableSort.1 ha)).2

end OpticalBench
