import Mathlib.Data.List.Induction
import Mathlib.Data.List.Nodup
import OpticalBench.TextMap

/-!
# Look-ups in maps

What a look-up finds in a map made from a list, and when two maps are one.

- `get?_ofList`: of several entries with one key, the last is found.
- `lookup?_reverse`: without repeated keys the order of entries does not matter.
- `get?_filterMap`, `get?_mapValues`: looking up in a changed map.
- `eq_of_get?_eq`: maps with the same look-ups are equal.
- `mapValues_eq_self_iff`: when changing values changes nothing.
- `ofList_entries`: a map is the one made from its entries.
-/

namespace OpticalBench.TextMap

variable {α β : Type}

/-! ## Lists of entries -/

theorem lookup?_append (key : String) (xs ys : List (String × α)) :
    lookup? key (xs ++ ys) = (lookup? key xs).or (lookup? key ys) := by
  induction xs with
  | nil => rfl
  | cons x xs ih =>
    obtain ⟨k, v⟩ := x
    rw [List.cons_append, lookup?, lookup?]
    by_cases h : k = key
    · rw [if_pos h, if_pos h]
      rfl
    · rw [if_neg h, if_neg h, ih]

theorem lookup?_eq_none_iff {key : String} {xs : List (String × α)} :
    lookup? key xs = none ↔ key ∉ xs.map (·.1) := by
  induction xs with
  | nil => simp [lookup?]
  | cons x xs ih =>
    obtain ⟨k, v⟩ := x
    rw [lookup?]
    by_cases h : k = key
    · simp [h]
    · rw [if_neg h, ih]
      simp [Ne.symm h]

/-- If no key is repeated, a look-up finds the same from either end. -/
theorem lookup?_reverse {xs : List (String × α)} (nodup : (xs.map (·.1)).Nodup) (key : String) :
    lookup? key xs.reverse = lookup? key xs := by
  induction xs with
  | nil => rfl
  | cons x xs ih =>
    obtain ⟨k, v⟩ := x
    obtain ⟨hk, hxs⟩ := List.nodup_cons.1 nodup
    rw [List.reverse_cons, lookup?_append, ih hxs]
    by_cases h : k = key
    · have hnone : lookup? key xs = none := lookup?_eq_none_iff.2 (h ▸ hk)
      simp [lookup?, h, hnone]
    · simp [lookup?, h]

/-- If no key is repeated, the entries are what look-ups find. -/
theorem lookup?_eq_some_iff {xs : List (String × α)} (nodup : (xs.map (·.1)).Nodup) {key : String}
    {value : α} : lookup? key xs = some value ↔ (key, value) ∈ xs := by
  induction xs with
  | nil => simp [lookup?]
  | cons x xs ih =>
    obtain ⟨k, v⟩ := x
    obtain ⟨hk, hxs⟩ := List.nodup_cons.1 nodup
    rw [lookup?]
    by_cases h : k = key
    · have hnot : (key, value) ∉ xs := by
        intro hmem
        exact hk (h ▸ List.mem_map_of_mem (f := (·.1)) hmem)
      simp [h, hnot, eq_comm]
    · rw [if_neg h, ih hxs]
      simp [Ne.symm h]

/-- A look-up among entries whose values were changed. -/
theorem lookup?_map (g : String → α → β) (key : String) (xs : List (String × α)) :
    lookup? key (xs.map fun e => (e.1, g e.1 e.2)) = (lookup? key xs).map (g key) := by
  induction xs with
  | nil => rfl
  | cons x xs ih =>
    obtain ⟨k, v⟩ := x
    rw [List.map_cons, lookup?, lookup?]
    by_cases h : k = key
    · rw [if_pos h, if_pos h, ← h]
      rfl
    · rw [if_neg h, if_neg h, ih]

/-- A look-up among entries that elements become finds the first of these elements. -/
theorem lookup?_map_eq_find? {γ : Type} (label : γ → String) (value : γ → α) (key : String)
    (xs : List γ) : lookup? key (xs.map fun x => (label x, value x)) =
      (xs.find? fun x => label x == key).map value := by
  induction xs with
  | nil => rfl
  | cons x xs ih =>
    rw [List.map_cons, lookup?, List.find?_cons]
    by_cases h : label x = key
    · rw [if_pos h, beq_iff_eq.2 h]
      rfl
    · rw [if_neg h, beq_false_of_ne h, ih]

/-! ## Maps -/

theorem ofList_concat (xs : List (String × α)) (key : String) (value : α) :
    ofList (xs ++ [(key, value)]) = (ofList xs).insert key value := by
  simp [ofList]

/-- In a map made from a list the last entry with a key is found. -/
theorem get?_ofList (xs : List (String × α)) (key : String) :
    (ofList xs).get? key = lookup? key xs.reverse := by
  induction xs using List.reverseRecOn with
  | nil => rfl
  | append_singleton xs x ih =>
    obtain ⟨k, v⟩ := x
    rw [ofList_concat, get?_insert, ih, List.reverse_append]
    rfl

theorem nodup_keys (m : TextMap α) : (m.entries.map (·.1)).Nodup := by
  refine (List.pairwise_map.2 m.ascending).imp ?_
  rintro a b hlt rfl
  exact String.lt_irrefl a hlt

theorem mem_entries_iff {m : TextMap α} {key : String} {value : α} :
    (key, value) ∈ m.entries ↔ m.get? key = some value :=
  (lookup?_eq_some_iff m.nodup_keys).symm

theorem mem_of_lookup? {key : String} {value : α} {xs : List (String × α)}
    (h : lookup? key xs = some value) : (key, value) ∈ xs := by
  induction xs with
  | nil => exact nomatch h
  | cons x xs ih =>
    obtain ⟨k, v⟩ := x
    rw [lookup?] at h
    by_cases hk : k = key
    · rw [if_pos hk] at h
      rw [hk, Option.some.inj h]
      exact List.mem_cons_self
    · rw [if_neg hk] at h
      exact List.mem_cons_of_mem _ (ih h)

/-- A map made from a list has no other entries than the list. -/
theorem mem_of_mem_entries_ofList {xs : List (String × α)} {key : String} {value : α}
    (h : (key, value) ∈ (ofList xs).entries) : (key, value) ∈ xs := by
  rw [mem_entries_iff, get?_ofList] at h
  exact List.mem_reverse.1 (mem_of_lookup? h)

/-- Looking up in a map with changed values, some of them dropped. -/
theorem get?_filterMap (f : String → α → Option β) (m : TextMap α) (key : String) :
    (m.filterMap f).get? key = (m.get? key).bind (f key) := by
  refine Option.ext fun b => ?_
  rw [← mem_entries_iff, Option.bind_eq_some_iff]
  show (key, b) ∈ m.entries.filterMap _ ↔ _
  rw [List.mem_filterMap]
  constructor
  · rintro ⟨⟨k, a⟩, hmem, heq⟩
    obtain ⟨b', hb, heq⟩ := Option.map_eq_some_iff.1 heq
    obtain ⟨rfl, rfl⟩ := Prod.mk.inj heq
    exact ⟨a, mem_entries_iff.1 hmem, hb⟩
  · rintro ⟨a, hget, hb⟩
    refine ⟨(key, a), mem_entries_iff.2 hget, ?_⟩
    show (f key a).map _ = _
    rw [hb]
    rfl

theorem get?_mapValues (g : α → β) (m : TextMap α) (key : String) :
    (m.mapValues g).get? key = (m.get? key).map g := by
  rw [mapValues, get?_filterMap]
  cases m.get? key <;> rfl

/-- Maps in which every look-up finds the same are equal. -/
theorem eq_of_get?_eq {m n : TextMap α} (h : ∀ key, m.get? key = n.get? key) : m = n := by
  have hperm : m.entries.Perm n.entries := by
    refine (List.perm_ext_iff_of_nodup (List.Nodup.of_map _ m.nodup_keys)
      (List.Nodup.of_map _ n.nodup_keys)).2 ?_
    rintro ⟨key, value⟩
    rw [mem_entries_iff, mem_entries_iff, h key]
  refine ext (hperm.eq_of_pairwise (fun a b _ _ hab hba => ?_) m.ascending n.ascending)
  exact absurd hba (String.lt_asymm hab)

/-- The values of a map are what look-ups find. -/
theorem mem_values_iff {m : TextMap α} {value : α} :
    value ∈ m.values ↔ ∃ key, m.get? key = some value := by
  rw [values, List.mem_map]
  constructor
  · rintro ⟨⟨key, _⟩, hmem, rfl⟩
    exact ⟨key, mem_entries_iff.1 hmem⟩
  · rintro ⟨key, hget⟩
    exact ⟨(key, value), mem_entries_iff.2 hget, rfl⟩

/-- Changing values changes nothing if every value stays as it is, and only then. -/
theorem mapValues_eq_self_iff {m : TextMap α} {g : α → α} :
    m.mapValues g = m ↔ ∀ value ∈ m.values, g value = value := by
  constructor
  · intro h value hvalue
    obtain ⟨key, hget⟩ := mem_values_iff.1 hvalue
    have hsame := get?_mapValues g m key
    rw [h, hget, Option.map_some] at hsame
    exact (Option.some.inj hsame).symm
  · intro h
    refine eq_of_get?_eq fun key => ?_
    rw [get?_mapValues]
    cases hget : m.get? key with
    | none => rfl
    | some value => exact congrArg some (h value (mem_values_iff.2 ⟨key, hget⟩))

/-- A map is the one made from its entries. -/
theorem ofList_entries (m : TextMap α) : ofList m.entries = m :=
  eq_of_get?_eq fun key => (get?_ofList _ _).trans (lookup?_reverse m.nodup_keys key)

end OpticalBench.TextMap
