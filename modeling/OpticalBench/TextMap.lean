/-!
# Maps keyed by text

`TextMap α` is a finite map from texts to values. Its entries are kept in ascending order of their
keys, each key once, so two maps with the same content are equal and every listing of a map comes out
in one order.

- `insert` replaces the value of a key that is already there.
- `ofList` inserts from left to right: of entries with one key the last wins.
- `get?` looks a key up; `get?_insert` relates the two.
-/

namespace OpticalBench

/-- A finite map from texts, in ascending order of its keys. -/
structure TextMap (α : Type) where
  entries : List (String × α)
  ascending : entries.Pairwise (fun a b => a.1 < b.1)

namespace TextMap

variable {α β : Type}

/-- The map without entries. -/
def empty : TextMap α := ⟨[], .nil⟩

instance : Inhabited (TextMap α) := ⟨empty⟩

@[ext] theorem ext {m n : TextMap α} (h : m.entries = n.entries) : m = n := by
  cases m; cases n; simp_all

instance [DecidableEq α] : DecidableEq (TextMap α) := fun m n =>
  decidable_of_iff (m.entries = n.entries) ⟨ext, fun h => h ▸ rfl⟩

/-- Put an entry in its place, replacing one with the same key. -/
def insertEntry (key : String) (value : α) : List (String × α) → List (String × α)
  | [] => [(key, value)]
  | (k, v) :: rest =>
    if key < k then (key, value) :: (k, v) :: rest
    else if key = k then (key, value) :: rest
    else (k, v) :: insertEntry key value rest

theorem fst_mem_of_mem_insertEntry {key : String} {value : α} {xs : List (String × α)}
    {e : String × α} (h : e ∈ insertEntry key value xs) : e.1 = key ∨ e ∈ xs := by
  induction xs with
  | nil => simp_all [insertEntry]
  | cons x xs ih =>
    obtain ⟨k, v⟩ := x
    simp only [insertEntry] at h
    split at h
    · rcases List.mem_cons.1 h with rfl | h
      · exact .inl rfl
      · exact .inr h
    · split at h
      · rcases List.mem_cons.1 h with rfl | h
        · exact .inl rfl
        · exact .inr (List.mem_cons_of_mem _ h)
      · rcases List.mem_cons.1 h with rfl | h
        · exact .inr (by simp)
        · exact (ih h).imp_right (List.mem_cons_of_mem _)

theorem lt_of_not_lt_of_ne {a b : String} (h : ¬a < b) (hne : a ≠ b) : b < a := by
  rcases String.le_total a b with hab | hba
  · exact absurd (String.le_antisymm hab (String.not_lt.1 h)) hne
  · exact String.not_le.1 fun hab => hne (String.le_antisymm hab hba)

theorem insertEntry_ascending (key : String) (value : α) {xs : List (String × α)}
    (h : xs.Pairwise (fun a b => a.1 < b.1)) :
    (insertEntry key value xs).Pairwise (fun a b => a.1 < b.1) := by
  induction xs with
  | nil => simp [insertEntry]
  | cons x xs ih =>
    obtain ⟨k, v⟩ := x
    have hx := List.pairwise_cons.1 h
    simp only [insertEntry]
    split
    case isTrue hlt =>
      refine List.pairwise_cons.2 ⟨fun e he => ?_, h⟩
      rcases List.mem_cons.1 he with rfl | he
      · exact hlt
      · exact String.lt_trans hlt (hx.1 e he)
    case isFalse hlt =>
      split
      case isTrue heq =>
        subst heq
        exact List.pairwise_cons.2 ⟨fun e he => hx.1 e he, hx.2⟩
      case isFalse hne =>
        refine List.pairwise_cons.2 ⟨fun e he => ?_, ih hx.2⟩
        rcases fst_mem_of_mem_insertEntry he with hk | he
        · rw [hk]; exact lt_of_not_lt_of_ne hlt hne
        · exact hx.1 e he

/-- Set the value of a key. -/
def insert (m : TextMap α) (key : String) (value : α) : TextMap α :=
  ⟨insertEntry key value m.entries, insertEntry_ascending key value m.ascending⟩

/-- Insert entries from left to right. -/
def ofList (xs : List (String × α)) : TextMap α :=
  xs.foldl (fun m e => m.insert e.1 e.2) empty

/-- The value of the first entry with a key. -/
def lookup? (key : String) : List (String × α) → Option α
  | [] => none
  | (k, v) :: rest => if k = key then some v else lookup? key rest

/-- The value of a key. -/
def get? (m : TextMap α) (key : String) : Option α := lookup? key m.entries

/-- The keys in ascending order. -/
def keys (m : TextMap α) : List String := m.entries.map (·.1)

/-- The values in the order of their keys. -/
def values (m : TextMap α) : List α := m.entries.map (·.2)

/-- Whether there are no entries. -/
def isEmpty (m : TextMap α) : Bool := m.entries.isEmpty

/-- The number of entries. -/
def size (m : TextMap α) : Nat := m.entries.length

/-- Change values and drop entries. -/
def filterMap (f : String → α → Option β) (m : TextMap α) : TextMap β where
  entries := m.entries.filterMap fun e => (f e.1 e.2).map fun b => (e.1, b)
  ascending := by
    refine List.Pairwise.filterMap (R := fun a b => a.1 < b.1) _ (fun a b hab c hc d hd => ?_)
      m.ascending
    obtain ⟨_, _, rfl⟩ := Option.map_eq_some_iff.1 hc
    obtain ⟨_, _, rfl⟩ := Option.map_eq_some_iff.1 hd
    exact hab

/-- Change every value. -/
def mapValues (f : α → β) (m : TextMap α) : TextMap β := m.filterMap fun _ a => some (f a)

/-- Whether two maps have the same keys and related values. -/
def allRelated (related : α → α → Bool) (m n : TextMap α) : Bool :=
  m.size == n.size &&
    (m.entries.zip n.entries).all fun (a, b) => a.1 == b.1 && related a.2 b.2

/-! ## Look-up -/

@[simp] theorem get?_empty (key : String) : (empty : TextMap α).get? key = none := rfl

theorem lookup?_insertEntry (key k : String) (value : α) (xs : List (String × α)) :
    lookup? k (insertEntry key value xs) = if key = k then some value else lookup? k xs := by
  induction xs with
  | nil => simp [insertEntry, lookup?]
  | cons x xs ih =>
    obtain ⟨k', v⟩ := x
    simp only [insertEntry]
    split
    · simp [lookup?]
    · split
      case isTrue heq => subst heq; simp only [lookup?]; split <;> rfl
      case isFalse hne =>
        simp only [lookup?, ih]
        split
        case isTrue h => subst h; rw [if_neg hne]
        case isFalse => rfl

@[simp] theorem get?_insert (m : TextMap α) (key k : String) (value : α) :
    (m.insert key value).get? k = if key = k then some value else m.get? k :=
  lookup?_insertEntry ..

end TextMap

end OpticalBench
