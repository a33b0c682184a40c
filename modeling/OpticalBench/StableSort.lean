/-!
# Stable sorting

`stableSort le` puts a list in the order of `le` and keeps equal elements in the order they came in.
An element is put in front of the first element it may stand before; the list is worked through
from its end, so of two equal elements the one that came first ends up in front.

- `stableSort_perm`: nothing is lost or added.
- `stableSort_pairwise`: the result is in order.
-/

namespace OpticalBench

variable {α : Type}

/-- Put `x` in front of the first element that it may stand before. -/
def insertSorted (le : α → α → Bool) (x : α) : List α → List α
  | [] => [x]
  | y :: ys => if le x y then x :: y :: ys else y :: insertSorted le x ys

/-- Sort by insertion. -/
def stableSort (le : α → α → Bool) (xs : List α) : List α := xs.foldr (insertSorted le) []

@[simp] theorem stableSort_nil (le : α → α → Bool) : stableSort le [] = [] := rfl

@[simp] theorem stableSort_cons (le : α → α → Bool) (x : α) (xs : List α) :
    stableSort le (x :: xs) = insertSorted le x (stableSort le xs) := rfl

theorem insertSorted_perm (le : α → α → Bool) (x : α) (xs : List α) :
    (insertSorted le x xs).Perm (x :: xs) := by
  induction xs with
  | nil => exact .refl _
  | cons y ys ih =>
    simp only [insertSorted]
    split
    · exact .refl _
    · exact (ih.cons y).trans (.swap ..)

theorem stableSort_perm (le : α → α → Bool) (xs : List α) : (stableSort le xs).Perm xs := by
  induction xs with
  | nil => exact .refl _
  | cons x xs ih => exact (insertSorted_perm le x _).trans (ih.cons x)

@[simp] theorem mem_stableSort {le : α → α → Bool} {xs : List α} {x : α} :
    x ∈ stableSort le xs ↔ x ∈ xs := (stableSort_perm le xs).mem_iff

@[simp] theorem length_stableSort (le : α → α → Bool) (xs : List α) :
    (stableSort le xs).length = xs.length := (stableSort_perm le xs).length_eq

theorem insertSorted_pairwise {le : α → α → Bool}
    (total : ∀ a b, le a b = true ∨ le b a = true)
    (trans : ∀ a b c, le a b = true → le b c = true → le a c = true)
    (x : α) {xs : List α} (h : xs.Pairwise (le · · = true)) :
    (insertSorted le x xs).Pairwise (le · · = true) := by
  induction xs with
  | nil => simp [insertSorted]
  | cons y ys ih =>
    simp only [insertSorted]
    have hy := List.pairwise_cons.1 h
    split
    case isTrue hxy =>
      refine List.pairwise_cons.2 ⟨fun z hz => ?_, h⟩
      rcases List.mem_cons.1 hz with rfl | hz
      · exact hxy
      · exact trans _ _ _ hxy (hy.1 z hz)
    case isFalse hxy =>
      refine List.pairwise_cons.2 ⟨fun z hz => ?_, ih hy.2⟩
      rcases List.mem_cons.1 ((insertSorted_perm le x ys).mem_iff.1 hz) with rfl | hz
      · exact (total z y).resolve_left hxy
      · exact hy.1 z hz

theorem stableSort_pairwise {le : α → α → Bool}
    (total : ∀ a b, le a b = true ∨ le b a = true)
    (trans : ∀ a b c, le a b = true → le b c = true → le a c = true) (xs : List α) :
    (stableSort le xs).Pairwise (le · · = true) := by
  induction xs with
  | nil => exact .nil
  | cons x xs ih => exact insertSorted_pairwise total trans x ih

end OpticalBench
