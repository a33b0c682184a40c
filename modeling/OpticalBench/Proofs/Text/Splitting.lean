import Mathlib.Data.List.Basic
import Mathlib.Data.List.TakeWhile

/-!
# Telling the parts of a text apart

A text that was put together from parts is the text of these parts only, if a character marks where
each of them ends.

- `append_cons_inj`, `append_cons_inj_last`: a character cuts a text in two, where it stands first or
  last.
- `toString_append_inj`, `append_toString_inj`: a number ends where its digits end.
- `beforeNumber_append`: what stands before the first number in a text.
- `intercalate_inj`, `commaSeparated_inj`: parts with a separator between any two.
-/

namespace OpticalBench.Text

/-! ## One mark -/

section

variable {α : Type} {xs ys us vs : List α} {a : α}

/-- A text is cut in two where a mark stands first. -/
theorem append_cons_inj (hxs : a ∉ xs) (hys : a ∉ ys) (h : xs ++ a :: us = ys ++ a :: vs) :
    xs = ys ∧ us = vs := by
  induction xs generalizing ys with
  | nil =>
    cases ys with
    | nil => exact ⟨rfl, (List.cons.inj h).2⟩
    | cons y ys =>
      -- the first mark of one text would stand in the first part of the other
      obtain ⟨rfl, -⟩ := List.cons.inj h
      exact absurd List.mem_cons_self hys
  | cons x xs ih =>
    cases ys with
    | nil =>
      obtain ⟨rfl, -⟩ := List.cons.inj h
      exact absurd List.mem_cons_self hxs
    | cons y ys =>
      obtain ⟨rfl, htail⟩ := List.cons.inj h
      obtain ⟨rfl, hrest⟩ := ih (fun hmem => hxs (List.mem_cons_of_mem _ hmem))
        (fun hmem => hys (List.mem_cons_of_mem _ hmem)) htail
      exact ⟨rfl, hrest⟩

/-- A text is cut in two where a mark stands last. -/
theorem append_cons_inj_last (hus : a ∉ us) (hvs : a ∉ vs) (h : xs ++ a :: us = ys ++ a :: vs) :
    xs = ys ∧ us = vs := by
  have hreverse : us.reverse ++ a :: xs.reverse = vs.reverse ++ a :: ys.reverse := by
    simpa using congrArg List.reverse h
  obtain ⟨hends, hfronts⟩ := append_cons_inj (List.mem_reverse.not.2 hus)
    (List.mem_reverse.not.2 hvs) hreverse
  exact ⟨List.reverse_injective hfronts, List.reverse_injective hends⟩

end

/-! ## Numbers -/

/-- A number is written in digits. -/
theorem isDigit_of_mem_toString {n : Nat} {c : Char} (h : c ∈ (toString n).toList) :
    c.isDigit = true := by
  rw [Nat.toString_eq_repr, Nat.toList_repr] at h
  exact Nat.isDigit_of_mem_toDigits (by decide) (by decide) h

theorem not_mem_toString {c : Char} (hc : c.isDigit = false) (n : Nat) :
    c ∉ (toString n).toList := by
  intro hmem
  rw [isDigit_of_mem_toString hmem] at hc
  exact nomatch hc

theorem toString_inj {m n : Nat} (h : toString m = toString n) : m = n := by
  have hdigits : Nat.toDigits 10 m = Nat.toDigits 10 n := by
    rw [← Nat.toList_repr, ← Nat.toList_repr]
    exact congrArg String.toList h
  rw [← Nat.ofDigitChars_ten_toDigits (n := m), hdigits, Nat.ofDigitChars_ten_toDigits]

/-- A number ends in front of a mark that does not begin with a digit. -/
theorem toString_append_inj {m n : Nat} {mark s t : String}
    (hmark : mark.toList.head?.any (fun c => !c.isDigit) = true)
    (h : toString m ++ (mark ++ s) = toString n ++ (mark ++ t)) : m = n ∧ s = t := by
  obtain ⟨c, hhead, hc⟩ := (Option.any_eq_true _ _).1 hmark
  obtain ⟨cs, hcs⟩ := List.head?_eq_some_iff.1 hhead
  have hcharacters : (toString m).toList ++ c :: (cs ++ s.toList) =
      (toString n).toList ++ c :: (cs ++ t.toList) := by
    simpa only [String.toList_append, hcs, List.cons_append] using congrArg String.toList h
  replace hc : c.isDigit = false := by simpa using hc
  obtain ⟨hdigits, hrest⟩ := append_cons_inj (not_mem_toString hc m) (not_mem_toString hc n)
    hcharacters
  exact ⟨toString_inj (String.toList_inj.1 hdigits),
    String.toList_inj.1 (List.append_cancel_left hrest)⟩

/-- A number begins after a mark that does not end with a digit. -/
theorem append_toString_inj {m n : Nat} {mark s t : String}
    (hmark : mark.toList.getLast?.any (fun c => !c.isDigit) = true)
    (h : s ++ mark ++ toString m = t ++ mark ++ toString n) : s = t ∧ m = n := by
  obtain ⟨c, hlast, hc⟩ := (Option.any_eq_true _ _).1 hmark
  obtain ⟨cs, hcs⟩ := List.getLast?_eq_some_iff.1 hlast
  have hcharacters : s.toList ++ cs ++ c :: (toString m).toList =
      t.toList ++ cs ++ c :: (toString n).toList := by
    simpa only [String.toList_append, hcs, List.append_assoc, List.singleton_append]
      using congrArg String.toList h
  replace hc : c.isDigit = false := by simpa using hc
  obtain ⟨hfront, hdigits⟩ := append_cons_inj_last (not_mem_toString hc m) (not_mem_toString hc n)
    hcharacters
  exact ⟨String.toList_inj.1 (List.append_cancel_right hfront),
    toString_inj (String.toList_inj.1 hdigits)⟩

/-- What stands before the first digit of a text. -/
def beforeNumber (s : String) : List Char := s.toList.takeWhile fun c => !c.isDigit

section

variable {front rest : String} (n : Nat)

theorem notDigit_of_all (hfront : front.toList.all (fun c => !c.isDigit) = true) :
    ∀ c ∈ front.toList, (!c.isDigit) = true := List.all_eq_true.1 hfront

/-- A number has a first digit. -/
theorem exists_toString_eq (n : Nat) :
    ∃ d ds, (toString n).toList = d :: ds ∧ d.isDigit = true := by
  have hne : (toString n).toList ≠ [] := by
    rw [Nat.toString_eq_repr, Nat.toList_repr]
    exact Nat.toDigits_ne_nil
  obtain ⟨d, ds, hds⟩ := List.exists_cons_of_ne_nil hne
  exact ⟨d, ds, hds, isDigit_of_mem_toString (hds ▸ List.mem_cons_self)⟩

theorem beforeNumber_append (hfront : front.toList.all (fun c => !c.isDigit) = true) :
    beforeNumber (front ++ toString n ++ rest) = front.toList := by
  obtain ⟨d, ds, hn, hd⟩ := exists_toString_eq n
  rw [beforeNumber, String.append_assoc, String.toList_append, String.toList_append, hn,
    List.takeWhile_append_of_pos (notDigit_of_all hfront), List.cons_append,
    List.takeWhile_cons_of_neg (by simp [hd]), List.append_nil]

end

/-! ## Separators -/

/-- What is in separated parts is in a part or in the separator. -/
theorem mem_intercalate {α : Type} {a : α} {separator : List α} {xs : List (List α)}
    (h : a ∈ separator.intercalate xs) : a ∈ separator ∨ ∃ x ∈ xs, a ∈ x := by
  induction xs with
  | nil => exact absurd h List.not_mem_nil
  | cons x xs ih =>
    cases xs with
    | nil =>
      rw [List.intercalate_singleton] at h
      exact .inr ⟨x, List.mem_singleton_self x, h⟩
    | cons y ys =>
      rw [List.intercalate_cons_cons, List.mem_append, List.mem_append] at h
      rcases h with (hx | hseparator) | hrest
      · exact .inr ⟨x, List.mem_cons_self, hx⟩
      · exact .inl hseparator
      · exact (ih hrest).imp_right fun ⟨z, hz, ha⟩ => ⟨z, List.mem_cons_of_mem x hz, ha⟩

/-- Parts can be told apart where a separator stands between any two whose first character is in none
of them. -/
theorem intercalate_inj {α : Type} {a : α} {separator : List α} {xs ys : List (List α)}
    (hlength : xs.length = ys.length) (hxs : ∀ x ∈ xs, a ∉ x) (hys : ∀ y ∈ ys, a ∉ y)
    (h : (a :: separator).intercalate xs = (a :: separator).intercalate ys) : xs = ys := by
  induction xs generalizing ys with
  | nil => exact (List.length_eq_zero_iff.1 hlength.symm).symm
  | cons x xs ih =>
    cases ys with
    | nil => exact absurd hlength (Nat.succ_ne_zero _)
    | cons y ys =>
      rw [List.forall_mem_cons] at hxs hys
      have hrest : xs.length = ys.length := Nat.succ.inj hlength
      -- no separator follows the last part
      cases xs with
      | nil =>
        obtain rfl : ys = [] := List.length_eq_zero_iff.1 hrest.symm
        rw [List.intercalate_singleton, List.intercalate_singleton] at h
        rw [h]
      | cons x' xs =>
        cases ys with
        | nil => exact absurd hrest (Nat.succ_ne_zero _)
        | cons y' ys =>
          rw [List.intercalate_cons_cons, List.intercalate_cons_cons, List.append_assoc,
            List.append_assoc, List.cons_append, List.cons_append] at h
          obtain ⟨rfl, htail⟩ := append_cons_inj hxs.1 hys.1 h
          rw [ih hrest hxs.2 hys.2 (List.append_cancel_left htail)]

/-- Texts without a comma can be told apart where a comma and a space stand between any two. -/
theorem commaSeparated_inj {xs ys : List String} (hlength : xs.length = ys.length)
    (hxs : ∀ x ∈ xs, ',' ∉ x.toList) (hys : ∀ y ∈ ys, ',' ∉ y.toList)
    (h : String.intercalate ", " xs = String.intercalate ", " ys) : xs = ys := by
  have hparts : [',', ' '].intercalate (xs.map String.toList) =
      [',', ' '].intercalate (ys.map String.toList) := by
    have htexts := congrArg String.toList h
    rwa [String.toList_intercalate, String.toList_intercalate] at htexts
  have hmap : xs.map String.toList = ys.map String.toList := by
    refine intercalate_inj ?_ ?_ ?_ hparts
    · rw [List.length_map, List.length_map, hlength]
    · simpa using hxs
    · simpa using hys
  exact List.map_injective_iff.2 (fun s t hst => String.toList_inj.1 hst) hmap

end OpticalBench.Text
