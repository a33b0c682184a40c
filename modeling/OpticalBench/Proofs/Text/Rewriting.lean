import OpticalBench.Text.Blank
import OpticalBench.Text.Substitution

/-!
# Rewriting texts from left to right

A rewriter that looks for a pattern knows nothing of the structure of a text. What it does to a text
that is put together from parts can still be said part by part, if no occurrence straddles two of them.

- `separated`: parts with a separator between them.
- `PassesOver`: a rewriter keeps a character at which no occurrence of its pattern starts.
- `Turns`: a rewriter turns a part of a text into another, whatever follows it.
- `Turns.of_not_occurs`: a part without an occurrence is kept, if a character ends it that is not in
  the pattern.
- `afterFront?_append`, `beforeLast?_concat`, `trimCharacters_append`: what is taken off at the ends.
-/

namespace OpticalBench.Text

/-! ## Parts with separators -/

/-- The parts that elements become, with a separator between any two. -/
def separated {α β : Type} (separator : List β) (f : α → List β) : List α → List β
  | [] => []
  | x :: xs => f x ++ xs.flatMap fun y => separator ++ f y

theorem separated_map {α β γ : Type} (separator : List γ) (f : β → List γ) (g : α → β)
    (xs : List α) : separated separator f (xs.map g) = separated separator (fun x => f (g x)) xs := by
  cases xs with
  | nil => rfl
  | cons x xs => rw [List.map_cons, separated, separated, List.flatMap_map]

variable {R : List Char → List Char} {p cs ds : List Char} {c : Char}

/-! ## Occurrences -/

/-- No occurrence of a pattern straddles a character that is not in it. -/
theorem prefix_of_prefix_append_cons (cs : List Char) {rest : List Char} (hc : c ∉ p)
    (h : p <+: cs ++ c :: rest) : p <+: cs := by
  induction cs generalizing p with
  | nil =>
    cases p with
    | nil => exact List.nil_prefix
    | cons a p =>
      obtain ⟨rfl, -⟩ := List.cons_prefix_cons.1 h
      exact absurd List.mem_cons_self hc
  | cons d cs ih =>
    cases p with
    | nil => exact List.nil_prefix
    | cons a p =>
      obtain ⟨rfl, htail⟩ := List.cons_prefix_cons.1 h
      exact List.cons_prefix_cons.2 ⟨rfl, ih (fun hmem => hc (List.mem_cons_of_mem _ hmem)) htail⟩

/-! ## Rewriters -/

/-- A rewriter keeps every character at which its pattern does not occur. -/
def PassesOver (R : List Char → List Char) (p : List Char) : Prop :=
  ∀ c cs, ¬p <+: c :: cs → R (c :: cs) = c :: R cs

/-- A rewriter turns one part of a text into another, whatever follows. -/
def Turns (R : List Char → List Char) (cs ds : List Char) : Prop :=
  ∀ rest, R (cs ++ rest) = ds ++ R rest

namespace Turns

theorem nil : Turns R [] [] := fun _ => rfl

theorem append {cs' ds' : List Char} (h : Turns R cs ds) (h' : Turns R cs' ds') :
    Turns R (cs ++ cs') (ds ++ ds') := by
  intro rest
  rw [List.append_assoc, h, h', List.append_assoc]

theorem flatMap {α : Type} {f g : α → List Char} {xs : List α} (h : ∀ x ∈ xs, Turns R (f x) (g x)) :
    Turns R (xs.flatMap f) (xs.flatMap g) := by
  induction xs with
  | nil => exact nil
  | cons x xs ih =>
    rw [List.flatMap_cons, List.flatMap_cons]
    exact (h x List.mem_cons_self).append (ih fun y hy => h y (List.mem_cons_of_mem _ hy))

theorem separated {α : Type} {separator : List Char} {f g : α → List Char} {xs : List α}
    (hseparator : Turns R separator separator) (h : ∀ x ∈ xs, Turns R (f x) (g x)) :
    Turns R (separated separator f xs) (separated separator g xs) := by
  cases xs with
  | nil => exact nil
  | cons x xs =>
    exact (h x List.mem_cons_self).append
      (flatMap fun y hy => hseparator.append (h y (List.mem_cons_of_mem _ hy)))

/-- What is turned into something with any rest is turned into it without one. -/
theorem eq (h : Turns R cs ds) (hnil : R [] = []) : R cs = ds := by
  have heq := h []
  rwa [hnil, List.append_nil, List.append_nil] at heq

/-- A part in which no occurrence can start is kept. -/
theorem of_not_mem {a : Char} (hR : PassesOver R (a :: p)) (h : a ∉ cs) : Turns R cs cs := by
  intro rest
  induction cs with
  | nil => rfl
  | cons c cs ih =>
    have hstart : ¬a :: p <+: c :: (cs ++ rest) := by
      intro hprefix
      obtain ⟨rfl, -⟩ := List.cons_prefix_cons.1 hprefix
      exact h List.mem_cons_self
    rw [List.cons_append, hR _ _ hstart, ih fun hmem => h (List.mem_cons_of_mem _ hmem)]
    rfl

/-- A part without an occurrence is kept up to a character that is not in the pattern. -/
theorem of_not_occurs (hR : PassesOver R p) (h : ¬p <:+: cs) (hc : c ∉ p) :
    Turns R (cs ++ [c]) (cs ++ [c]) := by
  intro rest
  induction cs with
  | nil =>
    have hstart : ¬p <+: c :: rest := fun hprefix =>
      h (prefix_of_prefix_append_cons [] hc hprefix).isInfix
    exact hR c rest hstart
  | cons d cs ih =>
    have hstart : ¬p <+: d :: (cs ++ [c] ++ rest) := by
      intro hprefix
      rw [List.append_assoc] at hprefix
      exact h (prefix_of_prefix_append_cons (d :: cs) hc hprefix).isInfix
    rw [List.cons_append, List.cons_append, hR _ _ hstart,
      ih fun hoccurs => h (List.infix_cons hoccurs)]
    rfl

end Turns

/-! ## Replacing -/

theorem passesOver_replaceAll (p r : List Char) : PassesOver (replaceAll p r) p := by
  intro c cs h
  rw [← List.isPrefixOf_iff_prefix] at h
  rw [replaceAll, replaceFrom, if_neg h]
  rfl

/-- Replacing one character by another. -/
theorem passesOver_map {old : Char} {g : Char → Char} (hg : ∀ c, c ≠ old → g c = c) :
    PassesOver (List.map g) [old] := by
  intro c cs h
  have hc : c ≠ old := by
    rintro rfl
    exact h (List.cons_prefix_cons.2 ⟨rfl, List.nil_prefix⟩)
  rw [List.map_cons, hg c hc]

/-! ## The ends of a text -/

theorem afterFront?_append (front cs : List Char) : afterFront? front (front ++ cs) = some cs := by
  induction front with
  | nil => rfl
  | cons c front ih => rw [List.cons_append, afterFront?, if_pos rfl, ih]

theorem afterFront?_eq_none (h : ¬p <+: cs) : afterFront? p cs = none := by
  induction p generalizing cs with
  | nil => exact absurd List.nil_prefix h
  | cons a p ih =>
    cases cs with
    | nil => rfl
    | cons c cs =>
      rw [afterFront?]
      by_cases hac : a = c
      · rw [if_pos hac]
        exact ih fun hprefix => h (List.cons_prefix_cons.2 ⟨hac, hprefix⟩)
      · rw [if_neg hac]

theorem beforeLast?_concat (c : Char) (cs : List Char) : beforeLast? c (cs ++ [c]) = some cs := by
  simp [beforeLast?]

/-- Blanks around a text are taken off, and nothing else. -/
theorem trimCharacters_append (first : Char) (cs : List Char) (last : Char) {front back : List Char}
    (hfront : ∀ b ∈ front, isBlank b = true) (hback : ∀ b ∈ back, isBlank b = true)
    (hfirst : isBlank first = false) (hlast : isBlank last = false) :
    trimCharacters (front ++ (first :: cs ++ [last]) ++ back) = first :: cs ++ [last] := by
  have htrimFront : trimFront (front ++ (first :: cs ++ [last]) ++ back) =
      first :: cs ++ [last] ++ back := by
    rw [trimFront, List.append_assoc, List.dropWhile_append_of_pos hfront]
    simp [hfirst]
  have hreverse : ∀ b ∈ back.reverse, isBlank b = true := by
    simpa using hback
  rw [trimCharacters, htrimFront, trimBack, List.reverse_append,
    List.dropWhile_append_of_pos hreverse]
  simp [hlast]

/-- A text without blanks at its ends is left as it is. -/
theorem trimCharacters_eq_self (first : Char) (cs : List Char) (last : Char)
    (hfirst : isBlank first = false) (hlast : isBlank last = false) :
    trimCharacters (first :: cs ++ [last]) = first :: cs ++ [last] := by
  have hnone : ∀ b ∈ ([] : List Char), isBlank b = true := fun _ hb => nomatch hb
  have htrim := trimCharacters_append first cs last hnone hnone hfirst hlast
  rwa [List.nil_append, List.append_nil] at htrim

end OpticalBench.Text
