import Mathlib.Data.List.Infix
import OpticalBench.Proofs.Text.Rewriting
import OpticalBench.Proofs.Text.Splitting

/-!
# Texts in which a pattern does not occur

Where a pattern occurs in a text that was put together from parts, it occurs in one of the parts, unless
it straddles two of them. It does not straddle a part that has none of its characters.

- `Foreign`: a part with no character of a pattern.
- `infix_foreign_append`, `infix_append_foreign_append`: no occurrence straddles a foreign part.
- `occurrences_eq_zero_iff`, `occurrences_append_cons`, `occurrences_once`: how often a pattern occurs.
- `Lacks`: a text in which none of several patterns occurs, with lemmas for numbers between texts.
-/

namespace OpticalBench.Text

/-! ## Foreign parts -/

variable {p cs ds es : List Char} {c : Char}

/-- A part with no character of a pattern. -/
def Foreign (p cs : List Char) : Prop := ∀ c ∈ cs, c ∉ p

theorem infix_cons_of_not_mem (hc : c ∉ p) : p <:+: c :: cs ↔ p <:+: cs := by
  refine ⟨fun h => ?_, List.infix_cons⟩
  rcases List.infix_cons_iff.1 h with hprefix | hoccurs
  · cases p with
    | nil => exact List.nil_infix
    | cons a p =>
      obtain ⟨rfl, -⟩ := List.cons_prefix_cons.1 hprefix
      exact absurd List.mem_cons_self hc
  · exact hoccurs

theorem infix_foreign_append (hcs : Foreign p cs) : p <:+: cs ++ ds ↔ p <:+: ds := by
  induction cs with
  | nil => rfl
  | cons c cs ih =>
    obtain ⟨hc, hcs⟩ := List.forall_mem_cons.1 hcs
    rw [List.cons_append, infix_cons_of_not_mem hc, ih hcs]

/-- No occurrence of a pattern straddles a character that is not in it. -/
theorem infix_append_cons (hc : c ∉ p) : p <:+: cs ++ c :: ds ↔ p <:+: cs ∨ p <:+: ds := by
  constructor
  · intro h
    induction cs with
    | nil => exact .inr ((infix_cons_of_not_mem hc).1 h)
    | cons d cs ih =>
      rcases List.infix_cons_iff.1 h with hprefix | hoccurs
      · exact .inl (prefix_of_prefix_append_cons (d :: cs) hc hprefix).isInfix
      · exact (ih hoccurs).imp_left List.infix_cons
  · rintro (h | h)
    · exact h.trans (List.prefix_append _ _).isInfix
    · exact (List.infix_cons h).trans (List.suffix_append _ _).isInfix

theorem infix_append_foreign (hds : Foreign p ds) : p <:+: cs ++ ds ↔ p <:+: cs := by
  refine ⟨fun h => ?_, fun h => h.trans (List.prefix_append cs ds).isInfix⟩
  cases ds with
  | nil => rwa [List.append_nil] at h
  | cons d ds =>
    obtain ⟨hd, hds⟩ := List.forall_mem_cons.1 hds
    rcases (infix_append_cons hd).1 h with h | h
    · exact h
    · rw [← List.append_nil ds, infix_foreign_append hds, List.infix_nil] at h
      rw [h]
      exact List.nil_infix

/-- No occurrence of a pattern straddles a foreign part. -/
theorem infix_append_foreign_append (hcs : Foreign p cs) (hne : cs ≠ []) :
    p <:+: es ++ cs ++ ds ↔ p <:+: es ∨ p <:+: ds := by
  cases cs with
  | nil => exact absurd rfl hne
  | cons c cs =>
    obtain ⟨hc, hcs⟩ := List.forall_mem_cons.1 hcs
    rw [List.append_assoc, List.cons_append, infix_append_cons hc, infix_foreign_append hcs]

/-- No pattern begins in a part without its first character, if it does not end there. -/
theorem infix_append_of_not_mem (hes : c ∉ es) : c :: p <:+: es ++ cs ↔ c :: p <:+: cs := by
  induction es with
  | nil => rfl
  | cons e es ih =>
    obtain ⟨hne, hes⟩ := not_or.1 (mt List.mem_cons.2 hes)
    rw [List.cons_append, List.infix_cons_iff, ih hes]
    exact or_iff_right fun hprefix => hne (List.cons_prefix_cons.1 hprefix).1

/-! ## How often a pattern occurs -/

theorem countFrom_append_cons (hc : c ∉ p) (skip : Nat) (hskip : skip ≤ cs.length) :
    countFrom p skip (cs ++ c :: ds) = countFrom p skip cs + countFrom p 0 (c :: ds) := by
  induction cs generalizing skip with
  | nil =>
    obtain rfl : skip = 0 := Nat.le_zero.1 hskip
    rw [List.nil_append, countFrom, Nat.zero_add]
  | cons d cs ih =>
    cases skip with
    | succ skip => exact ih skip (Nat.le_of_succ_le_succ hskip)
    | zero =>
      rw [List.cons_append, countFrom, countFrom]
      by_cases hprefix : p <+: d :: cs
      · -- what is found in the first part ends there
        have hlonger : p <+: d :: (cs ++ c :: ds) :=
          hprefix.trans (List.prefix_append (d :: cs) (c :: ds))
        have hlength : p.length - 1 ≤ cs.length := by
          have := hprefix.length_le
          rw [List.length_cons] at this
          omega
        rw [if_pos (List.isPrefixOf_iff_prefix.2 hprefix),
          if_pos (List.isPrefixOf_iff_prefix.2 hlonger), ih _ hlength, Nat.add_assoc]
      · have hlonger : ¬ p <+: d :: (cs ++ c :: ds) := fun h =>
          hprefix (prefix_of_prefix_append_cons (d :: cs) hc h)
        rw [if_neg (mt List.isPrefixOf_iff_prefix.1 hprefix),
          if_neg (mt List.isPrefixOf_iff_prefix.1 hlonger), ih 0 (Nat.zero_le _)]

/-- A pattern occurs in two parts as often as in each, if a character stands between them that is not
in it. -/
theorem occurrences_append_cons (hp : p ≠ []) (hc : c ∉ p) :
    occurrences p (cs ++ c :: ds) = occurrences p cs + occurrences p ds := by
  have hstart : ¬ p <+: c :: ds := by
    intro hprefix
    obtain ⟨a, p, rfl⟩ := List.exists_cons_of_ne_nil hp
    obtain ⟨rfl, -⟩ := List.cons_prefix_cons.1 hprefix
    exact hc List.mem_cons_self
  rw [occurrences, countFrom_append_cons hc 0 (Nat.zero_le _), countFrom.eq_3,
    if_neg (mt List.isPrefixOf_iff_prefix.1 hstart)]
  rfl

theorem occurrences_eq_zero_iff (hp : p ≠ []) : occurrences p cs = 0 ↔ ¬ p <:+: cs := by
  induction cs with
  | nil => simp [occurrences, countFrom, hp]
  | cons c cs ih =>
    rw [occurrences, countFrom, List.infix_cons_iff, not_or]
    by_cases hprefix : p <+: c :: cs
    · rw [if_pos (List.isPrefixOf_iff_prefix.2 hprefix)]
      exact iff_of_false (by omega) fun h => h.1 hprefix
    · rw [if_neg (mt List.isPrefixOf_iff_prefix.1 hprefix)]
      exact ih.trans (and_iff_right hprefix).symm

/-- A pattern that stands between two parts, of which the first does not have its first character and
the second does not have the pattern, occurs once. -/
theorem occurrences_once (hcs : c ∉ cs) (hds : ¬ c :: p <:+: ds) :
    occurrences (c :: p) (cs ++ c :: p ++ ds) = 1 := by
  induction cs with
  | nil =>
    have hskip : ∀ q es : List Char, countFrom (c :: p) q.length (q ++ es) =
        countFrom (c :: p) 0 es := by
      intro q es
      induction q with
      | nil => rfl
      | cons d q ih => exact ih
    have hprefix : c :: p <+: c :: (p ++ ds) := List.prefix_append (c :: p) ds
    rw [List.nil_append, List.cons_append, occurrences, countFrom,
      if_pos (List.isPrefixOf_iff_prefix.2 hprefix), List.length_cons, Nat.add_sub_cancel, hskip]
    show 1 + occurrences (c :: p) ds = 1
    rw [(occurrences_eq_zero_iff (List.cons_ne_nil c p)).2 hds]
  | cons d cs ih =>
    have hprefix : ¬ c :: p <+: d :: (cs ++ c :: p ++ ds) := by
      intro hprefix
      obtain ⟨rfl, -⟩ := List.cons_prefix_cons.1 hprefix
      exact hcs List.mem_cons_self
    rw [List.cons_append, List.cons_append, occurrences, countFrom,
      if_neg (mt List.isPrefixOf_iff_prefix.1 hprefix)]
    exact ih fun hmem => hcs (List.mem_cons_of_mem d hmem)

/-! ## Texts without patterns -/

/-- None of several patterns occurs in a text. -/
def Lacks (patterns : List String) (s : String) : Prop :=
  ∀ p ∈ patterns, ¬ p.toList <:+: s.toList

variable {patterns : List String} {s t : String}

/-- Texts that are written out are compared character by character. -/
theorem lacks_ofList {ps : List (List Char)} (hne : [] ∉ ps)
    (h : ps.all (fun p => occurrences p cs == 0) = true) :
    Lacks (ps.map String.ofList) (String.ofList cs) := by
  intro pattern hpattern
  obtain ⟨p, hp, rfl⟩ := List.mem_map.1 hpattern
  have hzero : occurrences p cs = 0 := by simpa using List.all_eq_true.1 h p hp
  rw [String.toList_ofList, String.toList_ofList]
  refine (occurrences_eq_zero_iff ?_).1 hzero
  rintro rfl
  exact hne hp

/-- No pattern straddles a text with none of its characters. -/
theorem lacks_foreign_append (hs : ∀ p ∈ patterns, Foreign p.toList s.toList) :
    Lacks patterns (s ++ t) ↔ Lacks patterns t := by
  refine forall₂_congr fun p hp => not_congr ?_
  rw [String.toList_append, infix_foreign_append (hs p hp)]

/-- Patterns without digits. -/
def NoDigits (patterns : List String) : Prop := ∀ p ∈ patterns, ∀ c ∈ p.toList, c.isDigit = false

/-- Patterns that are written out are looked at character by character. -/
theorem noDigits_ofList {ps : List (List Char)} (h : ∀ p ∈ ps, ∀ c ∈ p, c.isDigit = false) :
    NoDigits (ps.map String.ofList) := by
  intro p hp c hc
  obtain ⟨cs, hcs, rfl⟩ := List.mem_map.1 hp
  rw [String.toList_ofList] at hc
  exact h cs hcs c hc

theorem NoDigits.foreign (h : NoDigits patterns) {p : String} (hp : p ∈ patterns) (n : Nat) :
    Foreign p.toList (toString n).toList := by
  intro c hc hmem
  exact nomatch (h p hp c hmem).symm.trans (isDigit_of_mem_toString hc)

/-- No pattern without digits straddles a number. -/
theorem lacks_append_number_append (h : NoDigits patterns) (n : Nat) :
    Lacks patterns (s ++ toString n ++ t) ↔ Lacks patterns s ∧ Lacks patterns t := by
  have hne : (toString n).toList ≠ [] := by
    obtain ⟨d, ds, hds, -⟩ := exists_toString_eq n
    rw [hds]
    exact List.cons_ne_nil d ds
  constructor
  · intro hlacks
    refine ⟨fun p hp hoccurs => hlacks p hp ?_, fun p hp hoccurs => hlacks p hp ?_⟩
    · rw [String.toList_append, String.toList_append,
        infix_append_foreign_append (h.foreign hp n) hne]
      exact .inl hoccurs
    · rw [String.toList_append, String.toList_append,
        infix_append_foreign_append (h.foreign hp n) hne]
      exact .inr hoccurs
  · rintro ⟨hs, ht⟩ p hp hoccurs
    rw [String.toList_append, String.toList_append,
      infix_append_foreign_append (h.foreign hp n) hne] at hoccurs
    exact hoccurs.elim (hs p hp) (ht p hp)

theorem lacks_append_number (h : NoDigits patterns) (n : Nat) :
    Lacks patterns (s ++ toString n) ↔ Lacks patterns s := by
  refine forall₂_congr fun p hp => not_congr ?_
  rw [String.toList_append, infix_append_foreign (h.foreign hp n)]

/-- A pattern does not occur where one of its characters does not. -/
theorem lacks_of_marks (ps : List (List Char)) (marks : List Char)
    (hps : ps.all (fun p => p.any marks.contains) = true) (hs : ∀ mark ∈ marks, mark ∉ s.toList) :
    Lacks (ps.map String.ofList) s := by
  intro pattern hpattern hoccurs
  obtain ⟨p, hp, rfl⟩ := List.mem_map.1 hpattern
  obtain ⟨mark, hmark, hcontains⟩ := List.any_eq_true.1 (List.all_eq_true.1 hps p hp)
  rw [String.toList_ofList] at hoccurs
  exact hs mark (List.contains_iff_mem.1 hcontains) (hoccurs.subset hmark)

end OpticalBench.Text
