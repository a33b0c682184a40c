import OpticalBench.Proofs.Report.Table

/-!
# The most probable outcome

A summary names the most probable outcome, and the first line of its table shows a most probable one.
Where several outcomes share the highest probability, the summary takes the last of them in the order
of labels and the table the first. So the two agree only if there is no tie.

- `Leads`: an outcome that none is more probable than.
- `exists_mostProbable?`: the last outcome that leads.
- `exists_head?_shown`: the first outcome that leads.
- `mostProbable?_and_rows`: what the two have in common, and when they are one.
-/

namespace OpticalBench

namespace Results

variable {r : Results} {o o' : String × Binary64}

/-- No outcome is more probable than this one. -/
def Leads (r : Results) (o : String × Binary64) : Prop :=
  r.probabilities.get? o.1 = some o.2 ∧
    ∀ label p, r.probabilities.get? label = some p → ¬o.2.Before p

theorem leads_iff :
    r.Leads o ↔ o ∈ r.probabilities.entries ∧
      ∀ e ∈ r.probabilities.entries, e.2.rank ≤ o.2.rank := by
  have hbefore : ∀ p, ¬o.2.Before p ↔ p.rank ≤ o.2.rank := by
    intro p
    rw [Binary64.before_iff, Int.not_lt]
  simp only [Leads, hbefore]
  refine and_congr TextMap.mem_entries_iff.symm ⟨fun h e he => ?_, fun h label p hget => ?_⟩
  · exact h e.1 e.2 (TextMap.mem_entries_iff.1 he)
  · exact h (label, p) (TextMap.mem_entries_iff.2 hget)

/-- Outcomes that lead are equally probable. -/
theorem Leads.probability_eq (h : r.Leads o) (h' : r.Leads o') : o.2 = o'.2 := by
  obtain ⟨hmem, hle⟩ := leads_iff.1 h
  obtain ⟨hmem', hle'⟩ := leads_iff.1 h'
  have := hle _ hmem'
  have := hle' _ hmem
  exact Binary64.eq_of_rank_eq (by omega)

/-- What a pass over some outcomes has found: one of them, of the most probable ones the last. -/
structure IsLast (xs : List (String × Binary64)) (top : String × Binary64) : Prop where
  mem : top ∈ xs
  highest : ∀ e ∈ xs, e.2.rank ≤ top.2.rank
  last : ∀ e ∈ xs, e.2.rank = top.2.rank → e.1 ≤ top.1

/-- One more outcome, with a greater label. -/
theorem IsLast.step {xs : List (String × Binary64)} {top e : String × Binary64}
    (h : IsLast xs top) (hlabel : ∀ x ∈ xs, x.1 < e.1) :
    ∃ top', moreProbable (some top) e = some top' ∧ IsLast (xs ++ [e]) top' := by
  rw [moreProbable]
  by_cases hle : top.2.rank ≤ e.2.rank
  · -- the new outcome takes the place, also if it is only as probable
    refine ⟨e, if_pos (decide_eq_true hle), by simp, fun x hx => ?_, fun x hx hrank => ?_⟩
    · rcases List.mem_append.1 hx with hx | hx
      · exact Int.le_trans (h.highest x hx) hle
      · exact List.mem_singleton.1 hx ▸ Int.le_refl _
    · rcases List.mem_append.1 hx with hx | hx
      · exact String.not_lt.1 (String.lt_asymm (hlabel x hx))
      · exact List.mem_singleton.1 hx ▸ String.le_refl _
  · refine ⟨top, if_neg (by simpa [Binary64.totalLe] using hle), List.mem_append_left _ h.mem,
      fun x hx => ?_, fun x hx hrank => ?_⟩
    · rcases List.mem_append.1 hx with hx | hx
      · exact h.highest x hx
      · rw [List.mem_singleton.1 hx]
        omega
    · rcases List.mem_append.1 hx with hx | hx
      · exact h.last x hx hrank
      · rw [List.mem_singleton.1 hx] at hrank
        omega

/-- A whole pass, over outcomes in ascending order of their labels. -/
theorem exists_foldl_moreProbable {xs : List (String × Binary64)}
    (hlabels : xs.Pairwise fun a b => a.1 < b.1) (hne : xs ≠ []) :
    ∃ top, xs.foldl moreProbable none = some top ∧ IsLast xs top := by
  induction xs using List.reverseRecOn with
  | nil => exact absurd rfl hne
  | append_singleton xs e ih =>
    obtain ⟨hxs, -, hlast⟩ := List.pairwise_append.1 hlabels
    have hlabel : ∀ x ∈ xs, x.1 < e.1 := fun x hx => hlast x hx e List.mem_cons_self
    rw [List.foldl_concat]
    by_cases hnil : xs = []
    · subst hnil
      exact ⟨e, rfl, by simp, by simp, by simp⟩
    · obtain ⟨top, hfold, htop⟩ := ih hxs hnil
      rw [hfold]
      exact htop.step hlabel

/-- The most probable outcome is the last one that leads. -/
theorem exists_mostProbable? (h : r.probabilities.isEmpty = false) :
    ∃ top, r.mostProbable? = some top ∧ r.Leads top ∧ ∀ o, r.Leads o → o.1 ≤ top.1 := by
  have hne : r.probabilities.entries ≠ [] := by
    intro hnil
    rw [TextMap.isEmpty, hnil] at h
    exact nomatch h
  obtain ⟨top, hfold, htop⟩ := exists_foldl_moreProbable r.probabilities.ascending hne
  have hleads : r.Leads top := leads_iff.2 ⟨htop.mem, htop.highest⟩
  refine ⟨top, hfold, hleads, fun o ho => htop.last o (leads_iff.1 ho).1 ?_⟩
  rw [ho.probability_eq hleads]

end Results

namespace Distribution

open Results (Leads)

variable {r : Results} {limit : Nat}

/-- The first outcome of a table is the first one that leads. -/
theorem exists_head?_shown (h : r.probabilities.isEmpty = false) (hlimit : 0 < limit) :
    ∃ first, (shown r limit).head? = some first ∧ r.Leads first ∧
      ∀ o, r.Leads o → first.1 ≤ o.1 := by
  obtain ⟨first, rest, hranked⟩ : ∃ first rest, ranked r = first :: rest := by
    refine List.exists_cons_of_ne_nil fun hnil => ?_
    have hentries := ranked_perm r
    rw [hnil, List.nil_perm] at hentries
    rw [TextMap.isEmpty, hentries] at h
    exact nomatch h
  have hmem : ∀ e, e ∈ r.probabilities.entries ↔ e ∈ first :: rest := by
    intro e
    rw [← hranked, (ranked_perm r).mem_iff]
  have hpairwise := ranked_pairwise r
  rw [hranked] at hpairwise
  -- every outcome is this one or stands behind it
  have hfirst : ∀ e ∈ r.probabilities.entries, e = first ∨ Precedes first e := fun e he =>
    (List.mem_cons.1 ((hmem e).1 he)).imp_right ((List.pairwise_cons.1 hpairwise).1 e)
  have hleads : r.Leads first := by
    refine Results.leads_iff.2 ⟨(hmem first).2 List.mem_cons_self, fun e he => ?_⟩
    rcases hfirst e he with rfl | hprecedes
    · exact Int.le_refl _
    · rcases precedes_iff.1 hprecedes with hrank | ⟨hrank, -⟩ <;> omega
  refine ⟨first, ?_, hleads, fun o ho => ?_⟩
  · rw [shown, hranked, List.head?_take, if_neg (Nat.ne_of_gt hlimit), List.head?_cons]
  · rcases hfirst o (Results.leads_iff.1 ho).1 with rfl | hprecedes
    · exact String.le_refl _
    · rcases precedes_iff.1 hprecedes with hrank | ⟨-, hlabel⟩
      · rw [ho.probability_eq hleads] at hrank
        omega
      · exact String.not_lt.1 (String.lt_asymm hlabel)

/-- **The most probable outcome and the first line of a table are equally probable.** Of all outcomes
that none is more probable than, the one has the last label and the other the first, so they are the
same outcome if there is only one, and only then. -/
theorem mostProbable?_and_rows (r : Results) (limit : Nat)
    (nonempty : r.probabilities.isEmpty = false) (positive : 0 < limit) :
    ∃ top first line, r.mostProbable? = some top ∧ (rows r limit).head? = some line ∧
      Carries r first line ∧ r.Leads top ∧ r.Leads first ∧ top.2 = first.2 ∧
      (∀ o, r.Leads o → first.1 ≤ o.1 ∧ o.1 ≤ top.1) ∧
      (Names line top.1 ↔ ∀ o o', r.Leads o → r.Leads o' → o = o') := by
  obtain ⟨top, htop, hleads, hlast⟩ := Results.exists_mostProbable? nonempty
  obtain ⟨first, hfirst, hleads', hleast⟩ := exists_head?_shown nonempty positive
  refine ⟨top, first, row r first, htop, ?_, carries_row r first, hleads, hleads',
    hleads.probability_eq hleads', fun o ho => ⟨hleast o ho, hlast o ho⟩, fun hnames => ?_,
    fun hone => ?_⟩
  · rw [rows, ← shown, List.head?_map, hfirst, Option.map_some]
  · -- with one name for the first and the last, all labels between them are the same
    have hlabel : top.1 = first.1 := hnames.unique (names_row r first)
    intro o o' ho ho'
    have hsame : ∀ o, r.Leads o → o.1 = top.1 := fun o ho =>
      String.le_antisymm (hlast o ho) (hlabel ▸ hleast o ho)
    exact Prod.ext ((hsame o ho).trans (hsame o' ho').symm) (ho.probability_eq ho')
  · rw [hone top first hleads hleads']
    exact names_row r first

/-- A fair coin: two outcomes share the highest probability. -/
def fairCoin : Results :=
  Results.interpret (.object [("probabilities", .object
    [("0", .number (.float ⟨0x3fe0000000000000⟩)), ("1", .number (.float ⟨0x3fe0000000000000⟩))])])

theorem mostProbable?_and_rows_fairCoin :
    fairCoin.probabilities.isEmpty = false ∧ 0 < 16 ∧
      ∃ top first line, fairCoin.mostProbable? = some top ∧
        (rows fairCoin 16).head? = some line ∧ Carries fairCoin first line ∧
        top.2 = first.2 ∧ first.1 ≤ top.1 := by
  have nonempty : fairCoin.probabilities.isEmpty = false := by decide +kernel
  obtain ⟨top, first, line, htop, hline, hcarries, hleads, -, hsame, hbetween, -⟩ :=
    mostProbable?_and_rows fairCoin 16 nonempty (by decide)
  exact ⟨nonempty, by decide, top, first, line, htop, hline, hcarries, hsame, (hbetween top hleads).1⟩

/-- The most probable side of a fair coin is not the one in the first line. -/
theorem not_forall_names_mostProbable? :
    ¬∀ (r : Results) (limit : Nat), r.probabilities.isEmpty = false → 0 < limit →
      ∃ top line, r.mostProbable? = some top ∧ (rows r limit).head? = some line ∧
        Names line top.1 := by
  intro h
  obtain ⟨top, line, htop, hline, hnames⟩ := h fairCoin 1 (by decide +kernel) (by decide)
  have htails : fairCoin.mostProbable? = some ("1", ⟨0x3fe0000000000000⟩) := by decide +kernel
  have hheads : (rows fairCoin 1).head? = some (row fairCoin ("0", ⟨0x3fe0000000000000⟩)) := by
    decide +kernel
  obtain rfl := Option.some.inj (htails.symm.trans htop)
  obtain rfl := Option.some.inj (hheads.symm.trans hline)
  exact absurd (hnames.unique (names_row fairCoin _)) (by decide)

end Distribution

end OpticalBench
