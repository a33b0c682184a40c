import OpticalBench.Proofs.Binary64.Part
import OpticalBench.Proofs.Numeral
import OpticalBench.Proofs.Report.Ranking
import OpticalBench.Proofs.Text.Splitting

/-!
# Tables of outcomes

A table has one line for each of the first outcomes. Its line names an outcome in a way that can be
read back, whatever the label is, and shows the count of this very outcome and a bar.

- `Names`: what a line names (`Names.unique`: nothing else).
- `barWidth_le`, `barWidth_of_not_isFinite`: how long a bar is.
- `Carries`: what the line of an outcome has to show (`carries_row`).
- `rows_isTop`: a table shows the first outcomes, and a longer table begins with it.
-/

namespace OpticalBench

namespace Binary64

/-- The characters of a number with a fixed number of places that are no digits. -/
def fixedMarks : List Char := Numeral.marks ++ "NaNinf".toList

/-- NaN and the infinities have names. -/
theorem mem_text_of_not_isFinite {x : Binary64} {c : Char} (hx : x.isFinite = false)
    (h : c ∈ (x.text .plain).toList) : c ∈ fixedMarks := by
  have hnames : ∀ name ∈ ["NaN", "inf", "-inf"], ∀ d ∈ name.toList, d ∈ fixedMarks := by decide
  have hfield : x.exponentField = 2047 := by simpa [isFinite] using hx
  rw [text, String.toList_ofList, characters] at h
  by_cases hnan : x.isNaN = true
  · rw [if_pos hnan] at h
    exact hnames "NaN" (by decide) c h
  · have hinfinite : x.isInfinite = true := by
      simpa [isNaN, isInfinite, hfield] using hnan
    rw [if_neg hnan, if_pos hinfinite] at h
    cases hsign : x.isNegative with
    | true =>
      rw [hsign] at h
      exact hnames "-inf" (by decide) c h
    | false =>
      rw [hsign] at h
      exact hnames "inf" (by decide) c h

/-- A number with a fixed number of places is written in digits and these characters. -/
theorem mem_fixed {places : Nat} {x : Binary64} {c : Char} (h : c ∈ (x.fixed places).toList) :
    c.isDigit = true ∨ c ∈ fixedMarks := by
  rw [fixed] at h
  cases hfinite : x.isFinite with
  | false =>
    rw [hfinite, if_neg Bool.false_ne_true] at h
    exact .inr (mem_text_of_not_isFinite hfinite h)
  | true =>
    rw [hfinite, if_pos rfl, String.toList_ofList] at h
    have hdigits : ∀ k n, ∀ d ∈ List.replicate k '0' ++ Numeral.digits n, d.isDigit = true := by
      intro k n d hd
      rcases List.mem_append.1 hd with hd | hd
      · rw [List.eq_of_mem_replicate hd]
        rfl
      · exact Numeral.isDigit_of_mem_digits hd
    -- the digits of the rounded value, cut in two
    have hdecimal : ∀ n : Numeral, n.IsDecimal → c ∈ n.characters false →
        c.isDigit = true ∨ c ∈ fixedMarks :=
      fun n hn hc => (hn.mem_characters hc).imp_right (List.mem_append_left _)
    exact hdecimal _ ⟨fun d hd => hdigits _ _ d (List.mem_of_mem_take hd),
      fun d hd => hdigits _ _ d (List.mem_of_mem_drop hd)⟩ h

end Binary64

namespace Distribution

variable {r : Results} {line label label' : String}

/-! ## Names -/

/-- A line names an outcome: its label stands between a bar at the beginning and the last bracket. -/
def Names (line label : String) : Prop :=
  ∃ rest, line.toList = '|' :: label.toList ++ '⟩' :: rest ∧ '⟩' ∉ rest

/-- A line names one outcome at most. -/
theorem Names.unique (h : Names line label) (h' : Names line label') : label = label' := by
  obtain ⟨rest, hline, hrest⟩ := h
  obtain ⟨rest', hline', hrest'⟩ := h'
  have hfronts := (Text.append_cons_inj_last hrest hrest' (hline.symm.trans hline')).1
  exact String.toList_inj.1 (List.cons.inj hfronts).2

/-! ## Bars -/

theorem barWidth_of_not_isFinite {p : Binary64} (h : p.isFinite = false) : barWidth p = 0 := by
  rw [barWidth, h]
  rfl

/-- A bar has at most thirty blocks. -/
theorem barWidth_le (p : Binary64) : barWidth p ≤ 30 := by
  rw [barWidth]
  split
  · exact Nat.zero_le 30
  · rename_i hlow
    split
    · exact Nat.le_refl 30
    · rename_i hhigh
      simp only [Bool.or_eq_true, Bool.not_eq_true', not_or, Bool.not_eq_false,
        Bool.not_eq_true] at hlow hhigh
      obtain ⟨hfinite, hlow⟩ := hlow
      rw [Binary64.numericLt_eq_false_iff hfinite (by decide)] at hlow
      have hpart := Binary64.magnitude_le_unitsPerOne hfinite hlow hhigh
      have hthirty : 30 < 2 ^ 53 := by decide
      have hbound := (Binary64.magnitude_mul_le hfinite (Binary64.isFinite_ofNat_of_lt hthirty)
        hpart).2
      rw [Binary64.magnitude_ofNat_of_lt hthirty] at hbound
      have hunits := Binary64.unitsPerOne_pos
      refine Nat.le_of_lt_succ ((Nat.div_lt_iff_lt_mul (by omega)).2 ?_)
      omega

/-! ## Lines -/

/-- What the line of an outcome shows: its label, its probability, its own count, which is zero if it
has none, and a bar of at most thirty blocks, which is empty if there is no finite probability. -/
structure Carries (r : Results) (o : String × Binary64) (line : String) : Prop where
  names : Names line o.1
  text : ∃ count blocks : Nat,
    line = "|" ++ o.1 ++ "⟩ " ++ padLeft 8 (o.2.fixed 4) ++ " " ++ padLeft 6 (toString count) ++
      "  " ++ String.ofList (List.replicate blocks '█') ∧
    (∀ c, r.counts.get? o.1 = some c → count = c.toNat) ∧
    (r.counts.get? o.1 = none → count = 0) ∧
    blocks ≤ 30 ∧ (o.2.isFinite = false → blocks = 0)

theorem not_mem_padLeft {c : Char} {width : Nat} {s : String} (hc : c ≠ ' ') (hs : c ∉ s.toList) :
    c ∉ (padLeft width s).toList := by
  rw [padLeft, String.toList_append, String.toList_ofList, List.mem_append, not_or]
  exact ⟨fun hmem => hc (List.eq_of_mem_replicate hmem), hs⟩

theorem names_row (r : Results) (o : String × Binary64) : Names (row r o) o.1 := by
  have hprobability : '⟩' ∉ (o.2.fixed 4).toList := by
    intro hmem
    rcases Binary64.mem_fixed hmem with hdigit | hmark
    · exact absurd hdigit (by decide)
    · exact absurd hmark (by decide)
  have hcount : '⟩' ∉ (toString (countOf r o.1).toNat).toList := Text.not_mem_toString (by decide) _
  have hspace : '⟩' ≠ ' ' := by decide
  have hblocks : '⟩' ∉ List.replicate (barWidth o.2) '█' := fun hmem =>
    absurd (List.eq_of_mem_replicate hmem) (by decide)
  refine ⟨[' '] ++ (padLeft 8 (o.2.fixed 4)).toList ++ [' '] ++
    (padLeft 6 (toString (countOf r o.1).toNat)).toList ++ [' ', ' '] ++
    List.replicate (barWidth o.2) '█', ?_, ?_⟩
  · simp [row]
  · simp only [List.mem_append, List.mem_cons, List.not_mem_nil, or_false, hspace, hblocks,
      not_mem_padLeft hspace hprobability, not_mem_padLeft hspace hcount, not_false_eq_true]

theorem carries_row (r : Results) (o : String × Binary64) : Carries r o (row r o) where
  names := names_row r o
  text := by
    refine ⟨(countOf r o.1).toNat, barWidth o.2, rfl, fun c hget => ?_, fun hget => ?_,
      barWidth_le o.2, barWidth_of_not_isFinite⟩
    · rw [countOf, hget, Option.getD_some]
    · rw [countOf, hget]
      rfl

theorem forall₂_carries_rows (r : Results) (limit : Nat) :
    List.Forall₂ (Carries r) (shown r limit) (rows r limit) :=
  List.forall₂_map_right_iff.2 (List.forall₂_same.2 fun o _ => carries_row r o)

/-- **A table is the top of all outcomes.** It has as many lines as there may be and as there are
outcomes, one for each of the first ones, in their strict order, and each line carries the count and
the bar of its own outcome. A table that may be longer begins with it. -/
theorem rows_isTop (r : Results) (limit : Nat) :
    (rows r limit).length = min limit r.probabilities.size ∧
    IsTop r limit (shown r limit) ∧ List.Forall₂ (Carries r) (shown r limit) (rows r limit) ∧
    ∀ more, limit ≤ more → rows r limit <+: rows r more := by
  have hlines := forall₂_carries_rows r limit
  have htop := isTop_shown r limit
  refine ⟨hlines.length_eq.symm.trans htop.size, htop, hlines, fun more hmore => ?_⟩
  exact (List.take_prefix_take_left hmore).map (row r)

end Distribution

end OpticalBench
