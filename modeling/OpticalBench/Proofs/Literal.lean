import OpticalBench.Proofs.Numeral
import OpticalBench.Proofs.Text.Splitting
import OpticalBench.Program.Literal

/-!
# What literals are made of

- `Literal.mem_number`: a literal is written in the characters of numerals, letters, brackets and
  quotation marks. So it has no comma, no blank and no line feed.
- `Literal.mem_uniform`: what dictionaries of outcomes are written in.
-/

namespace OpticalBench

namespace Literal

theorem mem_binaryDigits {width k : Nat} {c : Char} (h : c ∈ binaryDigits width k) :
    c = '0' ∨ c = '1' := by
  induction width generalizing k with
  | zero => exact absurd h List.not_mem_nil
  | succ width ih =>
    rcases List.mem_append.1 h with h | h
    · exact ih h
    · rw [List.mem_singleton.1 h]
      by_cases heven : k % 2 = 0
      · exact .inl (if_pos heven)
      · exact .inr (if_neg heven)

/-- The characters of a literal that are no digits. -/
def marks : List Char := Numeral.marks ++ "float('nan')inf".toList

/-- A literal is written in digits and these characters. -/
theorem mem_number {x : Binary64} {c : Char} (h : c ∈ (number x).toList) :
    c.isDigit = true ∨ c ∈ marks := by
  have hword : ∀ {word : String}, word.toList.all marks.contains = true → c ∈ word.toList →
      c.isDigit = true ∨ c ∈ marks := by
    intro word hall hmem
    exact .inr (List.contains_iff_mem.1 (List.all_eq_true.1 hall c hmem))
  rw [number] at h
  by_cases hnan : x.isNaN = true
  · rw [if_pos hnan] at h
    exact hword (by decide) h
  · rw [if_neg hnan] at h
    by_cases hinfinite : x.isInfinite = true
    · rw [if_pos hinfinite] at h
      cases hnegative : x.isNegative with
      | true =>
        rw [if_pos hnegative] at h
        exact hword (by decide) h
      | false =>
        rw [if_neg (Bool.eq_false_iff.1 hnegative)] at h
        exact hword (by decide) h
    · rw [if_neg hinfinite, Binary64.text, String.toList_ofList, Binary64.characters, if_neg hnan,
        if_neg hinfinite] at h
      have hdecimal : (x.numeral .source).IsDecimal :=
        Layout.numeral_isDecimal (List.all_eq_true.1 (by decide)) _ _
      exact (hdecimal.mem_characters h).imp_right (List.mem_append_left _)

/-- No other character is in a literal. -/
theorem not_mem_number {c : Char} (hdigit : c.isDigit = false) (hmark : c ∉ marks)
    (x : Binary64) : c ∉ (number x).toList := by
  intro hmem
  rcases mem_number hmem with h | h
  · exact nomatch h.symm.trans hdigit
  · exact hmark h

/-- The characters of a dictionary of outcomes that are in none of its literals. -/
def entryMarks : List Char := ['\x7b', '\x7d', '"', ':', ',', ' ']

/-- A dictionary of outcomes is written in digits, the marks of literals and these characters. -/
theorem mem_uniform {n : Nat} {c : Char} (h : c ∈ (uniform n).toList) :
    c.isDigit = true ∨ c ∈ marks ∨ c ∈ entryMarks := by
  have hfixed : ∀ {cs : List Char}, (∀ d ∈ cs, d ∈ entryMarks) → c ∈ (String.ofList cs).toList →
      c.isDigit = true ∨ c ∈ marks ∨ c ∈ entryMarks := by
    intro cs hcs hmem
    rw [String.toList_ofList] at hmem
    exact .inr (.inr (hcs c hmem))
  rw [uniform, String.toList_append, String.toList_append, List.mem_append, List.mem_append,
    String.toList_intercalate] at h
  rcases h with (h | h) | h
  · exact hfixed (by decide) h
  · rcases Text.mem_intercalate h with h | ⟨part, hpart, h⟩
    · exact hfixed (by decide) h
    · obtain ⟨entry, hentry, rfl⟩ := List.mem_map.1 hpart
      obtain ⟨label, hlabel, rfl⟩ := List.mem_map.1 hentry
      obtain ⟨k, -, rfl⟩ := List.mem_map.1 hlabel
      simp only [String.toList_append, List.mem_append] at h
      rcases h with ((h | h) | h) | h
      · exact hfixed (by decide) h
      · rw [String.toList_ofList] at h
        rcases mem_binaryDigits h with rfl | rfl <;> exact .inl rfl
      · exact hfixed (by decide) h
      · exact (mem_number h).imp_right .inl
  · exact hfixed (by decide) h

/-- No other character is in a dictionary of outcomes. -/
theorem not_mem_uniform {c : Char} (hdigit : c.isDigit = false) (hmark : c ∉ marks)
    (hentry : c ∉ entryMarks) (n : Nat) : c ∉ (uniform n).toList := by
  intro hmem
  rcases mem_uniform hmem with h | h | h
  · exact nomatch h.symm.trans hdigit
  · exact hmark h
  · exact hentry h

end Literal

end OpticalBench
