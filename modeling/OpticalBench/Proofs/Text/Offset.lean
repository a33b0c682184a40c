import OpticalBench.Proofs.Text.Rewriting

/-!
# Byte offsets

A place in a text can be named by the number of bytes in front of it. Such a number may point into the
middle of a character, or past the end, and then there is nothing to cut there.

- `byteSize`: how many bytes characters take.
- `slice?`: the part of a text between two offsets, if there are such places.
- `offsetWhere?`, `offsetOf?`: where the first character of a kind, or the first occurrence of a
  pattern, begins.
-/

namespace OpticalBench.Text

/-! ## Sizes -/

/-- How many bytes characters take. -/
def byteSize : List Char → Nat
  | [] => 0
  | c :: cs => c.utf8Size + byteSize cs

@[simp] theorem byteSize_nil : byteSize [] = 0 := rfl

@[simp] theorem byteSize_cons (c : Char) (cs : List Char) :
    byteSize (c :: cs) = c.utf8Size + byteSize cs := rfl

@[simp] theorem byteSize_append (cs ds : List Char) :
    byteSize (cs ++ ds) = byteSize cs + byteSize ds := by
  induction cs with
  | nil => rw [List.nil_append, byteSize_nil, Nat.zero_add]
  | cons c cs ih => rw [List.cons_append, byteSize_cons, byteSize_cons, ih, Nat.add_assoc]

theorem utf8ByteSize_ofList (cs : List Char) : (String.ofList cs).utf8ByteSize = byteSize cs := by
  induction cs with
  | nil => rfl
  | cons c cs ih =>
    have hsplit : String.ofList (c :: cs) = String.singleton c ++ String.ofList cs := by
      rw [← List.singleton_append, String.ofList_append]
      rfl
    rw [hsplit, String.utf8ByteSize_append, String.utf8ByteSize_singleton, ih, byteSize_cons]

theorem byteSize_toList (s : String) : byteSize s.toList = s.utf8ByteSize := by
  rw [← utf8ByteSize_ofList, String.ofList_toList]

/-- Leaving characters out makes a text no longer. -/
theorem byteSize_le_of_sublist {cs ds : List Char} (h : cs.Sublist ds) :
    byteSize cs ≤ byteSize ds := by
  induction h with
  | slnil => exact Nat.le_refl _
  | cons d _ ih => exact Nat.le_trans ih (Nat.le_add_left _ _)
  | cons_cons c _ ih => exact Nat.add_le_add_left ih _

theorem byteSize_pos {cs : List Char} (h : cs ≠ []) : 0 < byteSize cs := by
  obtain ⟨c, cs, rfl⟩ := List.exists_cons_of_ne_nil h
  exact Nat.add_pos_left c.utf8Size_pos _

/-! ## Slices -/

/-- The part of a text between two byte offsets. There is one only if the offsets are in order and each
is a place between characters, or an end of the text. -/
def slice? (s : String) (start stop : Nat) : Option String :=
  if h : start ≤ stop ∧ String.Pos.Raw.IsValid s ⟨start⟩ ∧ String.Pos.Raw.IsValid s ⟨stop⟩ then
    some (String.extract (s.pos ⟨start⟩ h.2.1) (s.pos ⟨stop⟩ h.2.2))
  else none

/-- Between two parts of a text there is a place to cut. -/
theorem isValid_byteSize (cs ds : List Char) :
    String.Pos.Raw.IsValid (String.ofList (cs ++ ds)) ⟨byteSize cs⟩ := by
  rw [String.Pos.Raw.isValid_iff_exists_take_toList]
  refine ⟨cs.length, ?_⟩
  rw [String.toList_ofList, List.take_left, utf8ByteSize_ofList]

theorem size_toByteArray_ofList (cs : List Char) :
    (String.ofList cs).toByteArray.size = byteSize cs := by
  rw [String.size_toByteArray, utf8ByteSize_ofList]

/-- A part of a text is cut out at its ends. -/
theorem slice?_append (cs ds es : List Char) :
    slice? (String.ofList (cs ++ ds ++ es)) (byteSize cs) (byteSize cs + byteSize ds) =
      some (String.ofList ds) := by
  have hstart : String.Pos.Raw.IsValid (String.ofList (cs ++ ds ++ es)) ⟨byteSize cs⟩ := by
    rw [List.append_assoc]
    exact isValid_byteSize cs (ds ++ es)
  have hstop : String.Pos.Raw.IsValid (String.ofList (cs ++ ds ++ es))
      ⟨byteSize cs + byteSize ds⟩ := by
    rw [← byteSize_append]
    exact isValid_byteSize (cs ++ ds) es
  rw [slice?, dif_pos ⟨Nat.le_add_right _ _, hstart, hstop⟩]
  refine congrArg some (String.toByteArray_inj.1 ?_)
  rw [String.toByteArray_extract]
  show (String.ofList (cs ++ ds ++ es)).toByteArray.extract (byteSize cs)
    (byteSize cs + byteSize ds) = _
  rw [List.append_assoc, String.ofList_append, String.ofList_append, String.toByteArray_append,
    String.toByteArray_append, ← size_toByteArray_ofList cs, ← size_toByteArray_ofList ds]
  exact (@ByteArray.extract_append_size_add _ _ 0 _).trans (ByteArray.extract_append_eq_left rfl)

/-- The same for offsets that are found to be the ends of a part. -/
theorem slice?_eq_some {s : String} {start stop : Nat} (cs ds es : List Char)
    (hs : s.toList = cs ++ ds ++ es) (hstart : start = byteSize cs)
    (hstop : stop = byteSize cs + byteSize ds) : slice? s start stop = some (String.ofList ds) := by
  rw [hstart, hstop, ← String.ofList_toList (s := s), hs]
  exact slice?_append cs ds es

/-- What follows an offset is cut out up to the end of the text. -/
theorem slice?_to_end {s : String} {start : Nat} (cs ds : List Char) (hs : s.toList = cs ++ ds)
    (hstart : start = byteSize cs) : slice? s start s.utf8ByteSize = some (String.ofList ds) := by
  refine slice?_eq_some cs ds [] (by rw [hs, List.append_nil]) hstart ?_
  rw [← byteSize_toList, hs, byteSize_append]

/-- An offset inside a letter is no place to cut. -/
example : slice? "é: 1" 2 4 = some ": " ∧ slice? "é: 1" 1 4 = none := by decide +kernel

/-! ## Searching -/

/-- The byte offset of the first character of a kind. -/
def offsetWhere? (p : Char → Bool) : List Char → Option Nat
  | [] => none
  | c :: cs => if p c then some 0 else (offsetWhere? p cs).map (c.utf8Size + ·)

/-- The byte offset of the first occurrence of a pattern that is not empty. -/
def offsetOf? (pattern : List Char) : List Char → Option Nat
  | [] => none
  | c :: cs =>
    if pattern.isPrefixOf (c :: cs) then some 0
    else (offsetOf? pattern cs).map (c.utf8Size + ·)

/-- The first character of a kind is found behind those that are of another. -/
theorem offsetWhere?_append_cons {p : Char → Bool} {c : Char} {cs : List Char}
    (hcs : ∀ d ∈ cs, p d = false) (hc : p c = true) (ds : List Char) :
    offsetWhere? p (cs ++ c :: ds) = some (byteSize cs) := by
  induction cs with
  | nil => rw [List.nil_append, offsetWhere?, if_pos hc, byteSize_nil]
  | cons d cs ih =>
    obtain ⟨hd, hcs⟩ := List.forall_mem_cons.1 hcs
    rw [List.cons_append, offsetWhere?, if_neg (by simp [hd]), ih hcs, Option.map_some,
      byteSize_cons]

theorem offsetWhere?_eq_none {p : Char → Bool} {cs : List Char} (h : ∀ d ∈ cs, p d = false) :
    offsetWhere? p cs = none := by
  induction cs with
  | nil => rfl
  | cons d cs ih =>
    obtain ⟨hd, hcs⟩ := List.forall_mem_cons.1 h
    rw [offsetWhere?, if_neg (by simp [hd]), ih hcs, Option.map_none]

theorem not_infix_of_offsetOf? {p cs : List Char} (hp : p ≠ []) (h : offsetOf? p cs = none) :
    ¬p <:+: cs := by
  induction cs with
  | nil => exact fun hinfix => hp (List.infix_nil.1 hinfix)
  | cons c cs ih =>
    rw [offsetOf?] at h
    by_cases hprefix : p <+: c :: cs
    · rw [if_pos (List.isPrefixOf_iff_prefix.2 hprefix)] at h
      exact nomatch h
    · rw [if_neg (mt List.isPrefixOf_iff_prefix.1 hprefix)] at h
      rintro hinfix
      rcases List.infix_cons_iff.1 hinfix with hstart | hlater
      · exact hprefix hstart
      · exact ih (Option.map_eq_none_iff.1 h) hlater

/-- A pattern that is found stands behind its offset, and a rewriter that looks for it has nothing to
do before. -/
theorem exists_of_offsetOf? {p cs : List Char} {n : Nat} (h : offsetOf? p cs = some n) :
    ∃ before after, cs = before ++ (p ++ after) ∧ n = byteSize before ∧
      ∀ R, PassesOver R p → R cs = before ++ R (p ++ after) := by
  induction cs generalizing n with
  | nil => exact nomatch h
  | cons c cs ih =>
    rw [offsetOf?] at h
    by_cases hprefix : p <+: c :: cs
    · rw [if_pos (List.isPrefixOf_iff_prefix.2 hprefix)] at h
      obtain ⟨after, hafter⟩ := hprefix
      exact ⟨[], after, hafter.symm, (Option.some.inj h).symm, fun R _ => by rw [hafter]; rfl⟩
    · rw [if_neg (mt List.isPrefixOf_iff_prefix.1 hprefix)] at h
      obtain ⟨m, hm, rfl⟩ := Option.map_eq_some_iff.1 h
      obtain ⟨before, after, rfl, rfl, hR⟩ := ih hm
      refine ⟨c :: before, after, rfl, rfl, fun R hpasses => ?_⟩
      rw [hpasses c _ hprefix, hR R hpasses]
      rfl

end OpticalBench.Text
