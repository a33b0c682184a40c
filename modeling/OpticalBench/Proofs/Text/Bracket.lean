import OpticalBench.Proofs.Text.Occurrence

/-!
# What stands between brackets

A text may open a bracket in many places. If each of them is closed within the part it stands in, then
what stands between brackets can be looked at part by part.

- `Between`: what stands between an opening and the next closing character.
- `Closes`: a text in which every opening is followed by something that holds, and closed.
- `Closes.append_cons`: parts that close their brackets can be put together.
- `closes_once`: a text with one bracket.
- `Closes.holds`: what holds of everything between brackets.
-/

namespace OpticalBench.Text

/-- What stands between an opening and the next closing character. -/
def Between (opening : String) (closing : Char) (s inner : String) : Prop :=
  closing ∉ inner.toList ∧ opening.toList ++ inner.toList ++ [closing] <:+: s.toList

/-- Every opening in a text is followed by something that holds and by a closing character. -/
def Closes (opening : List Char) (closing : Char) (good : List Char → Prop) (cs : List Char) :
    Prop :=
  ∀ before after, cs = before ++ opening ++ after →
    ∃ inner rest, after = inner ++ closing :: rest ∧ closing ∉ inner ∧ good inner

variable {opening cs ds : List Char} {c closing : Char} {good : List Char → Prop}

theorem closes_of_absent (h : ¬ opening <:+: cs) : Closes opening closing good cs :=
  fun before after hcs => absurd ⟨before, after, hcs.symm⟩ h

/-- An opening in a text that was put together stands in one of the parts, unless it straddles
them. -/
theorem exists_of_append_cons {before after : List Char} (hc : c ∉ opening)
    (h : cs ++ c :: ds = before ++ opening ++ after) :
    (∃ rest, cs = before ++ opening ++ rest ∧ after = rest ++ c :: ds) ∨
      ∃ front, ds = front ++ opening ++ after := by
  rcases List.append_eq_append_iff.1 h with ⟨as, has, hds⟩ | ⟨as, hcs, hafter⟩
  · cases as with
    | nil =>
      refine .inl ⟨[], ?_, hds.symm⟩
      rw [has, List.append_nil, List.append_nil]
    | cons a as =>
      obtain ⟨rfl, hrest⟩ := List.cons.inj hds
      -- the opening ends behind the separator, so it begins behind it
      rcases List.append_eq_append_iff.1 has with ⟨bs, -, hopening⟩ | ⟨bs, -, hbs⟩
      · exact absurd (hopening ▸ List.mem_append_right bs List.mem_cons_self) hc
      · cases bs with
        | nil =>
          rw [List.nil_append] at hbs
          exact absurd (hbs ▸ List.mem_cons_self) hc
        | cons b bs =>
          obtain ⟨-, rfl⟩ := List.cons.inj hbs
          exact .inr ⟨bs, hrest⟩
  · exact .inl ⟨as, hcs, hafter⟩

/-- Parts that close their brackets can be put together around a character that opens none. -/
theorem Closes.append_cons (hc : c ∉ opening) (hcs : Closes opening closing good cs)
    (hds : Closes opening closing good ds) : Closes opening closing good (cs ++ c :: ds) := by
  intro before after h
  rcases exists_of_append_cons hc h with ⟨rest, hrest, rfl⟩ | ⟨front, hfront⟩
  · obtain ⟨inner, tail, rfl, hinner, hgood⟩ := hcs before rest hrest
    refine ⟨inner, tail ++ c :: ds, ?_, hinner, hgood⟩
    rw [List.append_assoc, List.cons_append]
  · exact hds front after hfront

/-- What has no character of the opening can stand in front. -/
theorem Closes.foreign_append {es : List Char} (hes : Foreign opening es) (hne : opening ≠ [])
    (hcs : Closes opening closing good cs) : Closes opening closing good (es ++ cs) := by
  induction es with
  | nil => exact hcs
  | cons e es ih =>
    obtain ⟨he, hes⟩ := List.forall_mem_cons.1 hes
    have hnil : Closes opening closing good [] := closes_of_absent (by rwa [List.infix_nil])
    exact hnil.append_cons he (ih hes)

/-- A text in which a character of the opening stands only once has one bracket. -/
theorem closes_once (front back : List Char) {inner tail es : List Char} (hes : c ∉ es)
    (hrest : c ∉ back ++ (inner ++ closing :: tail)) (hinner : closing ∉ inner)
    (hgood : good inner) :
    Closes (front ++ c :: back) closing good (es ++ c :: (back ++ (inner ++ closing :: tail))) := by
  intro before after h
  rw [← List.append_assoc before, List.append_assoc (before ++ front), List.cons_append] at h
  have hbefore : c ∉ before ++ front := by
    have hcount := congrArg (List.count c) h
    rw [List.count_append, List.count_append, List.count_cons_self, List.count_cons_self,
      List.count_eq_zero_of_not_mem hes, List.count_eq_zero_of_not_mem hrest] at hcount
    exact List.count_eq_zero.1 (by omega)
  obtain ⟨-, hback⟩ := append_cons_inj hes hbefore h
  exact ⟨inner, tail, (List.append_cancel_left hback).symm, hinner, hgood⟩

/-- What holds behind every opening holds of everything between brackets. -/
theorem Closes.holds {opening : String} {s inner : String}
    (h : Closes opening.toList closing good s.toList) (hinner : Between opening closing s inner) :
    good inner.toList := by
  obtain ⟨hclosing, before, after, hs⟩ := hinner
  have hsplit : s.toList = before ++ opening.toList ++ (inner.toList ++ closing :: after) := by
    simpa only [List.append_assoc, List.singleton_append] using hs.symm
  obtain ⟨inner', rest, heq, hclosing', hgood⟩ := h before _ hsplit
  obtain ⟨hinner, -⟩ := append_cons_inj hclosing hclosing' heq
  rwa [hinner]

end OpticalBench.Text
