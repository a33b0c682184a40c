import Mathlib.Algebra.Group.Nat.Defs
import OpticalBench.Text.Uuid

/-!
# Identifiers are read back

The hyphens of an identifier stand between its groups of digits, where they are expected, and the
digits are those of its number.

- `hexNumber?_hexDigits`: the digits of a number are read as the number.
- `ofGroups?_groups`: groups between hyphens are read as their digits.
- `read?_text`: every identifier is read back.
-/

namespace OpticalBench.Uuid

theorem hexValue?_digitChar : ∀ d < 16, Json.hexValue? (Nat.digitChar d) = some d := by decide

/-- The last `count` hexadecimal digits of a number. -/
theorem hexNumber?_hexDigits (count n : Nat) :
    Json.hexNumber? (hexDigits count n) = some (n % 16 ^ count) := by
  induction count generalizing n with
  | zero => rw [Nat.pow_zero, Nat.mod_one]; rfl
  | succ count ih =>
    rw [hexDigits, Json.hexNumber?, List.foldlM_append]
    show (Json.hexNumber? (hexDigits count (n / 16))).bind _ = _
    rw [ih, Option.bind_some, List.foldlM_cons, hexValue?_digitChar _ (Nat.mod_lt _ (by decide))]
    have hmod : n / 16 % 16 ^ count * 16 + n % 16 = n % 16 ^ (count + 1) := by
      rw [Nat.pow_succ, Nat.mul_comm (16 ^ count), Nat.mod_mul]
      omega
    rw [← hmod]
    rfl

theorem length_hexDigits (count n : Nat) : (hexDigits count n).length = count := by
  induction count generalizing n with
  | zero => rfl
  | succ count ih => rw [hexDigits, List.length_append, ih, List.length_singleton]

theorem ofDigits?_hexDigits (u : Uuid) : ofDigits? (hexDigits 32 u.value) = some u := by
  have hlt : u.value < 16 ^ 32 := u.value_lt
  rw [ofDigits?, if_pos (length_hexDigits 32 _), hexNumber?_hexDigits, Nat.mod_eq_of_lt hlt,
    Option.bind_some, dif_pos u.value_lt]

/-- Groups between hyphens are read as their digits. -/
theorem ofGroups?_groups {a b c d e : List Char} (ha : a.length = 8) (hb : b.length = 4)
    (hc : c.length = 4) (hd : d.length = 4) (he : e.length = 12) :
    ofGroups? (a ++ '-' :: b ++ '-' :: c ++ '-' :: d ++ '-' :: e) =
      ofDigits? (a ++ b ++ c ++ d ++ e) := by
  have hlength : (a ++ '-' :: b ++ '-' :: c ++ '-' :: d ++ '-' :: e).length = 36 := by
    simp [ha, hb, hc, hd, he]
  have hhyphens : [8, 13, 18, 23].map
      (fun i => (a ++ '-' :: b ++ '-' :: c ++ '-' :: d ++ '-' :: e)[i]?) =
        List.replicate 4 (some '-') := by
    simp (disch := omega) [ha, hb, hc, hd, List.getElem?_append_right]
    exact ⟨rfl, rfl, rfl, rfl⟩
  rw [ofGroups?, if_pos ⟨hlength, hhyphens⟩]
  simp (disch := omega) [ha, hb, hc, hd, List.drop_append, List.drop_eq_nil_of_le]

/-- Every identifier is read back. -/
theorem read?_text (u : Uuid) : read? u.text = some u := by
  have hlength := length_hexDigits 32 u.value
  have hdigits := ofDigits?_hexDigits u
  generalize hds : hexDigits 32 u.value = ds at hlength hdigits
  have hcharacters : u.characters = ds.take 8 ++ '-' :: (ds.drop 8).take 4 ++
      '-' :: (ds.drop 12).take 4 ++ '-' :: (ds.drop 16).take 4 ++ '-' :: ds.drop 20 := by
    rw [← hds]
    rfl
  have hgroups : ofGroups? u.characters = some u := by
    rw [hcharacters, ofGroups?_groups (by simp [hlength]) (by simp [hlength]) (by simp [hlength])
      (by simp [hlength]) (by simp [hlength])]
    refine (congrArg ofDigits? ?_).trans hdigits
    rw [← List.take_add, ← List.take_add, ← List.take_add, List.take_append_drop]
  have hnot : ofDigits? u.characters = none := by
    rw [ofDigits?, hcharacters]
    exact if_neg (by simp [hlength])
  rw [read?, text, String.toList_ofList, readCharacters?, hnot, hgroups]
  rfl

end OpticalBench.Uuid
