import Mathlib.Data.List.TakeWhile
import OpticalBench.Json.Token
import OpticalBench.Proofs.Text.Rewriting

/-!
# Scanning JSON texts

How a text that is put together from tokens is scanned.

- `takeNumeral?_append`: a numeral ends where no character of a numeral can follow.
- `takeText?_plain`: a quoted text without escapes is its own content.
- `Scans`: the tokens of a text, whatever the fuel, with one lemma for each kind of token.
-/

namespace OpticalBench.Json

/-! ## Numerals -/

/-- What stands after a numeral does not go on with it. -/
def Boundary (rest : List Char) : Prop :=
  ∀ c, rest.head? = some c → c.isDigit = false ∧ c ≠ '.' ∧ c ≠ 'e' ∧ c ≠ 'E'

variable {cs ds rest after : List Char} {n : Numeral}

theorem boundary_nil : Boundary [] := fun _ hc => nomatch hc

theorem boundary_cons {c : Char} (hc : c.isDigit = false ∧ c ≠ '.' ∧ c ≠ 'e' ∧ c ≠ 'E')
    (rest : List Char) : Boundary (c :: rest) := by
  intro d hd
  obtain rfl : c = d := Option.some.inj hd
  exact hc

theorem Boundary.takeWhile (h : Boundary rest) : rest.takeWhile Char.isDigit = [] := by
  cases rest with
  | nil => rfl
  | cons c rest => simp [(h c rfl).1]

theorem Boundary.dropWhile (h : Boundary rest) : rest.dropWhile Char.isDigit = rest := by
  cases rest with
  | nil => rfl
  | cons c rest => simp [(h c rfl).1]

theorem takeWhile_append_boundary (h : Boundary rest) (cs : List Char) :
    (cs ++ rest).takeWhile Char.isDigit = cs.takeWhile Char.isDigit := by
  induction cs with
  | nil => exact h.takeWhile
  | cons c cs ih =>
    rw [List.cons_append, List.takeWhile_cons, List.takeWhile_cons, ih]

theorem dropWhile_append_boundary (h : Boundary rest) (cs : List Char) :
    (cs ++ rest).dropWhile Char.isDigit = cs.dropWhile Char.isDigit ++ rest := by
  induction cs with
  | nil => exact h.dropWhile
  | cons c cs ih =>
    rw [List.cons_append, List.dropWhile_cons, List.dropWhile_cons, ih]
    by_cases hc : c.isDigit = true
    · rw [if_pos hc, if_pos hc]
    · rw [if_neg hc, if_neg hc]
      rfl

theorem takeWhole?_append (hrest : Boundary rest) (h : takeWhole? cs = some (ds, after)) :
    takeWhole? (cs ++ rest) = some (ds, after ++ rest) := by
  unfold takeWhole? at h ⊢
  rw [takeWhile_append_boundary hrest, dropWhile_append_boundary hrest]
  generalize cs.takeWhile Char.isDigit = whole at h ⊢
  dsimp only at h ⊢
  split at h
  · exact nomatch h
  · exact nomatch h
  case h_3 =>
    obtain ⟨rfl, rfl⟩ := Prod.mk.inj (Option.some.inj h)
    rfl

theorem takeFraction?_append (hrest : Boundary rest) (h : takeFraction? cs = some (ds, after)) :
    takeFraction? (cs ++ rest) = some (ds, after ++ rest) := by
  unfold takeFraction? at h
  split at h
  case h_1 more =>
    obtain ⟨hdigits, h⟩ := Option.ite_none_left_eq_some.1 h
    obtain ⟨rfl, rfl⟩ := Prod.mk.inj (Option.some.inj h)
    rw [List.cons_append, takeFraction?, takeWhile_append_boundary hrest,
      dropWhile_append_boundary hrest]
    exact if_neg hdigits
  case h_2 hpoint =>
    obtain ⟨rfl, rfl⟩ := Prod.mk.inj (Option.some.inj h)
    unfold takeFraction?
    split
    case h_1 more hmore =>
      -- a point would have to come from the rest
      cases cs with
      | nil => exact absurd rfl ((hrest '.' (by rw [← List.nil_append rest, hmore]; rfl)).2.1)
      | cons c cs => exact absurd (congrArg (· :: cs) (List.cons.inj hmore).1) (hpoint cs)
    case h_2 => rfl

theorem takeSign_append (hcs : cs ≠ []) (rest : List Char) :
    takeSign (cs ++ rest) = ((takeSign cs).1, (takeSign cs).2 ++ rest) := by
  cases cs with
  | nil => exact absurd rfl hcs
  | cons c cs =>
    rw [List.cons_append]
    unfold takeSign
    split <;> split <;> simp_all

theorem takeExponent?_append {e : Option Int} (hrest : Boundary rest)
    (h : takeExponent? cs = some (e, after)) :
    takeExponent? (cs ++ rest) = some (e, after ++ rest) := by
  cases cs with
  | nil =>
    obtain ⟨rfl, rfl⟩ := Prod.mk.inj (Option.some.inj h)
    cases rest with
    | nil => rfl
    | cons c rest =>
      obtain ⟨-, -, hlower, hupper⟩ := hrest c rfl
      rw [List.nil_append, takeExponent?, if_neg (not_or.2 ⟨hlower, hupper⟩)]
  | cons c cs =>
    rw [takeExponent?] at h
    rw [List.cons_append, takeExponent?]
    by_cases hc : c = 'e' ∨ c = 'E'
    · rw [if_pos hc] at h ⊢
      -- the sign is not taken from the rest, because there are digits
      have hcs : cs ≠ [] := by
        rintro rfl
        exact nomatch h
      rw [takeSign_append hcs]
      obtain ⟨hdigits, h⟩ := Option.ite_none_left_eq_some.1 h
      obtain ⟨rfl, rfl⟩ := Prod.mk.inj (Option.some.inj h)
      simp only [takeWhile_append_boundary hrest, dropWhile_append_boundary hrest]
      exact if_neg hdigits
    · rw [if_neg hc] at h ⊢
      obtain ⟨rfl, rfl⟩ := Prod.mk.inj (Option.some.inj h)
      rfl

/-- The numeral at the front of a text that does not start with its sign. -/
def takeBody? (negative : Bool) (cs : List Char) : Option (Numeral × List Char) := do
  let (whole, afterWhole) ← takeWhole? cs
  let (fraction, afterFraction) ← takeFraction? afterWhole
  let (exponent, rest) ← takeExponent? afterFraction
  some (⟨negative, whole, fraction, exponent⟩, rest)

theorem takeNumeral?_minus (cs : List Char) : takeNumeral? ('-' :: cs) = takeBody? true cs := rfl

theorem takeNumeral?_of_ne {c : Char} (hc : c ≠ '-') (cs : List Char) :
    takeNumeral? (c :: cs) = takeBody? false (c :: cs) := by
  unfold takeNumeral?
  split
  case h_1 heq =>
    split at heq
    case h_1 hcs => exact absurd (List.cons.inj hcs).1 hc
    case h_2 =>
      obtain ⟨rfl, rfl⟩ := Prod.mk.inj heq
      rfl

/-- A numeral has digits, perhaps a fraction, perhaps an exponent. -/
theorem takeBody?_eq_some {negative : Bool} : takeBody? negative cs = some (n, after) ↔
    ∃ whole afterWhole fraction afterFraction exponent,
      takeWhole? cs = some (whole, afterWhole) ∧
      takeFraction? afterWhole = some (fraction, afterFraction) ∧
      takeExponent? afterFraction = some (exponent, after) ∧
      n = ⟨negative, whole, fraction, exponent⟩ := by
  constructor
  · intro h
    obtain ⟨⟨whole, afterWhole⟩, hwhole, h⟩ := Option.bind_eq_some_iff.1 h
    obtain ⟨⟨fraction, afterFraction⟩, hfraction, h⟩ := Option.bind_eq_some_iff.1 h
    obtain ⟨⟨exponent, after'⟩, hexponent, h⟩ := Option.bind_eq_some_iff.1 h
    obtain ⟨rfl, rfl⟩ := Prod.mk.inj (Option.some.inj h)
    exact ⟨whole, afterWhole, fraction, afterFraction, exponent, hwhole, hfraction, hexponent, rfl⟩
  · rintro ⟨whole, afterWhole, fraction, afterFraction, exponent, hwhole, hfraction, hexponent, rfl⟩
    rw [takeBody?, hwhole, Option.bind_eq_bind, Option.bind_some]
    show (takeFraction? afterWhole).bind _ = _
    rw [hfraction, Option.bind_some]
    show (takeExponent? afterFraction).bind _ = _
    rw [hexponent]
    rfl

theorem takeBody?_append {negative : Bool} (hrest : Boundary rest)
    (h : takeBody? negative cs = some (n, after)) :
    takeBody? negative (cs ++ rest) = some (n, after ++ rest) := by
  obtain ⟨whole, afterWhole, fraction, afterFraction, exponent, hwhole, hfraction, hexponent, hn⟩ :=
    takeBody?_eq_some.1 h
  exact takeBody?_eq_some.2 ⟨whole, _, fraction, _, exponent, takeWhole?_append hrest hwhole,
    takeFraction?_append hrest hfraction, takeExponent?_append hrest hexponent, hn⟩

/-- A numeral is taken the same if something follows that does not go on with it. -/
theorem takeNumeral?_append (hrest : Boundary rest) (h : takeNumeral? cs = some (n, [])) :
    takeNumeral? (cs ++ rest) = some (n, rest) := by
  cases cs with
  | nil => exact nomatch h
  | cons c cs =>
    by_cases hc : c = '-'
    · subst hc
      rw [takeNumeral?_minus] at h
      exact takeBody?_append hrest h
    · rw [takeNumeral?_of_ne hc] at h
      rw [List.cons_append, takeNumeral?_of_ne hc]
      exact takeBody?_append hrest h

/-! ## The characters of numerals -/

/-- A character that can stand in a numeral. -/
def IsNumeralCharacter (c : Char) : Prop :=
  c.isDigit = true ∨ c = '.' ∨ c = 'e' ∨ c = 'E' ∨ c = '+' ∨ c = '-'

instance (c : Char) : Decidable (IsNumeralCharacter c) := by
  unfold IsNumeralCharacter
  infer_instance

/-- What stands in front of the end of some digits is digits. -/
theorem isDigit_or_mem_dropWhile {c : Char} (h : c ∈ cs) :
    c.isDigit = true ∨ c ∈ cs.dropWhile Char.isDigit := by
  rw [← List.takeWhile_append_dropWhile (p := Char.isDigit) (l := cs), List.mem_append] at h
  exact h.imp_left List.mem_takeWhile_imp

theorem mem_of_takeWhole? (h : takeWhole? cs = some (ds, after)) {c : Char} (hc : c ∈ cs) :
    IsNumeralCharacter c ∨ c ∈ after := by
  unfold takeWhole? at h
  dsimp only at h
  split at h
  · exact nomatch h
  · exact nomatch h
  · obtain ⟨-, rfl⟩ := Prod.mk.inj (Option.some.inj h)
    exact (isDigit_or_mem_dropWhile hc).imp_left .inl

theorem mem_of_takeFraction? (h : takeFraction? cs = some (ds, after)) {c : Char} (hc : c ∈ cs) :
    IsNumeralCharacter c ∨ c ∈ after := by
  unfold takeFraction? at h
  split at h
  · obtain ⟨-, h⟩ := Option.ite_none_left_eq_some.1 h
    obtain ⟨-, rfl⟩ := Prod.mk.inj (Option.some.inj h)
    rcases List.mem_cons.1 hc with rfl | hc
    · exact .inl (.inr (.inl rfl))
    · exact (isDigit_or_mem_dropWhile hc).imp_left .inl
  · obtain ⟨-, rfl⟩ := Prod.mk.inj (Option.some.inj h)
    exact .inr hc

theorem mem_of_takeSign {c : Char} (hc : c ∈ cs) :
    IsNumeralCharacter c ∨ c ∈ (takeSign cs).2 := by
  unfold takeSign
  split
  · rcases List.mem_cons.1 hc with rfl | hc
    · exact .inl (by decide)
    · exact .inr hc
  · rcases List.mem_cons.1 hc with rfl | hc
    · exact .inl (by decide)
    · exact .inr hc
  · exact .inr hc

theorem mem_of_takeExponent? {e : Option Int} (h : takeExponent? cs = some (e, after)) {c : Char}
    (hc : c ∈ cs) : IsNumeralCharacter c ∨ c ∈ after := by
  cases cs with
  | nil => exact absurd hc (by simp)
  | cons d cs =>
    rw [takeExponent?] at h
    by_cases hd : d = 'e' ∨ d = 'E'
    · rw [if_pos hd] at h
      obtain ⟨-, h⟩ := Option.ite_none_left_eq_some.1 h
      obtain ⟨-, rfl⟩ := Prod.mk.inj (Option.some.inj h)
      rcases List.mem_cons.1 hc with rfl | hc
      · exact .inl (.inr (.inr (hd.imp_right .inl)))
      · rcases mem_of_takeSign hc with hsign | hc
        · exact .inl hsign
        · exact (isDigit_or_mem_dropWhile hc).imp_left .inl
    · rw [if_neg hd] at h
      obtain ⟨-, rfl⟩ := Prod.mk.inj (Option.some.inj h)
      exact .inr hc

theorem mem_of_takeBody? {negative : Bool} (h : takeBody? negative cs = some (n, after)) {c : Char}
    (hc : c ∈ cs) : IsNumeralCharacter c ∨ c ∈ after := by
  obtain ⟨whole, afterWhole, fraction, afterFraction, exponent, hwhole, hfraction, hexponent, -⟩ :=
    takeBody?_eq_some.1 h
  rcases mem_of_takeWhole? hwhole hc with hc | hc
  · exact .inl hc
  · rcases mem_of_takeFraction? hfraction hc with hc | hc
    · exact .inl hc
    · exact mem_of_takeExponent? hexponent hc

/-- A text that is a numeral has no other characters. -/
theorem isNumeralCharacter_of_takeNumeral? (h : takeNumeral? cs = some (n, [])) {c : Char}
    (hc : c ∈ cs) : IsNumeralCharacter c := by
  cases cs with
  | nil => exact absurd hc (by simp)
  | cons d cs =>
    by_cases hd : d = '-'
    · subst hd
      rcases List.mem_cons.1 hc with rfl | hc
      · decide
      · exact (mem_of_takeBody? h hc).resolve_right (by simp)
    · rw [takeNumeral?_of_ne hd] at h
      exact (mem_of_takeBody? h hc).resolve_right (by simp)

/-! ## Quoted texts -/

/-- A character that stands for itself in a quoted text. -/
def IsPlain (c : Char) : Prop := c ≠ '"' ∧ c ≠ '\\' ∧ 0x20 ≤ c.toNat

instance (c : Char) : Decidable (IsPlain c) := by
  unfold IsPlain
  infer_instance

theorem takePieces?_plain (h : ∀ c ∈ cs, IsPlain c) (rest : List Char) :
    takePieces? (cs ++ '"' :: rest) = some (cs.map .character, rest) := by
  induction cs with
  | nil => rfl
  | cons c cs ih =>
    obtain ⟨hquote, hbackslash, hcontrol⟩ := h c List.mem_cons_self
    have hkept : ¬(c = '\\' ∨ c.toNat < 0x20) := not_or.2 ⟨hbackslash, Nat.not_lt.2 hcontrol⟩
    rw [List.cons_append, takePieces?, if_neg hkept,
      ih fun d hd => h d (List.mem_cons_of_mem _ hd)]
    -- what is left says that no case for a quote or an escape applies
    · rfl
    · exact hquote
    · exact fun _ _ _ _ _ hc => absurd hc hbackslash
    · exact fun _ _ hc => absurd hc hbackslash

theorem joinPieces?_characters (cs : List Char) : joinPieces? (cs.map .character) = some cs := by
  induction cs with
  | nil => rfl
  | cons c cs ih => rw [List.map_cons, joinPieces?, ih, Option.map_some]

/-- A quoted text without escapes is its own content. -/
theorem takeText?_plain (h : ∀ c ∈ cs, IsPlain c) (rest : List Char) :
    takeText? (cs ++ '"' :: rest) = some (some (String.ofList cs), rest) := by
  rw [takeText?, takePieces?_plain h, Option.map_some]
  show some ((joinPieces? (cs.map .character)).map String.ofList, rest) = _
  rw [joinPieces?_characters, Option.map_some]

/-! ## Tokens -/

theorem isDigit_iff {c : Char} : c.isDigit = true ↔ 48 ≤ c.toNat ∧ c.toNat ≤ 57 := by
  simp [Char.isDigit, UInt32.le_iff_toNat_le]

theorem ofMark?_eq_none {c : Char} (h : c = '-' ∨ c.isDigit = true) : Token.ofMark? c = none := by
  have hnat : c.toNat = 45 ∨ 48 ≤ c.toNat ∧ c.toNat ≤ 57 :=
    h.imp (congrArg Char.toNat) isDigit_iff.1
  have hne : ∀ d : Char, d.toNat = 91 ∨ d.toNat = 93 ∨ d.toNat = 58 ∨ d.toNat = 44 → c ≠ d := by
    rintro d hd rfl
    omega
  rw [Token.ofMark?, if_neg (by omega), if_neg (by omega), if_neg (hne _ (by decide)),
    if_neg (hne _ (by decide)), if_neg (hne _ (by decide)), if_neg (hne _ (by decide))]

/-- A numeral starts with its sign or with a digit. -/
theorem head_of_takeNumeral? {c : Char} (h : takeNumeral? (c :: cs) = some (n, after)) :
    c = '-' ∨ c.isDigit = true := by
  by_cases hc : c = '-'
  · exact .inl hc
  · rw [takeNumeral?_of_ne hc] at h
    obtain ⟨whole, _, _, _, _, hwhole, -⟩ := takeBody?_eq_some.1 h
    by_contra hdigit
    rw [takeWhole?, List.takeWhile_cons, if_neg fun h => hdigit (.inr h)] at hwhole
    exact nomatch hwhole

/-- The tokens of a text, with any fuel that is enough. -/
def Scans (cs : List Char) (ts : List Token) : Prop :=
  ∀ fuel, cs.length ≤ fuel → Token.scanWithin? fuel cs = some ts

namespace Scans

variable {t : Token} {ts : List Token} {c : Char}

theorem scan? (h : Scans cs ts) : Token.scan? cs = some ts := h _ (Nat.le_refl _)

theorem nil : Scans [] [] := by
  rintro (_ | fuel) - <;> rfl

theorem space (hc : Token.isSpace c = true) (h : Scans cs ts) : Scans (c :: cs) ts := by
  intro fuel hfuel
  obtain ⟨fuel, rfl⟩ : ∃ k, fuel = k + 1 := ⟨fuel - 1, by simp at hfuel; omega⟩
  rw [Token.scanWithin?, if_pos hc]
  exact h fuel (by simpa using hfuel)

/-- A token in front of a text. -/
theorem token (hc : Token.isSpace c = false) (htake : Token.take? (c :: cs) = some (t, rest))
    (hlength : rest.length ≤ cs.length) (h : Scans rest ts) : Scans (c :: cs) (t :: ts) := by
  intro fuel hfuel
  obtain ⟨fuel, rfl⟩ : ∃ k, fuel = k + 1 := ⟨fuel - 1, by simp at hfuel; omega⟩
  have hrest : rest.length ≤ fuel := by
    rw [List.length_cons] at hfuel
    omega
  rw [Token.scanWithin?, if_neg (by simp [hc]), htake]
  show (Token.scanWithin? fuel rest).bind _ = _
  rw [h fuel hrest]
  rfl

theorem mark (hmark : Token.ofMark? c = some t) (hc : Token.isSpace c = false) (h : Scans cs ts) :
    Scans (c :: cs) (t :: ts) := by
  refine token hc ?_ (Nat.le_refl _) h
  rw [Token.take?, hmark]

theorem text (hcs : ∀ c ∈ cs, IsPlain c) (h : Scans rest ts) :
    Scans ('"' :: cs ++ '"' :: rest) (.text (some (String.ofList cs)) :: ts) := by
  refine token (by decide) ?_ ?_ h
  · rw [Token.take?, show Token.ofMark? '"' = none from by decide]
    show (takeText? (cs ++ '"' :: rest)).map _ = _
    rw [takeText?_plain hcs, Option.map_some]
  · simp
    omega

theorem numeral (hcs : takeNumeral? cs = some (n, [])) (hrest : Boundary rest)
    (h : Scans rest ts) : Scans (cs ++ rest) (.numeral n :: ts) := by
  cases cs with
  | nil => exact nomatch hcs
  | cons c cs =>
    have hc := head_of_takeNumeral? hcs
    have hquote : c ≠ '"' := by
      rintro rfl
      exact absurd hc (by decide)
    have hspace : Token.isSpace c = false := by
      rw [← Bool.not_eq_true, Token.isSpace]
      simp only [Bool.or_eq_true, beq_iff_eq]
      rintro (((rfl | rfl) | rfl) | rfl) <;> exact absurd hc (by decide)
    refine token hspace ?_ ?_ h
    · show Token.take? (c :: (cs ++ rest)) = _
      rw [Token.take?, ofMark?_eq_none hc]
      show (if c = '"' then _ else _) = _
      rw [if_neg hquote, if_pos hc, ← List.cons_append, takeNumeral?_append hrest hcs,
        Option.map_some]
    · simp

/-- Parts between commas, of which each can be scanned in front of any text that does not go on with a
numeral. -/
theorem separated {α : Type} {f : α → List Char} {g : α → List Token} {xs : List α}
    (h : ∀ x ∈ xs, ∀ rest ts, Boundary rest → Scans rest ts → Scans (f x ++ rest) (g x ++ ts))
    (hrest : Boundary rest) (hts : Scans rest ts) :
    Scans (Text.separated [',', ' '] f xs ++ rest) (Text.separated [.comma] g xs ++ ts) := by
  -- a numeral at the end of a part ends at the next comma, or at the rest
  have htail : ∀ ys : List α, (∀ y ∈ ys, y ∈ xs) →
      Boundary ((ys.flatMap fun y => [',', ' '] ++ f y) ++ rest) ∧
      Scans ((ys.flatMap fun y => [',', ' '] ++ f y) ++ rest)
        ((ys.flatMap fun y => [.comma] ++ g y) ++ ts) := by
    intro ys hys
    induction ys with
    | nil => exact ⟨hrest, hts⟩
    | cons y ys ih =>
      obtain ⟨hboundary, hscans⟩ := ih fun z hz => hys z (List.mem_cons_of_mem _ hz)
      rw [List.flatMap_cons, List.flatMap_cons, List.append_assoc, List.append_assoc,
        List.append_assoc, List.append_assoc]
      constructor
      · exact boundary_cons (by decide) _
      · exact mark rfl (by decide)
          (space (by decide) (h y (hys y List.mem_cons_self) _ _ hboundary hscans))
  cases xs with
  | nil => exact hts
  | cons x xs =>
    obtain ⟨hboundary, hscans⟩ := htail xs fun y hy => List.mem_cons_of_mem _ hy
    rw [Text.separated, Text.separated, List.append_assoc, List.append_assoc]
    exact h x List.mem_cons_self _ _ hboundary hscans

end Scans

end OpticalBench.Json
