import OpticalBench.Json.Value
import OpticalBench.Proofs.Json.Reading
import OpticalBench.Proofs.Json.Scanning
import OpticalBench.Proofs.Numeral

/-!
# Reading what was written

Every value is written as a text that is read back as the document of the value: quoted texts keep
every character, numerals their digits, arrays their items, and objects their fields in order.

- `takeText?_escaped`: a quoted text is read back, whatever its characters.
- `takeNumeral?_characters`: so is a well-formed numeral.
- `wellFormed_numeral`: all numbers are written as such.
- `Value.document`: the document of a value.
- `Document.read?_render`: what is written is read back.
-/

namespace OpticalBench.Json

/-! ## Quoted texts -/

/-- The letters that escape a character, and the characters. -/
def letters : List (Char × Char) :=
  [('"', '"'), ('\\', '\\'), ('n', '\n'), ('r', '\r'), ('t', '\t'), ('b', Char.ofNat 0x8),
    ('f', Char.ofNat 0xc)]

/-- What a character is read back as: control characters without a letter are named by number. -/
def pieceOf (c : Char) : Piece :=
  if c.toNat < 0x20 ∧ c ∉ letters.map (·.2) then .unit c.toNat else .character c

theorem escape_letters : ∀ e ∈ letters, escape e.2 = ['\\', e.1] ∧ e.1 ≠ 'u' ∧
    escapedCharacter? e.1 = some e.2 ∧ pieceOf e.2 = .character e.2 := by decide

theorem hexNumber?_control : ∀ n < 0x20,
    hexNumber? ['0', '0', Nat.digitChar (n / 16), Nat.digitChar (n % 16)] = some n := by decide

/-- A letter after a backslash. -/
theorem takePieces?_letter {letter c : Char} (hletter : escapedCharacter? letter = some c)
    (hunit : letter ≠ 'u') (tail : List Char) : takePieces? ('\\' :: letter :: tail) =
      (takePieces? tail).map fun (pieces, rest) => (.character c :: pieces, rest) := by
  rw [takePieces?, hletter]
  · cases takePieces? tail <;> rfl
  · exact fun _ _ _ _ _ hu => absurd hu hunit

/-- Four hexadecimal digits after a backslash. -/
theorem takePieces?_unit {a b c d : Char} {n : Nat} (h : hexNumber? [a, b, c, d] = some n)
    (tail : List Char) : takePieces? ('\\' :: 'u' :: a :: b :: c :: d :: tail) =
      (takePieces? tail).map fun (pieces, rest) => (.unit n :: pieces, rest) := by
  rw [takePieces?, h]
  cases takePieces? tail <;> rfl

/-- A character that stands for itself. -/
theorem takePieces?_character {c : Char} (h : IsPlain c) (tail : List Char) :
    takePieces? (c :: tail) =
      (takePieces? tail).map fun (pieces, rest) => (.character c :: pieces, rest) := by
  obtain ⟨hquote, hbackslash, hcontrol⟩ := h
  rw [takePieces?, if_neg (not_or.2 ⟨hbackslash, Nat.not_lt.2 hcontrol⟩)]
  · cases takePieces? tail <;> rfl
  · exact hquote
  · exact fun _ _ _ _ _ hc => absurd hc hbackslash
  · exact fun _ _ hc => absurd hc hbackslash

/-- A character without a letter is named by number, or it stands for itself. -/
theorem escape_of_not_mem {c : Char} (h : c ∉ letters.map (·.2)) : escape c =
    if c.toNat < 0x20 then
      ['\\', 'u', '0', '0', Nat.digitChar (c.toNat / 16), Nat.digitChar (c.toNat % 16)]
    else [c] := by
  simp only [letters, List.map_cons, List.map_nil, List.mem_cons, List.not_mem_nil, or_false,
    not_or] at h
  obtain ⟨hquote, hbackslash, hn, hr, ht, hb, hf⟩ := h
  have hb : c.toNat ≠ 0x8 := fun hc => hb (by rw [← hc, Char.ofNat_toNat])
  have hf : c.toNat ≠ 0xc := fun hc => hf (by rw [← hc, Char.ofNat_toNat])
  rw [escape, if_neg hquote, if_neg hbackslash, if_neg hn, if_neg hr, if_neg ht, if_neg hb,
    if_neg hf]

theorem takePieces?_escape (c : Char) (tail : List Char) : takePieces? (escape c ++ tail) =
    (takePieces? tail).map fun (pieces, rest) => (pieceOf c :: pieces, rest) := by
  by_cases hletter : c ∈ letters.map (·.2)
  · obtain ⟨⟨letter, c⟩, hmem, rfl⟩ := List.mem_map.1 hletter
    obtain ⟨hescape, hunit, hcharacter, hpiece⟩ := escape_letters _ hmem
    rw [hescape, hpiece]
    exact takePieces?_letter hcharacter hunit tail
  · rw [escape_of_not_mem hletter, pieceOf]
    by_cases hcontrol : c.toNat < 0x20
    · rw [if_pos hcontrol, if_pos ⟨hcontrol, hletter⟩]
      exact takePieces?_unit (hexNumber?_control _ hcontrol) tail
    · rw [if_neg hcontrol, if_neg fun h => hcontrol h.1]
      refine takePieces?_character ⟨?_, ?_, Nat.le_of_not_lt hcontrol⟩ tail
      · rintro rfl
        exact hletter (by decide)
      · rintro rfl
        exact hletter (by decide)

theorem takePieces?_escaped (cs rest : List Char) :
    takePieces? (cs.flatMap escape ++ '"' :: rest) = some (cs.map pieceOf, rest) := by
  induction cs with
  | nil => rfl
  | cons c cs ih =>
    rw [List.flatMap_cons, List.append_assoc, takePieces?_escape, ih, Option.map_some,
      List.map_cons]

/-- A control character is no half of a surrogate pair. -/
theorem joinPieces?_unit {n : Nat} (h : n < 0x20) (pieces : List Piece) :
    joinPieces? (.unit n :: pieces) = (joinPieces? pieces).map (Char.ofNat n :: ·) := by
  have hhigh : isHighSurrogate n = false := by
    rw [isHighSurrogate, decide_eq_false (by omega), Bool.false_and]
  have hlow : isLowSurrogate n = false := by
    rw [isLowSurrogate, decide_eq_false (by omega), Bool.false_and]
  have hnone : (isHighSurrogate n || isLowSurrogate n) = false := by rw [hhigh, hlow, Bool.or_self]
  -- what comes next matters only to the first half of a pair
  rcases pieces with _ | ⟨_ | low, pieces⟩
  · show (if (isHighSurrogate n || isLowSurrogate n) = true then none else _) = _
    rw [hnone]
    rfl
  · show (if (isHighSurrogate n || isLowSurrogate n) = true then none else _) = _
    rw [hnone]
    rfl
  · show (if isHighSurrogate n = true then _ else if isLowSurrogate n = true then none else _) = _
    rw [hhigh, hlow]
    rfl

theorem joinPieces?_pieceOf (cs : List Char) : joinPieces? (cs.map pieceOf) = some cs := by
  induction cs with
  | nil => rfl
  | cons c cs ih =>
    rw [List.map_cons, pieceOf]
    by_cases hcontrol : c.toNat < 0x20 ∧ c ∉ letters.map (·.2)
    · rw [if_pos hcontrol, joinPieces?_unit hcontrol.1, ih, Option.map_some, Char.ofNat_toNat]
    · rw [if_neg hcontrol, joinPieces?, ih, Option.map_some]

/-- A quoted text is read back, whatever its characters. -/
theorem takeText?_escaped (s : String) (rest : List Char) :
    takeText? (s.toList.flatMap escape ++ '"' :: rest) = some (some s, rest) := by
  rw [takeText?, takePieces?_escaped, Option.map_some]
  show some ((joinPieces? _).map String.ofList, rest) = _
  rw [joinPieces?_pieceOf, Option.map_some, String.ofList_toList]

/-! ## Numerals -/

variable {ds cs : List Char}

/-- Digits end where something else begins. -/
theorem takeWhile_digits (hds : ∀ d ∈ ds, d.isDigit = true)
    (hcs : ∀ c, cs.head? = some c → c.isDigit = false) :
    (ds ++ cs).takeWhile Char.isDigit = ds ∧ (ds ++ cs).dropWhile Char.isDigit = cs := by
  rw [List.takeWhile_append_of_pos hds, List.dropWhile_append_of_pos hds]
  cases cs with
  | nil => exact ⟨List.append_nil _, rfl⟩
  | cons c cs =>
    have hc : ¬c.isDigit = true := by
      rw [hcs c rfl]
      exact Bool.false_ne_true
    rw [List.takeWhile_cons_of_neg hc, List.dropWhile_cons_of_neg hc]
    exact ⟨List.append_nil _, rfl⟩

theorem takeWhole?_digits (hne : ds ≠ []) (hds : ∀ d ∈ ds, d.isDigit = true)
    (hzero : ds.head? = some '0' → ds = ['0'])
    (hcs : ∀ c, cs.head? = some c → c.isDigit = false) :
    takeWhole? (ds ++ cs) = some (ds, cs) := by
  obtain ⟨htake, hdrop⟩ := takeWhile_digits hds hcs
  simp only [takeWhole?]
  rw [htake, hdrop]
  split
  · exact absurd rfl hne
  case h_2 d ds => exact absurd (hzero rfl) (by simp)
  · rfl

theorem takeFraction?_digits (hds : ∀ d ∈ ds, d.isDigit = true)
    (hcs : ∀ c, cs.head? = some c → c.isDigit = false ∧ c ≠ '.') :
    takeFraction? ((if ds.isEmpty then [] else '.' :: ds) ++ cs) = some (ds, cs) := by
  cases ds with
  | nil =>
    rw [List.isEmpty_nil, if_pos rfl, List.nil_append]
    unfold takeFraction?
    split
    case h_1 => exact absurd rfl (hcs '.' rfl).2
    case h_2 => rfl
  | cons d ds =>
    obtain ⟨htake, hdrop⟩ := takeWhile_digits hds fun c hc => (hcs c hc).1
    rw [List.isEmpty_cons, if_neg Bool.false_ne_true, List.cons_append, takeFraction?, htake, hdrop]
    rfl

/-- The characters of an exponent, if there is one. -/
def exponentText : Option Int → List Char
  | none => []
  | some e => Numeral.exponentCharacters true e

/-- The digits of an exponent after its sign. -/
theorem takeExponent?_digits (signed : List Char) {negative : Bool} {n : Nat}
    (h : takeSign signed = (negative, Numeral.digits n)) : takeExponent? ('e' :: signed) =
      some (some (if negative then -(n : Int) else n), []) := by
  have hdigits : ∀ d ∈ Numeral.digits n, d.isDigit = true := fun _ => Numeral.isDigit_of_mem_digits
  have hend : ∀ c, ([] : List Char).head? = some c → c.isDigit = false := fun _ hc => nomatch hc
  obtain ⟨htake, hdrop⟩ := takeWhile_digits hdigits hend
  rw [List.append_nil] at htake hdrop
  have hne : ¬(Numeral.digits n).isEmpty = true := by
    rw [List.isEmpty_iff]
    exact Numeral.digits_ne_nil n
  rw [takeExponent?, if_pos (.inl rfl), h]
  simp only [htake, hdrop, digitsValue_digits]
  rw [if_neg hne]

theorem takeExponent?_exponentText (e : Option Int) :
    takeExponent? (exponentText e) = some (e, []) := by
  cases e with
  | none => rfl
  | some e =>
    cases e with
    | ofNat e => exact takeExponent?_digits ('+' :: Numeral.digits e) rfl
    | negSucc e => exact takeExponent?_digits ('-' :: Numeral.digits (e + 1)) rfl

/-- What begins an exponent is neither a digit nor a point. -/
theorem head?_exponentText {e : Option Int} {c : Char} (h : (exponentText e).head? = some c) :
    c.isDigit = false ∧ c ≠ '.' := by
  rcases e with _ | _ | _
  · exact nomatch h
  · exact Option.some.inj h ▸ by decide
  · exact Option.some.inj h ▸ by decide

theorem takeBody?_characters {n : Numeral} (h : n.WellFormed) :
    takeBody? n.negative (n.whole ++ ((if n.fraction.isEmpty then [] else '.' :: n.fraction) ++
      exponentText n.exponent)) = some (n, []) := by
  refine takeBody?_eq_some.2 ⟨n.whole, _, n.fraction, _, n.exponent, ?_,
    takeFraction?_digits h.fraction fun _ => head?_exponentText,
    takeExponent?_exponentText n.exponent, rfl⟩
  refine takeWhole?_digits h.whole_ne_nil h.whole h.leading_zero fun c hc => ?_
  by_cases hfraction : n.fraction.isEmpty = true
  · rw [if_pos hfraction] at hc
    exact (head?_exponentText hc).1
  · rw [if_neg hfraction] at hc
    exact Option.some.inj hc ▸ rfl

/-- A numeral is read back. -/
theorem takeNumeral?_characters {n : Numeral} (h : n.WellFormed) :
    takeNumeral? (n.characters true) = some (n, []) := by
  have hbody := takeBody?_characters h
  have hcharacters : n.characters true = (if n.negative then ['-'] else []) ++
      (n.whole ++ ((if n.fraction.isEmpty then [] else '.' :: n.fraction) ++
        exponentText n.exponent)) := by
    rw [Numeral.characters, List.append_assoc, List.append_assoc]
    rfl
  rw [hcharacters]
  cases hnegative : n.negative with
  | true =>
    rw [hnegative] at hbody
    exact (takeNumeral?_minus _).trans hbody
  | false =>
    rw [hnegative] at hbody
    obtain ⟨d, whole, hwhole⟩ := List.exists_cons_of_ne_nil h.whole_ne_nil
    have hd : d ≠ '-' := by
      rintro rfl
      exact absurd (h.whole '-' (hwhole ▸ List.mem_cons_self)) (by decide)
    rw [hwhole] at hbody ⊢
    exact (takeNumeral?_of_ne hd _).trans hbody

/-- All numbers are written as numerals that may stand in a text. -/
theorem Number.wellFormed_numeral (number : Number) : number.numeral.WellFormed := by
  cases number with
  | float x => exact Layout.wellFormed_json _ _
  | integer n =>
    refine ⟨⟨fun _ => Numeral.isDigit_of_mem_digits, fun _ hd => nomatch hd⟩,
      Numeral.digits_ne_nil _, fun hzero => ?_⟩
    by_cases hn : n.natAbs = 0
    · show Numeral.digits n.natAbs = _
      rw [hn]
      rfl
    · exact absurd hzero (Numeral.head?_digits (Nat.pos_of_ne_zero hn))

/-! ## Tokens -/

namespace Scans

variable {rest : List Char} {ts : List Token}

theorem null (h : Scans rest ts) : Scans ("null".toList ++ rest) (.null :: ts) :=
  token rfl rfl (List.suffix_append _ rest).length_le h

theorem boolean (b : Bool) (h : Scans rest ts) :
    Scans (Token.characters (.boolean b) ++ rest) (.boolean b :: ts) := by
  cases b with
  | true => exact token rfl rfl (List.suffix_append _ rest).length_le h
  | false => exact token rfl rfl (List.suffix_append _ rest).length_le h

theorem quoted (s : String) (h : Scans rest ts) :
    Scans (quoted s ++ rest) (.text (some s) :: ts) := by
  have htake : takeText? (s.toList.flatMap escape ++ ['"'] ++ rest) = some (some s, rest) := by
    rw [List.append_assoc]
    exact takeText?_escaped s rest
  show Scans ('"' :: (s.toList.flatMap escape ++ ['"'] ++ rest)) _
  refine token rfl ?_ (List.suffix_append _ rest).length_le h
  rw [Token.take?, show Token.ofMark? '"' = none from by decide]
  show (takeText? _).map _ = _
  rw [htake, Option.map_some]

theorem number (n : Number) (hrest : Boundary rest) (h : Scans rest ts) :
    Scans (n.numeral.characters true ++ rest) (.numeral n.numeral :: ts) :=
  numeral (takeNumeral?_characters n.wellFormed_numeral) hrest h

end Scans

/-! ## Values -/

namespace Value

mutual

/-- The document of a value. -/
def document : Value → Document
  | .null => .null
  | .boolean b => .boolean b
  | .number n => .numeral n.numeral
  | .text s => .text (some s)
  | .array items => .array (itemDocuments items)
  | .object fields => .object (fieldDocuments fields)

/-- The documents of values. -/
def itemDocuments : List Value → List Document
  | [] => []
  | v :: vs => v.document :: itemDocuments vs

/-- The documents of fields. -/
def fieldDocuments : List (String × Value) → List (Option String × Document)
  | [] => []
  | (key, v) :: rest => (some key, v.document) :: fieldDocuments rest

end

theorem itemDocuments_eq_map (items : List Value) : itemDocuments items = items.map document := by
  induction items with
  | nil => rfl
  | cons v vs ih => rw [itemDocuments, ih, List.map_cons]

theorem fieldDocuments_eq_map (fields : List (String × Value)) :
    fieldDocuments fields = fields.map fun e => (some e.1, e.2.document) := by
  induction fields with
  | nil => rfl
  | cons field rest ih =>
    obtain ⟨key, v⟩ := field
    rw [fieldDocuments, ih, List.map_cons]

mutual

/-- A value and its document have the same tokens. -/
theorem tokens_document (v : Value) : v.document.tokens = v.tokens := by
  cases v with
  | null => rfl
  | boolean b => rfl
  | number n => rfl
  | text s => rfl
  | array items => rw [document, Document.tokens, itemTokens_documents, tokens]
  | object fields => rw [document, Document.tokens, fieldTokens_documents, tokens]

theorem itemTokens_documents (first : Bool) (items : List Value) :
    Document.itemTokens first (itemDocuments items) = itemTokens first items := by
  cases items with
  | nil => rfl
  | cons v vs =>
    rw [itemDocuments, Document.itemTokens, tokens_document v, itemTokens_documents false vs,
      itemTokens]

theorem fieldTokens_documents (first : Bool) (fields : List (String × Value)) :
    Document.fieldTokens first (fieldDocuments fields) = fieldTokens first fields := by
  cases fields with
  | nil => rfl
  | cons field rest =>
    obtain ⟨key, v⟩ := field
    rw [fieldDocuments, Document.fieldTokens, tokens_document v, fieldTokens_documents false rest,
      fieldTokens]

end

/-! ## Reading a value back -/

variable {rest : List Char} {ts : List Token}

theorem scans_comma (first : Bool) (h : Scans rest ts) :
    Scans ((if first then [] else [Token.comma]).flatMap Token.characters ++ rest)
      ((if first then [] else [.comma]) ++ ts) := by
  cases first with
  | true => exact h
  | false => exact .mark rfl rfl h

/-- After an item a comma follows, or what ends the items. -/
theorem boundary_itemTokens (items : List Value) (hrest : Boundary rest) :
    Boundary ((itemTokens false items).flatMap Token.characters ++ rest) := by
  cases items with
  | nil => exact hrest
  | cons v vs => exact boundary_cons (c := ',') (by decide) _

theorem boundary_fieldTokens (fields : List (String × Value)) (hrest : Boundary rest) :
    Boundary ((fieldTokens false fields).flatMap Token.characters ++ rest) := by
  cases fields with
  | nil => exact hrest
  | cons field fields => exact boundary_cons (c := ',') (by decide) _

mutual

/-- The text of a value is split into the tokens of the value. -/
theorem scans_tokens (v : Value) {rest : List Char} {ts : List Token} (hrest : Boundary rest)
    (h : Scans rest ts) : Scans (v.tokens.flatMap Token.characters ++ rest) (v.tokens ++ ts) := by
  cases v with
  | null => exact .null h
  | boolean b =>
    rw [tokens, List.flatMap_singleton]
    exact .boolean b h
  | number n =>
    rw [tokens, List.flatMap_singleton]
    exact .number n hrest h
  | text s =>
    rw [tokens, List.flatMap_singleton]
    exact .quoted s h
  | array items =>
    rw [tokens, List.flatMap_append, List.flatMap_cons, List.append_assoc, List.append_assoc,
      List.append_assoc]
    have hclose : Scans (']' :: rest) (.closeBracket :: ts) := .mark rfl rfl h
    exact .mark rfl rfl (scans_itemTokens true items (boundary_cons (by decide) _) hclose)
  | object fields =>
    rw [tokens, List.flatMap_append, List.flatMap_cons, List.append_assoc, List.append_assoc,
      List.append_assoc]
    have hclose : Scans (Char.ofNat 0x7d :: rest) (.closeBrace :: ts) := .mark rfl rfl h
    exact .mark rfl rfl (scans_fieldTokens true fields (boundary_cons (by decide) _) hclose)

theorem scans_itemTokens (first : Bool) (items : List Value) {rest : List Char} {ts : List Token}
    (hrest : Boundary rest) (h : Scans rest ts) :
    Scans ((itemTokens first items).flatMap Token.characters ++ rest)
      (itemTokens first items ++ ts) := by
  cases items with
  | nil => exact h
  | cons v vs =>
    rw [itemTokens, List.flatMap_append, List.flatMap_append, List.append_assoc, List.append_assoc,
      List.append_assoc, List.append_assoc]
    exact scans_comma first
      (scans_tokens v (boundary_itemTokens vs hrest) (scans_itemTokens false vs hrest h))

theorem scans_fieldTokens (first : Bool) (fields : List (String × Value)) {rest : List Char}
    {ts : List Token} (hrest : Boundary rest) (h : Scans rest ts) :
    Scans ((fieldTokens first fields).flatMap Token.characters ++ rest)
      (fieldTokens first fields ++ ts) := by
  cases fields with
  | nil => exact h
  | cons field fields =>
    obtain ⟨key, v⟩ := field
    have hvalue := scans_tokens v (boundary_fieldTokens fields hrest)
      (scans_fieldTokens false fields hrest h)
    have hfield := Scans.quoted key (.mark (c := ':') rfl rfl hvalue)
    rw [fieldTokens]
    simp only [List.flatMap_append, List.flatMap_cons, List.append_assoc, List.cons_append]
    exact scans_comma first hfield

end

end Value

/-- What is written is read back. -/
theorem Document.read?_render (v : Value) : Document.read? v.render = some v.document := by
  have hscan : Token.scan? v.characters = some v.tokens := by
    have h := Value.scans_tokens v boundary_nil Scans.nil
    rw [List.append_nil, List.append_nil] at h
    exact h.scan?
  rw [Document.read?, Value.render, String.toList_ofList, hscan, Option.bind_some,
    ← Value.tokens_document, Document.ofTokens?_tokens]

end OpticalBench.Json
