import OpticalBench.Json.Value
import OpticalBench.Proofs.Text.Offset

/-!
# The size of texts in JSON

Between its quotes a text takes at least as many bytes as it has, with or without escapes, and the
quotes come on top of that. So a JSON text that is read as a text is longer than what is read.

- `takePieces?_size`, `joinPieces?_size`: the size of what stands between the quotes.
- `IsInside`: a state of the reader from which a lone text is not reached any more.
- `utf8ByteSize_of_read?`: what is read is at least two bytes shorter.
-/

namespace OpticalBench.Json

open Text

/-! ## Between the quotes -/

/-- The least number of bytes that a part of a quoted text is written with. -/
def Piece.size : Piece → Nat
  | .character c => c.utf8Size
  | .unit _ => 6

/-- The least number of bytes that the parts of a quoted text are written with. -/
def sizeOfPieces : List Piece → Nat
  | [] => 0
  | p :: ps => p.size + sizeOfPieces ps

@[simp] theorem sizeOfPieces_nil : sizeOfPieces [] = 0 := rfl

@[simp] theorem sizeOfPieces_character (c : Char) (ps : List Piece) :
    sizeOfPieces (.character c :: ps) = c.utf8Size + sizeOfPieces ps := rfl

@[simp] theorem sizeOfPieces_unit (n : Nat) (ps : List Piece) :
    sizeOfPieces (.unit n :: ps) = 6 + sizeOfPieces ps := rfl

theorem utf8Size_quote : '"'.utf8Size = 1 := by decide

theorem utf8Size_backslash : '\\'.utf8Size = 1 := by decide

/-- What a letter stands for in an escape has a single byte. -/
theorem utf8Size_of_escapedCharacter? {c e : Char} (h : escapedCharacter? c = some e) :
    e.utf8Size = 1 := by
  unfold escapedCharacter? at h
  split at h
  case isTrue hself =>
    obtain rfl := Option.some.inj h
    rcases hself with rfl | rfl | rfl <;> decide
  case isFalse =>
    repeat' split at h
    all_goals cases h
    all_goals decide

theorem takePieces?_size {cs rest : List Char} {ps : List Piece}
    (h : takePieces? cs = some (ps, rest)) :
    sizeOfPieces ps + 1 + byteSize rest ≤ byteSize cs := by
  fun_induction takePieces? cs generalizing ps with
  | case1 => exact nomatch h
  | case2 rest =>
    obtain ⟨rfl, rfl⟩ := Prod.mk.inj (Option.some.inj h)
    simp [utf8Size_quote]
  | case3 a b c d rest ih =>
    obtain ⟨n, -, h⟩ := Option.bind_eq_some_iff.1 h
    obtain ⟨⟨pieces, after⟩, hpieces, h⟩ := Option.bind_eq_some_iff.1 h
    obtain ⟨rfl, rfl⟩ := Prod.mk.inj (Option.some.inj h)
    have hrest := ih hpieces
    -- the four digits are characters too, of one byte or more
    have ha := a.utf8Size_pos
    have hb := b.utf8Size_pos
    have hc := c.utf8Size_pos
    have hd := d.utf8Size_pos
    have hu : 'u'.utf8Size = 1 := by decide
    simp only [sizeOfPieces_unit, byteSize_cons, utf8Size_backslash, hu]
    omega
  | case4 c rest _ ih =>
    obtain ⟨e, he, h⟩ := Option.bind_eq_some_iff.1 h
    obtain ⟨⟨pieces, after⟩, hpieces, h⟩ := Option.bind_eq_some_iff.1 h
    obtain ⟨rfl, rfl⟩ := Prod.mk.inj (Option.some.inj h)
    have hrest := ih hpieces
    simp only [sizeOfPieces_character, byteSize_cons, utf8Size_of_escapedCharacter? he,
      utf8Size_backslash]
    omega
  | case5 => exact nomatch h
  | case6 c rest _ _ _ _ ih =>
    obtain ⟨⟨pieces, after⟩, hpieces, h⟩ := Option.bind_eq_some_iff.1 h
    obtain ⟨rfl, rfl⟩ := Prod.mk.inj (Option.some.inj h)
    have hrest := ih hpieces
    simp only [sizeOfPieces_character, byteSize_cons]
    omega

/-- A character that is put in front adds its bytes. -/
theorem byteSize_of_map_cons {c : Char} {cs : List Char} {joined? : Option (List Char)} {n : Nat}
    (h : joined?.map (c :: ·) = some cs) (hjoined : ∀ {ds}, joined? = some ds → byteSize ds ≤ n) :
    byteSize cs ≤ c.utf8Size + n := by
  obtain ⟨ds, hds, rfl⟩ := Option.map_eq_some_iff.1 h
  exact Nat.add_le_add_left (hjoined hds) _

/-- A character has four bytes at most. -/
theorem byteSize_of_map_cons_le {c : Char} {cs : List Char} {joined? : Option (List Char)} {n : Nat}
    (h : joined?.map (c :: ·) = some cs) (hjoined : ∀ {ds}, joined? = some ds → byteSize ds ≤ n) :
    byteSize cs ≤ 4 + n :=
  Nat.le_trans (byteSize_of_map_cons h hjoined) (Nat.add_le_add_right c.utf8Size_le_four n)

/-- A surrogate pair is written with twelve bytes and any other number with six, more than the four
bytes that a character has at most. -/
theorem joinPieces?_size {ps : List Piece} {cs : List Char} (h : joinPieces? ps = some cs) :
    byteSize cs ≤ sizeOfPieces ps := by
  fun_induction joinPieces? ps generalizing cs with
  | case1 =>
    obtain rfl := Option.some.inj h
    exact Nat.le_refl _
  | case2 c rest ih => exact byteSize_of_map_cons h ih
  | case3 high low rest _ _ n =>
    rename_i ih
    have hcs := byteSize_of_map_cons_le h ih
    simp only [sizeOfPieces_unit]
    omega
  | case4 => exact nomatch h
  | case5 => exact nomatch h
  | case6 high low rest _ _ ih =>
    have hcs := byteSize_of_map_cons_le h ih
    simp only [sizeOfPieces_unit] at hcs ⊢
    omega
  | case7 => exact nomatch h
  | case8 n rest _ _ ih =>
    have hcs := byteSize_of_map_cons_le h ih
    simp only [sizeOfPieces_unit]
    omega

theorem takeText?_size {cs rest : List Char} {content : String}
    (h : takeText? cs = some (some content, rest)) :
    content.utf8ByteSize + 1 + byteSize rest ≤ byteSize cs := by
  obtain ⟨⟨pieces, after⟩, hpieces, h⟩ := Option.map_eq_some_iff.1 h
  obtain ⟨hjoined, rfl⟩ := Prod.mk.inj h
  obtain ⟨joined, hpiece, rfl⟩ := Option.map_eq_some_iff.1 hjoined
  have hcontent := joinPieces?_size hpiece
  have htaken := takePieces?_size hpieces
  rw [utf8ByteSize_ofList]
  omega

/-! ## Tokens -/

namespace Token

theorem ofMark?_ne_text (c : Char) (content : Option String) : ofMark? c ≠ some (text content) := by
  unfold ofMark?
  repeat' split
  all_goals simp

theorem takeWord?_ne_text (cs rest : List Char) (content : Option String) :
    takeWord? cs ≠ some (text content, rest) := by
  intro h
  simp [takeWord?] at h

/-- A text has its bytes and two quotes. -/
theorem take?_size {cs rest : List Char} {content : String}
    (h : take? cs = some (text (some content), rest)) :
    content.utf8ByteSize + 2 + byteSize rest ≤ byteSize cs := by
  unfold take? at h
  split at h
  case h_1 => exact nomatch h
  case h_2 c cs =>
    split at h
    case h_1 mark hmark =>
      obtain ⟨rfl, rfl⟩ := Prod.mk.inj (Option.some.inj h)
      exact absurd hmark (ofMark?_ne_text c _)
    case h_2 =>
      split at h
      case isTrue hc =>
        obtain ⟨⟨content', after⟩, htaken, h⟩ := Option.map_eq_some_iff.1 h
        obtain ⟨hcontent, rfl⟩ := Prod.mk.inj h
        obtain rfl := Token.text.inj hcontent
        have hsize := takeText?_size htaken
        rw [hc, byteSize_cons, utf8Size_quote]
        omega
      case isFalse =>
        split at h
        case isTrue =>
          obtain ⟨⟨n, after⟩, -, h⟩ := Option.map_eq_some_iff.1 h
          exact nomatch (Prod.mk.inj h).1
        case isFalse => exact absurd h (takeWord?_ne_text _ _ _)

/-- The same for the first token of a text, spaces in front of it or not. -/
theorem scanWithin?_size {fuel : Nat} {cs : List Char} {content : String} {ts : List Token}
    (h : scanWithin? fuel cs = some (text (some content) :: ts)) :
    content.utf8ByteSize + 2 ≤ byteSize cs := by
  fun_induction scanWithin? fuel cs with
  | case1 => exact nomatch h
  | case2 => exact nomatch h
  | case3 fuel c cs _ ih => exact Nat.le_trans (ih h) (Nat.le_add_left _ _)
  | case4 fuel c cs _ _ =>
    obtain ⟨⟨t, rest⟩, htaken, h⟩ := Option.bind_eq_some_iff.1 h
    obtain ⟨tokens, -, h⟩ := Option.bind_eq_some_iff.1 h
    obtain ⟨rfl, rfl⟩ := List.cons.inj (Option.some.inj h)
    exact Nat.le_trans (Nat.le_add_right _ _) (take?_size htaken)

end Token

/-! ## Lone texts -/

namespace Document

/-- A state that does not lead to a lone text: the reader is inside an array or an object, or it has read
something else. -/
def IsInside : State → Prop
  | .value stack => stack ≠ []
  | .complete d stack => stack = [] → ∀ content, d ≠ .text content
  | _ => True

/-- A token is a value by itself, or it opens an array or an object. -/
theorem begin?_cases {stack : List Frame} {t : Token} {s : State} (h : begin? stack t = some s) :
    (∃ d, s = .complete d stack ∧ ∀ content, d = .text content → t = .text content) ∨
      s = .firstItem stack ∨ s = .firstKey stack := by
  cases t
  case null | boolean | numeral =>
    obtain rfl := Option.some.inj h
    exact .inl ⟨_, rfl, fun _ heq => nomatch heq⟩
  case text content =>
    obtain rfl := Option.some.inj h
    refine .inl ⟨_, rfl, fun content' heq => ?_⟩
    rw [Document.text.inj heq]
  case openBracket => exact .inr (.inl (Option.some.inj h).symm)
  case openBrace => exact .inr (.inr (Option.some.inj h).symm)
  all_goals cases h

theorem begin?_isInside {stack : List Frame} {t : Token} {s : State} (hstack : stack ≠ [])
    (h : begin? stack t = some s) : IsInside s := by
  rcases begin?_cases h with ⟨d, rfl, -⟩ | rfl | rfl
  · exact fun hnil => absurd hnil hstack
  · trivial
  · trivial

theorem continue?_isInside {d : Document} {stack : List Frame} {t : Token} {s : State}
    (h : continue? d stack t = some s) : IsInside s := by
  unfold continue? at h
  split at h
  case h_1 =>
    obtain rfl := Option.some.inj h
    exact List.cons_ne_nil _ _
  case h_3 =>
    obtain rfl := Option.some.inj h
    trivial
  case h_2 | h_4 =>
    obtain rfl := Option.some.inj h
    exact fun _ _ heq => nomatch heq
  case h_5 => exact nomatch h

theorem step?_isInside {s s' : State} {t : Token} (hs : IsInside s) (h : step? s t = some s') :
    IsInside s' := by
  unfold step? at h
  split at h
  case h_1 => exact begin?_isInside hs h
  case h_3 => exact begin?_isInside (List.cons_ne_nil _ _) h
  case h_11 => exact continue?_isInside h
  case h_2 | h_4 =>
    obtain rfl := Option.some.inj h
    exact fun _ _ heq => nomatch heq
  case h_5 | h_7 =>
    obtain rfl := Option.some.inj h
    trivial
  case h_9 =>
    obtain rfl := Option.some.inj h
    exact List.cons_ne_nil _ _
  case h_6 | h_8 | h_10 => exact nomatch h

theorem foldlM_isInside {ts : List Token} {s s' : State} (hs : IsInside s)
    (h : ts.foldlM step? s = some s') : IsInside s' := by
  induction ts generalizing s with
  | nil =>
    obtain rfl := Option.some.inj h
    exact hs
  | cons t ts ih =>
    rw [List.foldlM_cons] at h
    obtain ⟨next, hnext, h⟩ := Option.bind_eq_some_iff.1 h
    exact ih (step?_isInside hs hnext) h

/-- Nothing follows a lone value. -/
theorem step?_complete_nil (d : Document) (t : Token) : step? (.complete d []) t = none := by
  cases t <;> rfl

/-- A text comes of one token. -/
theorem eq_of_ofTokens?_text {ts : List Token} {content : Option String}
    (h : ofTokens? ts = some (.text content)) : ts = [.text content] := by
  have hrun : ts.foldlM step? (.value []) = some (.complete (.text content) []) := by
    unfold ofTokens? at h
    split at h
    case h_1 d hd => rw [hd, Option.some.inj h]
    case h_2 => exact nomatch h
  cases ts with
  | nil => exact nomatch hrun
  | cons t ts =>
    rw [List.foldlM_cons] at hrun
    obtain ⟨next, hnext, hrun⟩ := Option.bind_eq_some_iff.1 hrun
    have houtside : ¬IsInside next := fun hinside => foldlM_isInside hinside hrun rfl content rfl
    rcases begin?_cases hnext with ⟨d, rfl, htext⟩ | rfl | rfl
    · cases ts with
      | nil =>
        obtain ⟨rfl, -⟩ := State.complete.inj (Option.some.inj hrun)
        rw [htext content rfl]
      | cons t' ts =>
        rw [List.foldlM_cons, step?_complete_nil] at hrun
        exact nomatch hrun
    · exact absurd trivial houtside
    · exact absurd trivial houtside

end Document

/-! ## Texts -/

theorem Value.ofDocument?_text {budget : Nat} {d : Document} {t : String}
    (h : ofDocument? budget d = some (.text t)) : d = .text (some t) := by
  cases d
  case null | boolean => cases h
  case numeral =>
    obtain ⟨_, -, h⟩ := Option.map_eq_some_iff.1 h
    exact nomatch h
  case text content =>
    obtain ⟨_, rfl, htext⟩ := Option.map_eq_some_iff.1 h
    rw [Value.text.inj htext]
  case array | object =>
    unfold ofDocument? at h
    split at h
    · exact nomatch h
    · obtain ⟨_, -, h⟩ := Option.map_eq_some_iff.1 h
      exact nomatch h

/-- A JSON text that is read as a text has two bytes more at least. -/
theorem Value.utf8ByteSize_of_read? {s t : String} (h : Value.read? s = some (.text t)) :
    t.utf8ByteSize + 2 ≤ s.utf8ByteSize := by
  obtain ⟨d, hd, h⟩ := Option.bind_eq_some_iff.1 h
  obtain rfl := ofDocument?_text h
  obtain ⟨ts, hts, hd⟩ := Option.bind_eq_some_iff.1 hd
  obtain rfl := Document.eq_of_ofTokens?_text hd
  rw [← byteSize_toList s]
  exact Token.scanWithin?_size hts

end OpticalBench.Json
