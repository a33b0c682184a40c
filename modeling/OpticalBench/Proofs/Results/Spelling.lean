import Mathlib.Data.List.Infix
import OpticalBench.Proofs.Json.Reading
import OpticalBench.Proofs.Json.Scanning
import OpticalBench.Results.DictLiteral

/-!
# Spellings of dictionary literals

A dictionary literal is normalized by rewriters that know nothing of its structure. Here they are
followed through the parts of a literal, and it is shown that they change the notation only: every
spelling of some entries is normalized to the same JSON text.

- `Entry`, `Style`: a label with a number, and the notation that they are written in.
- `Layout`: the marks of a literal; `Layout.text` puts them around the entries.
- `Wrapper`: what a literal is wrapped in.
- `normalize_spelled`: a spelling is normalized to the text in JSON notation.
-/

namespace OpticalBench.DictLiteral

open Json Text

/-! ## Entries and their notation -/

/-- A label without characters or words that are notation. -/
structure PlainLabel (label : List Char) : Prop where
  plain : ∀ c ∈ label, IsPlain c
  no_quote : '\'' ∉ label
  no_true : ¬"True".toList <:+: label
  no_false : ¬"False".toList <:+: label
  no_none : ¬"None".toList <:+: label
  no_scalar : ¬"np.".toList <:+: label

instance (label : List Char) : Decidable (PlainLabel label) :=
  decidable_of_iff ((label.all fun c => decide (IsPlain c)) = true ∧ '\'' ∉ label ∧
      ¬"True".toList <:+: label ∧ ¬"False".toList <:+: label ∧ ¬"None".toList <:+: label ∧
      ¬"np.".toList <:+: label) <| by
    rw [List.all_eq_true]
    constructor
    · rintro ⟨plain, no_quote, no_true, no_false, no_none, no_scalar⟩
      exact ⟨fun c hc => of_decide_eq_true (plain c hc), no_quote, no_true, no_false, no_none,
        no_scalar⟩
    · rintro ⟨plain, no_quote, no_true, no_false, no_none, no_scalar⟩
      exact ⟨fun c hc => decide_eq_true (plain c hc), no_quote, no_true, no_false, no_none,
        no_scalar⟩

/-- A label, and a number as JSON texts write it: the text is a numeral as a whole, and that is in
range. -/
structure Entry where
  label : String
  plain : PlainLabel label.toList
  text : String
  numeral : Numeral
  taken : takeNumeral? text.toList = some (numeral, [])
  number : Number
  denotes : Number.ofNumeral? numeral = some number

/-- The notation of an entry: its quotes, and the name of the numpy scalar around its number, if there
is one. -/
structure Style where
  quote : Char
  quote_eq : quote = '\'' ∨ quote = '"'
  scalar : Option (List Char)
  name : ∀ cs, scalar = some cs → ∀ c ∈ cs, isNameCharacter c = true

/-- A number in its notation. -/
def Style.number (s : Style) (number : List Char) : List Char :=
  match s.scalar with
  | none => number
  | some name => "np.".toList ++ name ++ '(' :: number ++ [')']

/-- The marks of a literal: at its ends, around each entry, and between label and number. -/
structure Layout where
  start : List Char
  opening : List Char
  middle : List Char
  closing : List Char
  stop : List Char

namespace Layout

/-- A dictionary, or an object in JSON. -/
def dict : Layout := ⟨['\x7b'], [], [':', ' '], [], ['\x7d']⟩

/-- A list of pairs. -/
def pairs : Layout := ⟨['['], ['('], [',', ' '], [')'], [']']⟩

/-- A list of lists of two. -/
def lists : Layout := ⟨['['], ['['], [',', ' '], [']'], [']']⟩

variable {α : Type}

/-- One entry with its marks. -/
def item (l : Layout) (quote : Char) (label number : List Char) : List Char :=
  l.opening ++ ([quote] ++ (label ++ [quote]) ++ l.middle ++ number) ++ l.closing

/-- Entries with their marks. -/
def text (l : Layout) (quote : α → Char) (label number : α → List Char) (xs : List α) :
    List Char :=
  l.start ++ separated [',', ' '] (fun x => l.item (quote x) (label x) (number x)) xs ++ l.stop

/-- Entries, each in its notation. -/
def spelled (l : Layout) (xs : List (Entry × Style)) : List Char :=
  l.text (fun x => x.2.quote) (fun x => x.1.label.toList) (fun x => x.2.number x.1.text.toList) xs

/-- Entries in the notation of JSON. -/
def plain (l : Layout) (xs : List (Entry × Style)) : List Char :=
  l.text (fun _ => '"') (fun x => x.1.label.toList) (fun x => x.1.text.toList) xs

/-- Every mark of a literal, with those between the entries. -/
def marks (l : Layout) : List Char :=
  l.start ++ l.opening ++ l.middle ++ l.closing ++ l.stop ++ [',', ' ']

end Layout

/-- What a literal is wrapped in. -/
inductive Wrapper
  | bare
  | dict
  | ordered

/-- A literal in its wrapper. -/
def Wrapper.wrap : Wrapper → List Char → List Char
  | bare, cs => cs
  | dict, cs => "dict(".toList ++ (cs ++ [')'])
  | ordered, cs => "OrderedDict(".toList ++ (cs ++ [')'])

/-! ## Rewriters and layouts -/

variable {R : List Char → List Char}

/-- A rewriter turns the marks of one layout into those of another. -/
structure Layout.Turns (R : List Char → List Char) (l l' : Layout) : Prop where
  start : Text.Turns R l.start l'.start
  opening : Text.Turns R l.opening l'.opening
  middle : Text.Turns R l.middle l'.middle
  closing : Text.Turns R l.closing l'.closing
  stop : Text.Turns R l.stop l'.stop
  separator : Text.Turns R [',', ' '] [',', ' ']

/-- Marks are kept if no occurrence can start at one of them. -/
theorem Layout.Turns.of_not_mem {a : Char} {p : List Char} {l : Layout} (hR : PassesOver R (a :: p))
    (h : a ∉ l.marks) : l.Turns R l := by
  simp only [Layout.marks, List.mem_append, not_or] at h
  obtain ⟨⟨⟨⟨⟨hstart, hopening⟩, hmiddle⟩, hclosing⟩, hstop⟩, hseparator⟩ := h
  exact ⟨.of_not_mem hR hstart, .of_not_mem hR hopening, .of_not_mem hR hmiddle,
    .of_not_mem hR hclosing, .of_not_mem hR hstop, .of_not_mem hR hseparator⟩

/-- What a rewriter does to a literal is what it does to its parts. -/
theorem Layout.Turns.text {α : Type} {l l' : Layout} {quote quote' : α → Char}
    {label number number' : α → List Char} {xs : List α} (hl : l.Turns R l')
    (hquote : ∀ x ∈ xs, Text.Turns R [quote x] [quote' x])
    (hlabel : ∀ x ∈ xs, Text.Turns R (label x ++ [quote x]) (label x ++ [quote' x]))
    (hnumber : ∀ x ∈ xs, Text.Turns R (number x) (number' x)) :
    Text.Turns R (l.text quote label number xs) (l'.text quote' label number' xs) := by
  refine (hl.start.append (.separated hl.separator fun x hx => ?_)).append hl.stop
  have hitem := (((hquote x hx).append (hlabel x hx)).append hl.middle).append (hnumber x hx)
  exact (hl.opening.append hitem).append hl.closing

/-! ## What the rewriters look for -/

theorem passesOver_swap (old new : Char) : PassesOver (swap old new) [old] :=
  passesOver_map fun _ hc => if_neg hc

theorem turns_swap_self (old new : Char) : Text.Turns (swap old new) [old] [new] := by
  intro rest
  rw [List.singleton_append, swap, List.map_cons, if_pos rfl]
  rfl

theorem scalar?_eq_none {cs : List Char} (h : ¬"np.".toList <+: cs) : scalar? cs = none := by
  rw [scalar?, afterFront?_eq_none h, Option.map_none]

theorem passesOver_unwrapScalars : PassesOver unwrapScalars "np.".toList := by
  intro c cs h
  rw [unwrapScalars, unwrapFrom, scalar?_eq_none h]
  rfl

/-- Characters that are to be passed are dropped. -/
theorem unwrapFrom_eq (skip : Nat) (cs : List Char) :
    unwrapFrom skip cs = unwrapScalars (cs.drop skip) := by
  induction skip generalizing cs with
  | zero => rfl
  | succ skip ih =>
    cases cs with
    | nil => rfl
    | cons c cs => exact ih cs

theorem scalar?_call {name number : List Char} (hname : ∀ c ∈ name, isNameCharacter c = true)
    (hnumber : ')' ∉ number) (rest : List Char) :
    scalar? ("np.".toList ++ (name ++ '(' :: (number ++ ')' :: rest))) =
      some (number, 3 + name.length + 1 + number.length + 1) := by
  have hopen : isNameCharacter '(' = false := by decide
  have hargument : ∀ c ∈ number, (c != ')') = true := by
    intro c hc
    rw [bne_iff_ne]
    rintro rfl
    exact hnumber hc
  have htake : (number ++ ')' :: rest).takeWhile (· != ')') = number := by
    rw [List.takeWhile_append_of_pos hargument]
    simp
  have hbefore : ∀ inner, (name ++ '(' :: inner).takeWhile isNameCharacter = name := by
    intro inner
    rw [List.takeWhile_append_of_pos hname]
    simp [hopen]
  have hafter : ∀ inner, (name ++ '(' :: inner).dropWhile isNameCharacter = '(' :: inner := by
    intro inner
    rw [List.dropWhile_append_of_pos hname]
    simp [hopen]
  rw [scalar?, afterFront?_append, Option.map_some]
  simp only [hbefore, hafter]
  show some (if ')' ∈ number ++ ')' :: rest then _ else _) = _
  rw [if_pos (by simp), htake]

/-- A number is taken out of the call of a numpy scalar. -/
theorem turns_scalar {name number : List Char} (hname : ∀ c ∈ name, isNameCharacter c = true)
    (hnumber : ')' ∉ number) :
    Text.Turns unwrapScalars ("np.".toList ++ name ++ '(' :: number ++ [')']) number := by
  intro rest
  let call : List Char := 'p' :: '.' :: (name ++ '(' :: (number ++ [')']))
  have htext : "np.".toList ++ name ++ '(' :: number ++ [')'] ++ rest = 'n' :: (call ++ rest) := by
    simp [call]
  have hscalar : scalar? ('n' :: (call ++ rest)) =
      some (number, 3 + name.length + 1 + number.length + 1) := by
    have hcall : 'n' :: (call ++ rest) =
        "np.".toList ++ (name ++ '(' :: (number ++ ')' :: rest)) := by
      simp [call]
    rw [hcall, scalar?_call hname hnumber]
  -- the first character is read already, so the rest of the call is passed over
  have hlength : 3 + name.length + 1 + number.length + 1 - 1 = call.length := by
    simp [call]
    omega
  rw [htext, unwrapScalars, unwrapFrom, hscalar]
  show number ++ unwrapFrom _ (call ++ rest) = _
  rw [unwrapFrom_eq, hlength, List.drop_left]

/-! ## What the rewriters do to an entry -/

namespace Entry

variable (e : Entry)

/-- Numbers have only the characters of numerals. -/
theorem not_mem_text {c : Char} (hc : ¬IsNumeralCharacter c) : c ∉ e.text.toList :=
  fun hmem => hc (isNumeralCharacter_of_takeNumeral? e.taken hmem)

end Entry

/-- A label and the quote behind it are kept if the pattern is not in the label. -/
theorem turns_label {p label : List Char} (hR : PassesOver R p) (hlabel : ¬p <:+: label)
    (hquote : '"' ∉ p) : Text.Turns R (label ++ ['"']) (label ++ ['"']) :=
  .of_not_occurs hR hlabel hquote

/-- Quotes become those of JSON. -/
theorem swap_spelled {l : Layout} (hl : '\'' ∉ l.marks) (xs : List (Entry × Style)) :
    swap '\'' '"' (l.spelled xs) = l.text (fun _ => '"') (fun x => x.1.label.toList)
      (fun x => x.2.number x.1.text.toList) xs := by
  have hR := passesOver_swap '\'' '"'
  have hquote : ∀ s : Style, Text.Turns (swap '\'' '"') [s.quote] ['"'] := by
    intro s
    rcases s.quote_eq with h | h
    · rw [h]
      exact turns_swap_self _ _
    · rw [h]
      exact .of_not_mem hR (by decide)
  -- the closing quote changes, the label in front of it has none
  refine ((Layout.Turns.of_not_mem hR hl).text (fun x _ => hquote x.2) (fun x _ => ?_)
    (fun x _ => .of_not_mem hR ?_)).eq rfl
  · exact (Text.Turns.of_not_mem hR x.1.plain.no_quote).append (hquote x.2)
  · obtain ⟨e, s⟩ := x
    show '\'' ∉ s.number e.text.toList
    have htext : '\'' ∉ e.text.toList := e.not_mem_text (by decide)
    cases hs : s.scalar with
    | none =>
      rw [Style.number, hs]
      exact htext
    | some name =>
      have hname : '\'' ∉ name := by
        intro hmem
        exact absurd (s.name name hs _ hmem) (by decide)
      rw [Style.number, hs]
      simp [htext, hname]

/-- Numbers come out of their wrappers. -/
theorem unwrapScalars_text {l : Layout} (hl : 'n' ∉ l.marks) (xs : List (Entry × Style)) :
    unwrapScalars (l.text (fun _ => '"') (fun x => x.1.label.toList)
      (fun x => x.2.number x.1.text.toList) xs) = l.plain xs := by
  have hR := passesOver_unwrapScalars
  refine ((Layout.Turns.of_not_mem hR hl).text (fun x _ => .of_not_mem hR (by decide))
    (fun x _ => turns_label hR x.1.plain.no_scalar (by decide)) (fun x _ => ?_)).eq rfl
  obtain ⟨e, s⟩ := x
  show Text.Turns unwrapScalars (s.number e.text.toList) e.text.toList
  cases hs : s.scalar with
  | none =>
    rw [Style.number, hs]
    exact .of_not_mem hR (e.not_mem_text (by decide))
  | some name =>
    rw [Style.number, hs]
    exact turns_scalar (s.name name hs) (e.not_mem_text (by decide))

/-- A rewriter keeps a literal in JSON notation if its pattern is in no label and cannot start
elsewhere. -/
theorem plain_of_passesOver {a : Char} {p : List Char} {l : Layout} {xs : List (Entry × Style)}
    (hR : PassesOver R (a :: p)) (hnil : R [] = []) (hmarks : a ∉ l.marks) (hquote : '"' ∉ a :: p)
    (hnumeral : ¬IsNumeralCharacter a)
    (hlabel : ∀ x ∈ xs, ¬(a :: p) <:+: x.1.label.toList) : R (l.plain xs) = l.plain xs := by
  refine ((Layout.Turns.of_not_mem hR hmarks).text (fun x _ => .of_not_mem hR ?_)
    (fun x hx => turns_label hR (hlabel x hx) hquote)
    (fun x _ => .of_not_mem hR (x.1.not_mem_text hnumeral))).eq hnil
  intro hmem
  obtain rfl := List.mem_singleton.1 hmem
  exact hquote List.mem_cons_self

/-- There is no constant to rename. -/
theorem renameConstants_plain {l : Layout} (hT : 'T' ∉ l.marks) (hF : 'F' ∉ l.marks)
    (hN : 'N' ∉ l.marks) (xs : List (Entry × Style)) :
    renameConstants (l.plain xs) = l.plain xs := by
  have htrue : replaceAll "True".toList "true".toList (l.plain xs) = l.plain xs :=
    plain_of_passesOver (passesOver_replaceAll _ _) rfl hT (by decide) (by decide)
      fun x _ => x.1.plain.no_true
  have hfalse : replaceAll "False".toList "false".toList (l.plain xs) = l.plain xs :=
    plain_of_passesOver (passesOver_replaceAll _ _) rfl hF (by decide) (by decide)
      fun x _ => x.1.plain.no_false
  have hnone : replaceAll "None".toList "null".toList (l.plain xs) = l.plain xs :=
    plain_of_passesOver (passesOver_replaceAll _ _) rfl hN (by decide) (by decide)
      fun x _ => x.1.plain.no_none
  rw [renameConstants, htrue, hfalse, hnone]

/-! ## Wrappers and blanks -/

/-- A text that starts with another character is in no wrapper of that name. -/
theorem inside?_eq_none {c : Char} {wrapper rest : List Char}
    (hc : (wrapper ++ ['(']).head? ≠ some c) : inside? wrapper (c :: rest) = none := by
  have hfront : ¬wrapper ++ ['('] <+: c :: rest := by
    rintro ⟨more, hmore⟩
    refine hc ?_
    cases wrapper with
    | nil => rw [← (List.cons.inj hmore).1]; rfl
    | cons a wrapper => rw [← (List.cons.inj hmore).1]; rfl
  rw [inside?, afterFront?_eq_none hfront, Option.bind_none, Option.map_none]

theorem inside?_append (wrapper : List Char) {cs : List Char} (hcs : trimCharacters cs = cs) :
    inside? wrapper (wrapper ++ ['('] ++ (cs ++ [')'])) = some cs := by
  rw [inside?, afterFront?_append, Option.bind_some, beforeLast?_concat, Option.map_some, hcs]

/-- A literal, bare of its wrapper: it starts and ends with a mark. -/
theorem stripWrapper_wrap (w : Wrapper) {first last : Char} {cs : List Char}
    (hfirst : isBlank first = false) (hlast : isBlank last = false) (hO : first ≠ 'O')
    (hd : first ≠ 'd') :
    stripWrapper (w.wrap (first :: cs ++ [last])) = first :: cs ++ [last] := by
  have htrim : trimCharacters (first :: cs ++ [last]) = first :: cs ++ [last] :=
    trimCharacters_eq_self first cs last hfirst hlast
  cases w with
  | bare =>
    have hordered : (("OrderedDict".toList ++ ['(']).head? : Option Char) ≠ some first := by
      simpa using Ne.symm hO
    have hdict : (("dict".toList ++ ['(']).head? : Option Char) ≠ some first := by
      simpa using Ne.symm hd
    show stripWrapper (first :: (cs ++ [last])) = _
    rw [stripWrapper, inside?_eq_none hordered, inside?_eq_none hdict]
    rfl
  | dict =>
    -- the wrapper that is looked for first has another name
    show stripWrapper ('d' :: ("ict(".toList ++ _)) = _
    rw [stripWrapper, inside?_eq_none (by decide)]
    show (inside? "dict".toList ("dict".toList ++ ['('] ++ _)).getD _ = _
    rw [inside?_append _ htrim]
    rfl
  | ordered =>
    show ((inside? "OrderedDict".toList ("OrderedDict".toList ++ ['('] ++ _)) <|> _).getD _ = _
    rw [inside?_append _ htrim]
    rfl

/-- **Every spelling is normalized to one text.** Blanks around a literal, its wrapper, its quotes and
its numpy scalars go; labels and numbers stay as they are. -/
theorem normalize_spelled {l : Layout} {first last : Char} {inner front back : List Char}
    {xs : List (Entry × Style)} (w : Wrapper)
    (hends : l.spelled xs = first :: inner ++ [last])
    (hfirst : isBlank first = false ∧ first ≠ 'O' ∧ first ≠ 'd')
    (hlast : isBlank last = false)
    (hmarks : '\'' ∉ l.marks ∧ 'n' ∉ l.marks ∧ 'T' ∉ l.marks ∧ 'F' ∉ l.marks ∧ 'N' ∉ l.marks)
    (hfront : ∀ b ∈ front, isBlank b = true) (hback : ∀ b ∈ back, isBlank b = true) :
    normalize (front ++ w.wrap (l.spelled xs) ++ back) = l.plain xs := by
  obtain ⟨hquote, hn, hT, hF, hN⟩ := hmarks
  have htrim : trimCharacters (front ++ w.wrap (l.spelled xs) ++ back) = w.wrap (l.spelled xs) := by
    rw [hends]
    cases w with
    | bare => exact trimCharacters_append _ _ _ hfront hback hfirst.1 hlast
    | dict =>
      exact trimCharacters_append 'd' ("ict(".toList ++ (first :: inner ++ [last])) ')' hfront hback
        (by decide) (by decide)
    | ordered =>
      exact trimCharacters_append 'O' ("rderedDict(".toList ++ (first :: inner ++ [last])) ')' hfront
        hback (by decide) (by decide)
  have hstrip : stripWrapper (w.wrap (l.spelled xs)) = l.spelled xs := by
    rw [hends]
    exact stripWrapper_wrap w hfirst.1 hlast hfirst.2.1 hfirst.2.2
  rw [normalize, htrim, hstrip, swap_spelled hquote, unwrapScalars_text hn,
    renameConstants_plain hT hF hN]

end OpticalBench.DictLiteral
