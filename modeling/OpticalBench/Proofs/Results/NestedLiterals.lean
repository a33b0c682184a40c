import OpticalBench.Proofs.Json.TextSize
import OpticalBench.Proofs.Results.ScalarCalls
import OpticalBench.Results.Basic

/-!
# Literals inside literals

A dictionary literal may turn out to be a text, and that is read as a literal again. `numberMap?` bounds
how often by the length of the first text. Here the same reading is written without a bound, as a
relation, and it is shown that the bound is never felt: no rewriter makes a text longer, JSON takes the
quotes off, so each text is shorter than the one that it comes from, and there is always a result.

- `NeverLonger`: a rewriter that adds no bytes, with one lemma for each step of a literal.
- `utf8ByteSize_of_read?`: a text that a literal stands for is shorter than the literal.
- `Rereads`, `Reads`: the texts that are read one after another, and the whole reading.
- `numberMap?_ends`: reading ends for every value, and `numberMap?` is what it comes to.
-/

namespace OpticalBench.Text

/-! ## Rewriters -/

/-- A rewriter that adds no bytes. -/
def NeverLonger (R : List Char → List Char) : Prop := ∀ cs, byteSize (R cs) ≤ byteSize cs

variable {R R' : List Char → List Char} {p r : List Char}

theorem NeverLonger.comp (h : NeverLonger R) (h' : NeverLonger R') :
    NeverLonger fun cs => R (R' cs) := by
  intro cs
  exact Nat.le_trans (h (R' cs)) (h' cs)

theorem NeverLonger.of_sublist (h : ∀ cs, (R cs).Sublist cs) : NeverLonger R := by
  intro cs
  exact byteSize_le_of_sublist (h cs)

theorem trimCharacters_sublist (cs : List Char) : (trimCharacters cs).Sublist cs := by
  have hback : (trimCharacters cs).reverse.Sublist (trimFront cs).reverse := by
    rw [trimCharacters, trimBack, List.reverse_reverse]
    exact List.dropWhile_sublist _
  exact (List.reverse_sublist.1 hback).trans (List.dropWhile_sublist _)

theorem neverLonger_trimCharacters : NeverLonger trimCharacters :=
  .of_sublist trimCharacters_sublist

theorem sublist_of_afterFront? {cs ds : List Char} (h : afterFront? p cs = some ds) :
    ds.Sublist cs := by
  induction p generalizing cs with
  | nil =>
    obtain rfl := Option.some.inj h
    exact .refl _
  | cons a p ih =>
    cases cs with
    | nil => cases h
    | cons c cs =>
      rw [afterFront?] at h
      split at h
      case isTrue => exact (ih h).cons _
      case isFalse => cases h

theorem sublist_of_beforeLast? {c : Char} {cs ds : List Char} (h : beforeLast? c cs = some ds) :
    ds.Sublist cs := by
  rw [← List.reverse_sublist]
  unfold beforeLast? at h
  split at h
  case h_1 d rest hreverse =>
    split at h
    case isTrue =>
      obtain rfl := Option.some.inj h
      rw [hreverse, List.reverse_reverse]
      exact List.sublist_cons_self _ _
    case isFalse => exact nomatch h
  case h_2 => exact nomatch h

/-- What is passed over counts as replaced already. -/
theorem replaceFrom_size (hr : byteSize r ≤ byteSize p) (skip : Nat) (cs : List Char) :
    byteSize (replaceFrom p r skip cs) + byteSize (cs.take skip) ≤ byteSize cs := by
  fun_induction replaceFrom p r skip cs with
  | case1 => simp
  | case2 skip c cs ih =>
    rw [List.take_succ_cons, byteSize_cons, byteSize_cons]
    omega
  | case3 c cs hprefix ih =>
    have hpattern : byteSize p ≤ c.utf8Size + byteSize (cs.take (p.length - 1)) := by
      obtain ⟨rest, hrest⟩ := List.isPrefixOf_iff_prefix.1 hprefix
      cases p with
      | nil => exact Nat.zero_le _
      | cons a p =>
        obtain ⟨rfl, hcs⟩ : a = c ∧ p ++ rest = cs := List.cons.inj hrest
        rw [List.length_cons, Nat.add_sub_cancel, ← hcs, List.take_left, byteSize_cons]
    rw [byteSize_append, List.take_zero, byteSize_nil, byteSize_cons]
    omega
  | case4 c cs _ ih =>
    rw [List.take_zero, byteSize_nil] at ih ⊢
    rw [byteSize_cons, byteSize_cons]
    omega

theorem neverLonger_replaceAll (hr : byteSize r ≤ byteSize p) : NeverLonger (replaceAll p r) := by
  intro cs
  exact Nat.le_trans (Nat.le_add_right _ _) (replaceFrom_size hr 0 cs)

end OpticalBench.Text

namespace OpticalBench.DictLiteral

open Json Text

/-! ## The steps of a literal -/

theorem neverLonger_swap {old new : Char} (h : new.utf8Size ≤ old.utf8Size) :
    NeverLonger (swap old new) := by
  intro cs
  induction cs with
  | nil => exact Nat.le_refl _
  | cons c cs ih =>
    refine Nat.add_le_add ?_ ih
    show (if c = old then new else c).utf8Size ≤ c.utf8Size
    split
    case isTrue hc => rwa [hc]
    case isFalse => exact Nat.le_refl _

theorem sublist_of_inside? {wrapper cs ds : List Char} (h : inside? wrapper cs = some ds) :
    ds.Sublist cs := by
  obtain ⟨body, hbody, rfl⟩ := Option.map_eq_some_iff.1 h
  obtain ⟨after, hafter, hbody⟩ := Option.bind_eq_some_iff.1 hbody
  calc
    (trimCharacters body).Sublist body := trimCharacters_sublist body
    body.Sublist after := sublist_of_beforeLast? hbody
    after.Sublist cs := sublist_of_afterFront? hafter

theorem neverLonger_stripWrapper : NeverLonger stripWrapper := by
  refine .of_sublist fun cs => ?_
  rw [stripWrapper]
  cases hordered : inside? "OrderedDict".toList cs with
  | some body => exact sublist_of_inside? hordered
  | none =>
    cases hdict : inside? "dict".toList cs with
    | some body => exact sublist_of_inside? hdict
    | none => exact .refl cs

theorem neverLonger_unwrapScalars : NeverLonger unwrapScalars := .of_sublist unwrapScalars_sublist

theorem neverLonger_renameConstants : NeverLonger renameConstants := by
  have htrue : NeverLonger (replaceAll "True".toList "true".toList) :=
    neverLonger_replaceAll (by decide)
  have hfalse : NeverLonger (replaceAll "False".toList "false".toList) :=
    neverLonger_replaceAll (by decide)
  have hnone : NeverLonger (replaceAll "None".toList "null".toList) :=
    neverLonger_replaceAll (by decide)
  exact hnone.comp (hfalse.comp htrue)

theorem neverLonger_normalize : NeverLonger normalize :=
  neverLonger_renameConstants.comp <| neverLonger_unwrapScalars.comp <|
    (neverLonger_swap (by decide)).comp <| neverLonger_stripWrapper.comp neverLonger_trimCharacters

/-! ## A text in a literal -/

theorem ofPairs?_ne_text (d : Document) (t : String) : ofPairs? d ≠ some (.text t) := by
  intro h
  unfold ofPairs? at h
  split at h
  case h_1 items =>
    obtain ⟨fields, -, h⟩ := Option.map_eq_some_iff.1 h
    exact nomatch h
  case h_2 => exact nomatch h

/-- A text that a literal stands for has two bytes less at least. A list of pairs never is a text. -/
theorem utf8ByteSize_of_read? {s t : String} (h : read? s = some (.text t)) :
    t.utf8ByteSize + 2 ≤ s.utf8ByteSize := by
  simp only [read?] at h
  split at h
  case h_1 =>
    obtain ⟨d, -, h⟩ := Option.bind_eq_some_iff.1 h
    exact absurd h (ofPairs?_ne_text d t)
  case h_2 =>
    calc
      t.utf8ByteSize + 2 ≤ (String.ofList (normalize s.toList)).utf8ByteSize :=
        Value.utf8ByteSize_of_read? h
      _ = byteSize (normalize s.toList) := utf8ByteSize_ofList _
      _ ≤ byteSize s.toList := neverLonger_normalize _
      _ = s.utf8ByteSize := byteSize_toList s

end OpticalBench.DictLiteral

namespace OpticalBench.Results

open Json Text

/-! ## Reading without a bound -/

/-- The value of a literal is read next. -/
def Rereads (next v : Value) : Prop := ∃ s, v = .text s ∧ DictLiteral.read? s = some next

/-- A map of numbers is read from a value, if it is one. A literal is read again and again, until
something else than a text comes of it. -/
inductive Reads : Value → Option (TextMap Binary64) → Prop
  | object (fields : List (String × Value)) :
    Reads (.object fields) (some ((TextMap.ofList fields).filterMap fun _ v => number? v))
  | literal {s : String} {next : Value} {out : Option (TextMap Binary64)}
    (h : DictLiteral.read? s = some next) (hnext : Reads next out) : Reads (.text s) out
  | unreadable {s : String} (h : DictLiteral.read? s = none) : Reads (.text s) none
  | other {v : Value} (hobject : ∀ fields, v ≠ .object fields) (htext : ∀ s, v ≠ .text s) :
    Reads v none

/-- How many levels of literals there can be. -/
def levels : Value → Nat
  | .text s => s.utf8ByteSize + 1
  | _ => 0

theorem levels_lt_of_rereads {next v : Value} (h : Rereads next v) : levels next < levels v := by
  obtain ⟨s, rfl, hread⟩ := h
  cases next
  case text t =>
    have hsize := DictLiteral.utf8ByteSize_of_read? hread
    simp only [levels]
    omega
  all_goals exact Nat.succ_pos _

theorem wellFounded_rereads : WellFounded Rereads :=
  Subrelation.wf levels_lt_of_rereads (measure levels).wf

theorem numberMap?_eq (v : Value) : numberMap? v = numberMapWithin? (levels v) v := by
  cases v <;> rfl

/-- With enough levels the bounded reading is the reading without a bound. -/
theorem reads_numberMapWithin? {fuel : Nat} {v : Value} (hfuel : levels v ≤ fuel) :
    Reads v (numberMapWithin? fuel v) := by
  induction fuel generalizing v with
  | zero =>
    cases v with
    | object fields => exact .object fields
    | text s => exact absurd hfuel (Nat.not_succ_le_zero _)
    | _ => exact .other (fun _ => nofun) (fun _ => nofun)
  | succ fuel ih =>
    cases v with
    | object fields => exact .object fields
    | text s =>
      show Reads (.text s) ((DictLiteral.read? s).bind (numberMapWithin? fuel))
      cases hread : DictLiteral.read? s with
      | none => exact .unreadable hread
      | some next =>
        have hlevels : levels next < levels (.text s) := levels_lt_of_rereads ⟨s, rfl, hread⟩
        exact .literal hread (ih (by omega))
    | _ => exact .other (fun _ => nofun) (fun _ => nofun)

/-- A value is read in one way only. -/
theorem Reads.unique {v : Value} {out out' : Option (TextMap Binary64)} (h : Reads v out)
    (h' : Reads v out') : out = out' := by
  induction h generalizing out' with
  | object fields =>
    cases h' with
    | object => rfl
    | other hobject => exact absurd rfl (hobject fields)
  | @literal s _ _ hread _ ih =>
    cases h' with
    | literal hread' hnext' =>
      obtain rfl := Option.some.inj (hread.symm.trans hread')
      exact ih hnext'
    | unreadable hread' => exact nomatch hread.symm.trans hread'
    | other _ htext => exact absurd rfl (htext s)
  | @unreadable s hread =>
    cases h' with
    | literal hread' => exact nomatch hread.symm.trans hread'
    | unreadable => rfl
    | other => rfl
  | other hobject htext =>
    cases h' with
    | object fields => exact absurd rfl (hobject fields)
    | @literal s => exact absurd rfl (htext s)
    | unreadable => rfl
    | other => rfl

theorem reads_iff {v : Value} {out : Option (TextMap Binary64)} :
    Reads v out ↔ out = numberMap? v := by
  have hread : Reads v (numberMap? v) := by
    rw [numberMap?_eq]
    exact reads_numberMapWithin? (Nat.le_refl _)
  constructor
  · intro h
    exact h.unique hread
  · rintro rfl
    exact hread

/-- **Reading a map ends.** No step of reading a literal adds a byte, JSON takes away the quotes of a text
whatever its escapes are, and so a text that is read again is shorter than the one it comes from. There
is no infinite chain of texts in which each is read from the one before, every value is read, in one way
only, and `numberMap?` gives what it is read as. -/
theorem numberMap?_ends :
    (NeverLonger trimCharacters ∧ NeverLonger DictLiteral.stripWrapper ∧
      NeverLonger (DictLiteral.swap '\'' '"') ∧ NeverLonger DictLiteral.unwrapScalars ∧
      NeverLonger DictLiteral.renameConstants ∧ NeverLonger (DictLiteral.swap '(' '[') ∧
      NeverLonger (DictLiteral.swap ')' ']')) ∧
    (∀ s t, Value.read? s = some (.text t) → t.utf8ByteSize < s.utf8ByteSize) ∧
    (∀ s t, Rereads (.text t) (.text s) → t.utf8ByteSize < s.utf8ByteSize) ∧
    WellFounded Rereads ∧
    ∀ v out, Reads v out ↔ out = numberMap? v := by
  refine ⟨⟨neverLonger_trimCharacters, DictLiteral.neverLonger_stripWrapper,
    DictLiteral.neverLonger_swap (by decide), DictLiteral.neverLonger_unwrapScalars,
    DictLiteral.neverLonger_renameConstants, DictLiteral.neverLonger_swap (by decide),
    DictLiteral.neverLonger_swap (by decide)⟩, ?_, ?_, wellFounded_rereads, fun _ _ => reads_iff⟩
  · intro s t hread
    have hsize := Value.utf8ByteSize_of_read? hread
    omega
  · rintro s t ⟨s', hs, hread⟩
    obtain rfl := Value.text.inj hs
    have hsize := DictLiteral.utf8ByteSize_of_read? hread
    omega

/-- A literal in quotes, with its own quotes as escapes, is read twice. -/
theorem numberMap?_ends_quoted :
    let text := "\x7b'0': 1\x7d"
    let quoted := "\"\x7b\\u00270\\u0027: 1\x7d\""
    let literal := "'\x7b\\u00270\\u0027: 1\x7d'"
    (Value.read? quoted = some (.text text) ∧ text.utf8ByteSize < quoted.utf8ByteSize) ∧
      (Rereads (.text text) (.text literal) ∧ text.utf8ByteSize < literal.utf8ByteSize) ∧
      Reads (.text literal) (numberMap? (.text literal)) := by
  intro text quoted literal
  obtain ⟨-, decoded, shorter, -, reads⟩ := numberMap?_ends
  have hquoted : Value.read? quoted = some (.text text) := by
    have hscan : Token.scan? quoted.toList = some [.text (some text)] := by decide +kernel
    rw [Value.read?, Document.read?, hscan]
    rfl
  have hliteral : Rereads (.text text) (.text literal) := by
    refine ⟨literal, rfl, ?_⟩
    have hnormal : DictLiteral.normalize literal.toList = '"' :: quoted.toList.tail := by
      decide +kernel
    have hchars : String.ofList ('"' :: quoted.toList.tail) = quoted := by decide +kernel
    simp only [DictLiteral.read?, hnormal, hchars]
    exact hquoted
  exact ⟨⟨hquoted, decoded _ _ hquoted⟩, ⟨hliteral, shorter _ _ hliteral⟩, (reads _ _).2 rfl⟩

end OpticalBench.Results
