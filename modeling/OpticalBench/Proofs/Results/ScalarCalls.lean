import OpticalBench.Proofs.Results.Spelling
import OpticalBench.Proofs.Text.Offset

/-!
# Unwrapping numpy scalars

`unwrapScalars` goes through a text character by character. A walk in longer strides searches for the
next call and cuts the text at byte offsets, where a cut at a wrong place is a fault. Here that walk is
written down with every slice that it takes. It is shown that no slice fails, that the walk ends, and
that it comes to the same.

- `round?`, `Unwraps`: one round of the walk, and a whole walk.
- `round?_cases`: what one round does.
- `CallText`: a text with calls in it, the calls written out or replaced by their arguments.
- `unwrapScalars_exact`: the walk succeeds on every text, and replaces exactly the calls.
-/

namespace OpticalBench.DictLiteral

open Text

/-! ## The walk by byte offsets -/

/-- Where the name ends that follows a mark at an offset. -/
def nameEnd? (text : String) (start : Nat) : Option Nat := do
  let after ← slice? text (start + 3) text.utf8ByteSize
  let size := (offsetWhere? (fun c => !isNameCharacter c) after.toList).getD after.utf8ByteSize
  some (start + 3 + size)

/-- How far it is from an offset to the next closing parenthesis, if there is one and an opening one
stands at the offset. -/
def closing? (text : String) (opening : Nat) : Option (Option Nat) := do
  let call ← slice? text opening text.utf8ByteSize
  some (if call.toList.head? = some '(' then offsetWhere? (· == ')') call.toList else none)

/-- What one round comes to. -/
inductive Round
  /-- There is nothing more to look for. -/
  | last
  /-- Something was written, and the walk goes on with a rest. -/
  | next (written rest : String)

/-- One round of the walk. A slice that cannot be taken makes it fail. -/
def round? (text : String) : Option Round :=
  match offsetOf? "np.".toList text.toList with
  | none => some .last
  | some start => do
    let opening ← nameEnd? text start
    match ← closing? text opening with
    | some closing =>
      let before ← slice? text 0 start
      let argument ← slice? text (opening + 1) (opening + closing)
      let rest ← slice? text (opening + closing + 1) text.utf8ByteSize
      some (.next (before ++ argument) rest)
    | none =>
      let before ← slice? text 0 opening
      let rest ← slice? text opening text.utf8ByteSize
      some (.next before rest)

/-- A whole walk: what is written round by round, and then the text that is left. -/
inductive Unwraps : String → String → Prop
  | last {text : String} (h : round? text = some .last) : Unwraps text text
  | next {text written rest out : String} (h : round? text = some (.next written rest))
    (hrest : Unwraps rest out) : Unwraps text (written ++ out)

/-! ## What is unwrapped -/

variable {before name argument rest : List Char} {text : String}

/-- A text that does not begin with an argument in parentheses. -/
def IsUncalled (rest : List Char) : Prop := ∀ inner, rest = '(' :: inner → ')' ∉ inner

/-- A text that does not go on with a name. -/
def EndsName (rest : List Char) : Prop := ∀ c, rest.head? = some c → isNameCharacter c = false

/-- A name that is not called is kept. -/
theorem scalar?_name (hname : ∀ c ∈ name, isNameCharacter c = true) (hend : EndsName rest)
    (hrest : IsUncalled rest) :
    scalar? ("np.".toList ++ (name ++ rest)) = some ("np.".toList ++ name, 3 + name.length) := by
  have htake : (name ++ rest).takeWhile isNameCharacter = name := by
    rw [List.takeWhile_append_of_pos hname]
    cases rest with
    | nil => simp
    | cons c rest => simp [hend c rfl]
  have hdrop : (name ++ rest).dropWhile isNameCharacter = rest := by
    rw [List.dropWhile_append_of_pos hname]
    cases rest with
    | nil => rfl
    | cons c rest => simp [hend c rfl]
  rw [scalar?, afterFront?_append, Option.map_some]
  simp only [htake, hdrop]
  split
  case h_1 inner => rw [if_neg (hrest inner rfl)]
  case h_2 => rfl

theorem unwrapScalars_name (hname : ∀ c ∈ name, isNameCharacter c = true) (hend : EndsName rest)
    (hrest : IsUncalled rest) :
    unwrapScalars ("np.".toList ++ (name ++ rest)) =
      "np.".toList ++ name ++ unwrapScalars rest := by
  have hscalar : scalar? ('n' :: ('p' :: '.' :: name ++ rest)) =
      some ("np.".toList ++ name, 3 + name.length) := scalar?_name hname hend hrest
  -- the first character is read already, so the rest of the name is passed over
  have hlength : 3 + name.length - 1 = ('p' :: '.' :: name).length := by
    simp
    omega
  show unwrapScalars ('n' :: ('p' :: '.' :: name ++ rest)) = _
  rw [unwrapScalars, unwrapFrom, hscalar]
  show "np.".toList ++ name ++ unwrapFrom _ ('p' :: '.' :: name ++ rest) = _
  rw [unwrapFrom_eq, hlength, List.drop_left]

/-- A text without a mark is left as it is. -/
theorem unwrapScalars_eq_self {cs : List Char} (h : ¬"np.".toList <:+: cs) :
    unwrapScalars cs = cs := by
  induction cs with
  | nil => rfl
  | cons c cs ih =>
    rw [passesOver_unwrapScalars c cs fun hprefix => h hprefix.isInfix,
      ih fun hinfix => h (List.infix_cons hinfix)]

/-! ## What one round does -/

theorem byteSize_mark : byteSize "np.".toList = 3 := by decide

theorem utf8Size_parentheses : '('.utf8Size = 1 ∧ ')'.utf8Size = 1 := by decide

theorem nameEnd?_eq (htext : text.toList = before ++ "np.".toList ++ name ++ rest)
    (hname : ∀ c ∈ name, isNameCharacter c = true) (hend : EndsName rest) :
    nameEnd? text (byteSize before) = some (byteSize (before ++ "np.".toList ++ name)) := by
  have hslice : slice? text (byteSize before + 3) text.utf8ByteSize =
      some (String.ofList (name ++ rest)) := by
    refine slice?_to_end (before ++ "np.".toList) (name ++ rest) ?_ ?_
    · rw [htext, List.append_assoc _ name]
    · rw [byteSize_append, byteSize_mark]
  have hnone : ∀ c ∈ name, (!isNameCharacter c) = false := by
    intro c hc
    rw [hname c hc]
    rfl
  have hsize : (offsetWhere? (fun c => !isNameCharacter c) (name ++ rest)).getD
      (byteSize (name ++ rest)) = byteSize name := by
    cases rest with
    | nil => rw [List.append_nil, offsetWhere?_eq_none hnone, Option.getD_none]
    | cons c rest =>
      have hc : (!isNameCharacter c) = true := by rw [hend c rfl]; rfl
      rw [offsetWhere?_append_cons hnone hc, Option.getD_some]
  rw [nameEnd?, hslice, Option.bind_eq_bind, Option.bind_some, String.toList_ofList,
    utf8ByteSize_ofList, hsize, byteSize_append, byteSize_append, byteSize_mark]

theorem closing?_of_call (htext : text.toList = before ++ '(' :: (argument ++ ')' :: rest))
    (hargument : ')' ∉ argument) :
    closing? text (byteSize before) = some (some (byteSize ('(' :: argument))) := by
  have hbefore : ∀ c ∈ '(' :: argument, (c == ')') = false := by
    intro c hc
    rcases List.mem_cons.1 hc with rfl | hc
    · decide
    · exact beq_false_of_ne fun heq => hargument (heq ▸ hc)
  have hfind := offsetWhere?_append_cons hbefore (beq_self_eq_true ')') rest
  rw [closing?, slice?_to_end before _ htext rfl, Option.bind_eq_bind, Option.bind_some,
    String.toList_ofList]
  exact congrArg some ((if_pos rfl).trans hfind)

theorem closing?_of_isUncalled (htext : text.toList = before ++ rest) (hrest : IsUncalled rest) :
    closing? text (byteSize before) = some none := by
  rw [closing?, slice?_to_end before rest htext rfl, Option.bind_eq_bind, Option.bind_some,
    String.toList_ofList]
  by_cases hopen : rest.head? = some '('
  · obtain ⟨inner, rfl⟩ := List.head?_eq_some_iff.1 hopen
    have hnone : ∀ c ∈ '(' :: inner, (c == ')') = false := by
      intro c hc
      rcases List.mem_cons.1 hc with rfl | hc
      · decide
      · exact beq_false_of_ne fun heq => hrest inner rfl (heq ▸ hc)
    rw [if_pos hopen, offsetWhere?_eq_none hnone]
  · rw [if_neg hopen]

/-- The argument of a call is cut out between the parentheses. -/
theorem slice?_argument (htext : text.toList = before ++ '(' :: (argument ++ ')' :: rest)) :
    slice? text (byteSize before + 1) (byteSize before + byteSize ('(' :: argument)) =
      some (String.ofList argument) := by
  obtain ⟨hopening, -⟩ := utf8Size_parentheses
  refine slice?_eq_some (before ++ ['(']) argument (')' :: rest) ?_ ?_ ?_
  · simp [htext]
  · simp [hopening]
  · simp [hopening, Nat.add_assoc]

theorem slice?_behind_call (htext : text.toList = before ++ '(' :: (argument ++ ')' :: rest)) :
    slice? text (byteSize before + byteSize ('(' :: argument) + 1) text.utf8ByteSize =
      some (String.ofList rest) := by
  obtain ⟨-, hclosing⟩ := utf8Size_parentheses
  refine slice?_to_end (before ++ '(' :: argument ++ [')']) rest ?_ ?_
  · simp [htext]
  · simp [hclosing, Nat.add_assoc]

theorem slice?_before (htext : text.toList = before ++ rest) :
    slice? text 0 (byteSize before) = some (String.ofList before) := by
  refine slice?_eq_some [] before rest ?_ rfl ?_
  · simp [htext]
  · simp

/-- A round that finds a call writes its argument. -/
theorem round?_of_call
    (htext : text.toList = before ++ "np.".toList ++ name ++ '(' :: (argument ++ ')' :: rest))
    (hfind : offsetOf? "np.".toList text.toList = some (byteSize before))
    (hname : ∀ c ∈ name, isNameCharacter c = true) (hargument : ')' ∉ argument) :
    round? text = some (.next (String.ofList (before ++ argument)) (String.ofList rest)) := by
  have hend : EndsName ('(' :: (argument ++ ')' :: rest)) := by
    rintro c hc
    obtain rfl := Option.some.inj hc
    decide
  have hbefore : text.toList =
      before ++ ("np.".toList ++ name ++ '(' :: (argument ++ ')' :: rest)) := by
    rw [htext, List.append_assoc, List.append_assoc, List.append_assoc]
  simp only [round?, hfind, nameEnd?_eq htext hname hend, closing?_of_call htext hargument,
    slice?_before hbefore, slice?_argument htext, slice?_behind_call htext, Option.bind_eq_bind,
    Option.bind_some, String.ofList_append]

/-- A round that finds a name that is not called writes it. -/
theorem round?_of_name (htext : text.toList = before ++ "np.".toList ++ name ++ rest)
    (hfind : offsetOf? "np.".toList text.toList = some (byteSize before))
    (hname : ∀ c ∈ name, isNameCharacter c = true) (hend : EndsName rest)
    (hrest : IsUncalled rest) :
    round? text =
      some (.next (String.ofList (before ++ "np.".toList ++ name)) (String.ofList rest)) := by
  simp only [round?, hfind, nameEnd?_eq htext hname hend, closing?_of_isUncalled htext hrest,
    slice?_before htext, slice?_to_end _ rest htext rfl, Option.bind_eq_bind, Option.bind_some]

/-- **One round.** No slice of it fails. It ends the walk and there is nothing to unwrap, or it passes
over a part of the text and writes what is unwrapped of this part, which only leaves characters out. -/
theorem round?_cases (cs : List Char) :
    (round? (String.ofList cs) = some .last ∧ unwrapScalars cs = cs) ∨
    ∃ passed written rest, cs = passed ++ rest ∧ passed ≠ [] ∧
      round? (String.ofList cs) = some (.next (String.ofList written) (String.ofList rest)) ∧
      unwrapScalars cs = written ++ unwrapScalars rest ∧ written.Sublist passed := by
  have hlist : (String.ofList cs).toList = cs := String.toList_ofList
  cases hfind : offsetOf? "np.".toList cs with
  | none =>
    refine .inl ⟨?_, unwrapScalars_eq_self (not_infix_of_offsetOf? (by decide) hfind)⟩
    rw [round?, hlist, hfind]
  | some start =>
    obtain ⟨before, after, hcs, rfl, hpasses⟩ := exists_of_offsetOf? hfind
    have hunwrap := hpasses unwrapScalars passesOver_unwrapScalars
    obtain ⟨name, rest, rfl, hname, hend⟩ : ∃ name rest, after = name ++ rest ∧
        (∀ c ∈ name, isNameCharacter c = true) ∧ EndsName rest := by
      refine ⟨after.takeWhile isNameCharacter, after.dropWhile isNameCharacter,
        List.takeWhile_append_dropWhile.symm, fun c hc => List.mem_takeWhile_imp hc, fun c hc => ?_⟩
      have hhead := List.head?_dropWhile_not isNameCharacter after
      rw [hc] at hhead
      exact hhead
    have hfind' : offsetOf? "np.".toList (String.ofList cs).toList = some (byteSize before) := by
      rw [hlist, hfind]
    right
    by_cases hcall : IsUncalled rest
    · refine ⟨before ++ "np.".toList ++ name, before ++ "np.".toList ++ name, rest, ?_, ?_, ?_, ?_,
        .refl _⟩
      · simp [hcs]
      · simp
      · exact round?_of_name (by simp [hcs]) hfind' hname hend hcall
      · rw [hunwrap, unwrapScalars_name hname hend hcall]
        simp
    · simp only [IsUncalled, not_forall, not_not] at hcall
      obtain ⟨inner, rfl, hinner⟩ := hcall
      obtain ⟨argument, more, rfl, hargument⟩ := List.eq_append_cons_of_mem hinner
      refine ⟨before ++ "np.".toList ++ name ++ '(' :: argument ++ [')'], before ++ argument, more,
        ?_, ?_, ?_, ?_, ?_⟩
      · simp [hcs]
      · simp
      · exact round?_of_call (by simp [hcs]) hfind' hname hargument
      · have hturns := turns_scalar hname hargument more
        rw [hunwrap, List.append_assoc, ← hturns]
        simp
      · have hinside : argument <:+: "np.".toList ++ name ++ '(' :: argument ++ [')'] :=
          ⟨"np.".toList ++ name ++ ['('], [')'], by simp⟩
        have hsublist := (List.Sublist.refl before).append hinside.sublist
        simpa using hsublist

/-- Unwrapping leaves characters out and changes nothing else. -/
theorem unwrapScalars_sublist (cs : List Char) : (unwrapScalars cs).Sublist cs := by
  induction hn : cs.length using Nat.strongRecOn generalizing cs with
  | ind n ih =>
    rcases round?_cases cs with ⟨-, hself⟩ | ⟨passed, written, rest, rfl, hne, -, hunwrap, hwritten⟩
    · rw [hself]
    · have hshorter : rest.length < n := by
        have := List.length_pos_iff.2 hne
        rw [List.length_append] at hn
        omega
      rw [hunwrap]
      exact hwritten.append (ih _ hshorter rest rfl)

/-! ## Whole walks -/

/-- A walk that goes on has less text before it. -/
theorem utf8ByteSize_lt_of_round? {written rest : String}
    (h : round? text = some (.next written rest)) : rest.utf8ByteSize < text.utf8ByteSize := by
  obtain ⟨cs, rfl⟩ : ∃ cs, text = String.ofList cs := ⟨text.toList, String.ofList_toList.symm⟩
  rcases round?_cases cs with ⟨hlast, -⟩ | ⟨passed, kept, more, rfl, hne, hnext, -⟩
  · exact nomatch hlast.symm.trans h
  · obtain ⟨-, rfl⟩ := Round.next.inj (Option.some.inj (hnext.symm.trans h))
    have hpassed := byteSize_pos hne
    rw [utf8ByteSize_ofList, utf8ByteSize_ofList, byteSize_append]
    omega

/-- There is a walk through every text, and it comes to what is unwrapped. -/
theorem unwraps_unwrapScalars (text : String) :
    Unwraps text (String.ofList (unwrapScalars text.toList)) := by
  induction hn : text.utf8ByteSize using Nat.strongRecOn generalizing text with
  | ind n ih =>
    subst hn
    obtain ⟨cs, rfl⟩ : ∃ cs, text = String.ofList cs := ⟨text.toList, String.ofList_toList.symm⟩
    rw [String.toList_ofList]
    rcases round?_cases cs with ⟨hlast, hself⟩ | ⟨passed, written, rest, -, -, hnext, hunwrap, -⟩
    · rw [hself]
      exact .last hlast
    · have hrest := ih _ (utf8ByteSize_lt_of_round? hnext) _ rfl
      rw [String.toList_ofList] at hrest
      rw [hunwrap, String.ofList_append]
      exact .next hnext hrest

/-- A walk comes to one text only. -/
theorem Unwraps.unique {out out' : String} (h : Unwraps text out) (h' : Unwraps text out') :
    out = out' := by
  induction h generalizing out' with
  | last hlast =>
    cases h' with
    | last => rfl
    | next hnext => exact nomatch hlast.symm.trans hnext
  | next hnext _ ih =>
    cases h' with
    | last hlast => exact nomatch hlast.symm.trans hnext
    | next hnext' hrest' =>
      obtain ⟨rfl, rfl⟩ := Round.next.inj (Option.some.inj (hnext.symm.trans hnext'))
      rw [ih hrest']

theorem unwraps_iff {out : String} :
    Unwraps text out ↔ out = String.ofList (unwrapScalars text.toList) := by
  constructor
  · intro h
    exact h.unique (unwraps_unwrapScalars text)
  · rintro rfl
    exact unwraps_unwrapScalars text

/-! ## Texts with calls -/

/-- The call of a numpy scalar: its name, and an argument up to the first closing parenthesis. -/
structure ScalarCall where
  name : List Char
  name_characters : ∀ c ∈ name, isNameCharacter c = true
  argument : List Char
  argument_open : ')' ∉ argument

/-- What stands in front of the argument of a call. -/
def ScalarCall.opening (k : ScalarCall) : List Char := "np.".toList ++ k.name ++ ['(']

/-- A call as it is written. -/
def ScalarCall.written (k : ScalarCall) : List Char := k.opening ++ k.argument ++ [')']

/-- A text with calls in it. -/
inductive CallText
  | plain (cs : List Char)
  | call (cs : List Char) (k : ScalarCall) (rest : CallText)

namespace CallText

/-- The text with its calls written out. -/
def written : CallText → List Char
  | plain cs => cs
  | call cs k rest => cs ++ k.written ++ rest.written

/-- The text with the argument in place of each call. -/
def unwrapped : CallText → List Char
  | plain cs => cs
  | call cs k rest => cs ++ k.argument ++ rest.unwrapped

/-- The parts of a text behind which a mark may stand: up to where a call begins, and up to a mark
inside an argument. -/
def Expects : CallText → List Char → Prop
  | plain _, _ => False
  | call cs k rest, before =>
    before = cs ∨
    (∃ inner, inner ++ "np.".toList <+: k.argument ∧ before = cs ++ k.opening ++ inner) ∨
    ∃ later, rest.Expects later ∧ before = cs ++ k.written ++ later

/-- Outside the arguments, a mark stands only where a call begins. -/
def OnlyInCalls (t : CallText) : Prop :=
  ∀ before, before ++ "np.".toList <+: t.written → t.Expects before

/-- There is no mark between the calls. -/
def Separate : CallText → Prop
  | plain cs => ¬"np.".toList <:+: cs
  | call cs _ rest => ¬"np.".toList <:+: cs ∧ rest.Separate

theorem OnlyInCalls.separate {t : CallText} (h : t.OnlyInCalls) : t.Separate := by
  induction t with
  | plain cs =>
    rintro ⟨before, after, hinfix⟩
    exact h before ⟨after, hinfix⟩
  | call cs k rest ih =>
    constructor
    · -- a mark in front of the call is expected only further on
      rintro ⟨before, after, rfl⟩
      have hprefix : before ++ "np.".toList <+:
          before ++ "np.".toList ++ after ++ k.written ++ rest.written :=
        ⟨after ++ k.written ++ rest.written, by simp⟩
      obtain ⟨further, hfurther⟩ : ∃ further, before = before ++ "np.".toList ++ after ++ further := by
        rcases h before hprefix with hstart | ⟨inner, -, hinner⟩ | ⟨later, -, hlater⟩
        · exact ⟨[], by rw [List.append_nil]; exact hstart⟩
        · exact ⟨k.opening ++ inner, by rw [← List.append_assoc]; exact hinner⟩
        · exact ⟨k.written ++ later, by rw [← List.append_assoc]; exact hlater⟩
      have hlength := congrArg List.length hfurther
      simp at hlength
    · refine ih fun later hlater => ?_
      have hprefix : cs ++ k.written ++ later ++ "np.".toList <+: cs ++ k.written ++ rest.written := by
        rw [List.append_assoc _ later, List.prefix_append_right_inj]
        exact hlater
      rcases h _ hprefix with hstart | ⟨inner, hinner, heq⟩ | ⟨later', hlater', heq⟩
      · have hlength := congrArg List.length hstart
        simp [ScalarCall.written] at hlength
      · -- what is expected in the argument ends before the call does
        have hlength := congrArg List.length heq
        have hinner := hinner.length_le
        simp [ScalarCall.written] at hlength hinner
        omega
      · rw [List.append_cancel_left heq]
        exact hlater'

/-- In front of a mark nothing changes. -/
theorem unwrapScalars_append_mark {cs : List Char} (h : ¬"np.".toList <:+: cs)
    (more : List Char) :
    unwrapScalars (cs ++ ("np.".toList ++ more)) = cs ++ unwrapScalars ("np.".toList ++ more) := by
  induction cs with
  | nil => rfl
  | cons c cs ih =>
    -- the mark does not begin in front of itself: its letters differ
    have hstart : ¬"np.".toList <+: c :: (cs ++ ("np.".toList ++ more)) := by
      intro hprefix
      match cs with
      | [] => simp at hprefix
      | [d] => simp at hprefix
      | d :: e :: cs =>
        refine h (List.IsPrefix.isInfix ?_)
        simpa using hprefix
    rw [List.cons_append, passesOver_unwrapScalars _ _ hstart,
      ih fun hinfix => h (List.infix_cons hinfix)]
    rfl

theorem Separate.unwrapScalars_eq {t : CallText} (h : t.Separate) :
    unwrapScalars t.written = t.unwrapped := by
  induction t with
  | plain cs => exact unwrapScalars_eq_self h
  | call cs k rest ih =>
    obtain ⟨hcs, hrest⟩ := h
    have hwritten : k.written = "np.".toList ++ k.name ++ '(' :: k.argument ++ [')'] := by
      simp [ScalarCall.written, ScalarCall.opening]
    have hcall : unwrapScalars (k.written ++ rest.written) = k.argument ++ rest.unwrapped := by
      rw [hwritten, turns_scalar k.name_characters k.argument_open, ih hrest]
    have hmark : k.written ++ rest.written =
        "np.".toList ++ (k.name ++ '(' :: k.argument ++ [')'] ++ rest.written) := by
      simp [hwritten]
    show unwrapScalars (cs ++ k.written ++ rest.written) = cs ++ k.argument ++ rest.unwrapped
    rw [List.append_assoc, hmark, unwrapScalars_append_mark hcs, ← hmark, hcall, List.append_assoc]

end CallText

/-- **Unwrapping is safe and exact.** On every text each round of the walk succeeds, so that no slice is
out of range or inside a character, and leaves less to do, so that the walk ends, with one result. What
comes out is the text with some characters left out. A text without a mark stays as it is; and if marks
stand only where calls begin, and inside their arguments, then exactly the calls are replaced by their
arguments. -/
theorem unwrapScalars_exact :
    (∀ text, ∃ round, round? text = some round) ∧
    (∀ text written rest, round? text = some (.next written rest) →
      rest.utf8ByteSize < text.utf8ByteSize) ∧
    (∀ text out, Unwraps text out ↔ out = String.ofList (unwrapScalars text.toList)) ∧
    (∀ cs, (unwrapScalars cs).Sublist cs ∧ byteSize (unwrapScalars cs) ≤ byteSize cs) ∧
    (∀ cs, ¬"np.".toList <:+: cs → unwrapScalars cs = cs) ∧
    ∀ t : CallText, t.OnlyInCalls → unwrapScalars t.written = t.unwrapped := by
  refine ⟨fun text => ?_, fun _ _ _ => utf8ByteSize_lt_of_round?, fun _ _ => unwraps_iff,
    fun cs => ⟨unwrapScalars_sublist cs, byteSize_le_of_sublist (unwrapScalars_sublist cs)⟩,
    fun _ => unwrapScalars_eq_self, fun _ h => h.separate.unwrapScalars_eq⟩
  have hcases := round?_cases text.toList
  rw [String.ofList_toList] at hcases
  rcases hcases with ⟨hlast, -⟩ | ⟨_, written, rest, -, -, hnext, -⟩
  · exact ⟨.last, hlast⟩
  · exact ⟨_, hnext⟩

/-- A call behind a letter of two bytes, with a mark inside its argument and the beginning of one behind
it. -/
theorem unwrapScalars_exact_nested :
    ∃ k : ScalarCall, k.written = "np.float64(np.1)".toList ∧
      let t : CallText := .call "é: ".toList k (.plain "np".toList)
      let text := String.ofList t.written
      let rest := String.ofList "np".toList
      (t.OnlyInCalls ∧ unwrapScalars t.written = "é: np.1np".toList) ∧
        (round? text = some (.next (String.ofList "é: np.1".toList) rest) ∧
          rest.utf8ByteSize < text.utf8ByteSize) ∧
        ¬"np.".toList <:+: "n.p".toList ∧ unwrapScalars "n.p".toList = "n.p".toList := by
  refine ⟨⟨"float64".toList, by decide, "np.1".toList, by decide⟩, by decide, ?_⟩
  intro t text rest
  obtain ⟨-, shorter, -, -, unmarked, replaced⟩ := unwrapScalars_exact
  have honly : t.OnlyInCalls := by
    intro before hbefore
    have hwritten : t.written = "é: np.float64(np.1)np".toList := by decide
    have hbefore' : before = t.written.take before.length :=
      List.prefix_iff_eq_take.1 ((List.prefix_append _ _).trans hbefore)
    have hlength : before.length < 20 := by
      have := hbefore.length_le
      rw [hwritten] at this
      simp at this
      omega
    have hplaces : ∀ n < 20, t.written.take n ++ "np.".toList <+: t.written →
        n = 3 ∨ n = 14 := by
      decide +kernel
    rw [hbefore'] at hbefore ⊢
    rcases hplaces _ hlength hbefore with hn | hn
    · rw [hn]
      exact .inl rfl
    · rw [hn]
      exact .inr (.inl ⟨[], by decide, rfl⟩)
  have hround : round? text = some (.next (String.ofList "é: np.1".toList) rest) :=
    @round?_of_call "é: ".toList "float64".toList "np.1".toList "np".toList text
      String.toList_ofList (by rw [String.toList_ofList]; decide) (by decide) (by decide)
  have hunmarked : ¬"np.".toList <:+: "n.p".toList := by decide
  exact ⟨⟨honly, replaced t honly⟩, ⟨hround, shorter _ _ _ hround⟩, hunmarked, unmarked _ hunmarked⟩

end OpticalBench.DictLiteral
