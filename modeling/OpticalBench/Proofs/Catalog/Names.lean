import Mathlib.Data.List.Forall2
import Mathlib.Data.List.TakeWhile
import OpticalBench.Catalog.Element
import OpticalBench.Proofs.Text.Rewriting

/-!
# The names of elements

A person may name an element by its label or by its identifier, in any case, with blanks around and
with spaces, hyphens or underscores between the words. Here it is shown that these are the names that
are accepted, and all of them.

- `HasName`: the names of an element in canonical form.
- `Respelled`: texts that differ in case, in separators inside, or in blanks around.
- `parse_names`: a text is accepted for an element exactly if its canonical form is a name of it.
-/

namespace OpticalBench

/-! ## Trimming -/

namespace Text

variable {cs : List Char}

/-- Trimming takes no notice of a change that keeps blanks blank. -/
theorem trimCharacters_map {g : Char → Char} (hg : ∀ c, isBlank (g c) = isBlank c) (cs : List Char) :
    trimCharacters (cs.map g) = (trimCharacters cs).map g := by
  have hblank : isBlank ∘ g = isBlank := funext hg
  rw [trimCharacters, trimFront, List.dropWhile_map, hblank, trimBack, ← List.map_reverse,
    List.dropWhile_map, hblank, ← List.map_reverse]
  rfl

theorem trimFront_blanks_append {front : List Char} (hfront : ∀ b ∈ front, isBlank b = true) :
    trimFront (front ++ cs) = trimFront cs := List.dropWhile_append_of_pos hfront

theorem trimBack_append_blanks {back : List Char} (hback : ∀ b ∈ back, isBlank b = true) :
    trimBack (cs ++ back) = trimBack cs := by
  have hreverse : ∀ b ∈ back.reverse, isBlank b = true := fun b hb => hback b (List.mem_reverse.1 hb)
  rw [trimBack, List.reverse_append, List.dropWhile_append_of_pos hreverse]
  rfl

/-- Blanks around a text are taken off with those that it has itself. -/
theorem trimCharacters_blanks_append_blanks {front back : List Char}
    (hfront : ∀ b ∈ front, isBlank b = true) (hback : ∀ b ∈ back, isBlank b = true) :
    trimCharacters (front ++ cs ++ back) = trimCharacters cs := by
  rw [trimCharacters, List.append_assoc, trimFront_blanks_append hfront]
  by_cases hcs : ∀ c ∈ cs, isBlank c = true
  · -- nothing but blanks: the front takes them all
    have hnone : trimFront cs = [] := List.dropWhile_eq_nil_iff.2 hcs
    rw [trimFront_blanks_append hcs, trimCharacters, hnone]
    have hback' : trimFront back = [] := List.dropWhile_eq_nil_iff.2 hback
    rw [hback']
  · have hne : trimFront cs ≠ [] := fun h => hcs (List.dropWhile_eq_nil_iff.1 h)
    have happend : trimFront (cs ++ back) = trimFront cs ++ back := by
      rw [trimFront, List.dropWhile_append]
      exact if_neg (mt List.isEmpty_iff.1 hne)
    rw [happend, trimBack_append_blanks hback]
    rfl

/-- Letters are not blank in either case. -/
theorem isBlank_toLower (c : Char) : isBlank c.toLower = isBlank c := by
  have hletter : ∀ d : Char, 65 ≤ d.toNat → d.toNat ≤ 122 → isBlank d = false := by
    intro d hlow hhigh
    simp [isBlank, blankRanges]
    omega
  unfold Char.toLower
  split
  case isTrue hupper =>
    have hrange : 65 ≤ c.toNat ∧ c.toNat ≤ 90 := by
      simpa [UInt32.le_iff_toNat_le] using hupper
    rw [hletter, hletter c hrange.1 (by omega)]
    · simp
      omega
    · simp
      omega
  case isFalse => rfl

end Text

namespace Element

open Text

/-! ## Canonical form -/

/-- Spaces and hyphens become underscores. -/
def underscore (c : Char) : Char := if c = ' ' ∨ c = '-' then '_' else c

theorem canonicalName_eq (s : String) : canonicalName s =
    String.ofList ((trimCharacters s.toList).map fun c => underscore c.toLower) := rfl

/-- A character between the words of a name. -/
def IsSeparator (c : Char) : Prop := c = ' ' ∨ c = '-' ∨ c = '_'

instance : DecidablePred IsSeparator := fun c => by
  unfold IsSeparator
  infer_instance

theorem underscore_toLower_of_isSeparator {c : Char} (h : IsSeparator c) :
    underscore c.toLower = '_' := by
  rcases h with rfl | rfl | rfl <;> decide

/-- Texts that differ in the case of letters, in the separators strictly inside, or in the blanks
around. -/
inductive Respelled : String → String → Prop
  | letters {s t : String} (same : s.toList.map Char.toLower = t.toList.map Char.toLower) :
    Respelled s t
  | separators {front back cs ds : List Char} {first last : Char}
    (front_blank : ∀ b ∈ front, isBlank b = true) (back_blank : ∀ b ∈ back, isBlank b = true)
    (first_not_blank : isBlank first = false) (last_not_blank : isBlank last = false)
    (inside : List.Forall₂ (fun c d => c = d ∨ IsSeparator c ∧ IsSeparator d) cs ds) :
    Respelled (String.ofList (front ++ (first :: cs ++ [last]) ++ back))
      (String.ofList (front ++ (first :: ds ++ [last]) ++ back))
  | blanks {front back : List Char} {s : String} (front_blank : ∀ b ∈ front, isBlank b = true)
    (back_blank : ∀ b ∈ back, isBlank b = true) :
    Respelled s (String.ofList (front ++ s.toList ++ back))

theorem canonicalName_congr_letters {s t : String}
    (h : s.toList.map Char.toLower = t.toList.map Char.toLower) :
    canonicalName s = canonicalName t := by
  have hlower : ∀ u : String, canonicalName u =
      String.ofList ((trimCharacters (u.toList.map Char.toLower)).map underscore) := by
    intro u
    rw [canonicalName_eq, trimCharacters_map isBlank_toLower, List.map_map]
    rfl
  rw [hlower, hlower, h]

/-- A text and its respelling have one canonical form. -/
theorem Respelled.canonicalName_eq {s t : String} (h : Respelled s t) :
    canonicalName s = canonicalName t := by
  cases h with
  | letters same => exact canonicalName_congr_letters same
  | @separators front back cs ds first last front_blank back_blank first_not_blank last_not_blank
      inside =>
    let canonical : Char → Char := fun c => underscore c.toLower
    have hinside : cs.map canonical = ds.map canonical := by
      refine List.forall₂_eq_eq_eq ▸ List.forall₂_map_left_iff.2 (List.forall₂_map_right_iff.2 ?_)
      refine inside.imp fun c d h => ?_
      rcases h with rfl | ⟨hc, hd⟩
      · rfl
      · exact (underscore_toLower_of_isSeparator hc).trans
          (underscore_toLower_of_isSeparator hd).symm
    have hcanonical : ∀ es : List Char,
        canonicalName (String.ofList (front ++ (first :: es ++ [last]) ++ back)) =
          String.ofList (canonical first :: es.map canonical ++ [canonical last]) := by
      intro es
      rw [Element.canonicalName_eq, String.toList_ofList,
        trimCharacters_append first es last front_blank back_blank first_not_blank last_not_blank,
        List.map_append]
      rfl
    rw [hcanonical, hcanonical, hinside]
  | blanks front_blank back_blank =>
    rw [Element.canonicalName_eq, Element.canonicalName_eq, String.toList_ofList,
      trimCharacters_blanks_append_blanks front_blank back_blank]

/-! ## Names -/

/-- The names of an element in canonical form: its label, its identifier, and one more for the
measurement. -/
inductive HasName : Element → String → Prop
  | label (e : Element) : HasName e (canonicalName e.label)
  | identifier (e : Element) : HasName e e.identifier
  | measurement : HasName measure "measurement"

theorem mem_all (e : Element) : e ∈ all := by cases e <;> decide

/-- Labels differ also in canonical form. -/
theorem canonicalName_label_injective {d e : Element}
    (h : canonicalName d.label = canonicalName e.label) : d = e := by
  have hall : ∀ d ∈ all, ∀ e ∈ all, canonicalName d.label = canonicalName e.label → d = e := by
    decide +kernel
  exact hall d (mem_all d) e (mem_all e) h

/-- The element with a name. -/
def named? (name : String) : Option Element :=
  all.find? (fun e => canonicalName e.label == name) <|> alias? name

theorem find?_label_eq_some_iff {name : String} {e : Element} :
    all.find? (fun e => canonicalName e.label == name) = some e ↔ canonicalName e.label = name := by
  constructor
  · intro h
    simpa using List.find?_some h
  · intro h
    have hsome : (all.find? fun e => canonicalName e.label == name).isSome = true :=
      List.find?_isSome.2 ⟨e, mem_all e, beq_iff_eq.2 h⟩
    obtain ⟨d, hd⟩ := Option.isSome_iff_exists.1 hsome
    have hname : canonicalName d.label = name := by simpa using List.find?_some hd
    rw [hd, canonicalName_label_injective (hname.trans h.symm)]

theorem named?_identifier (e : Element) : named? e.identifier = some e := by
  have hall : ∀ e ∈ all, named? e.identifier = some e := by decide +kernel
  exact hall e (mem_all e)

theorem hasName_of_alias? {name : String} {e : Element} (h : alias? name = some e) :
    e.HasName name := by
  unfold alias? at h
  split at h
  case isTrue hname =>
    obtain rfl := Option.some.inj h
    exact hname ▸ .identifier squeezeGate
  case isFalse =>
    split at h
    case isTrue hname =>
      obtain rfl := Option.some.inj h
      rcases hname with rfl | rfl
      · exact .identifier measure
      · exact .measurement
    case isFalse => exact nomatch h

theorem named?_eq_some_iff {name : String} {e : Element} :
    named? name = some e ↔ e.HasName name := by
  constructor
  · intro h
    rw [named?] at h
    cases hlabel : all.find? (fun e => canonicalName e.label == name) with
    | none =>
      rw [hlabel] at h
      exact hasName_of_alias? h
    | some d =>
      rw [hlabel] at h
      obtain rfl := Option.some.inj h
      exact find?_label_eq_some_iff.1 hlabel ▸ .label d
  · intro h
    cases h with
    | label =>
      rw [named?, find?_label_eq_some_iff.2 rfl]
      rfl
    | identifier => exact named?_identifier e
    | measurement => decide +kernel

theorem parse_eq (s : String) : parse s =
    match named? (canonicalName s) with
    | some e => .ok e
    | none => .error (.element s) := rfl

theorem parse_eq_ok_iff {s : String} {e : Element} :
    parse s = .ok e ↔ e.HasName (canonicalName s) := by
  rw [parse_eq, ← named?_eq_some_iff]
  cases named? (canonicalName s) <;> simp

theorem parse_eq_error_iff {s : String} {fault : UnknownName} :
    parse s = .error fault ↔ fault = .element s ∧ ∀ e : Element, ¬e.HasName (canonicalName s) := by
  simp only [← named?_eq_some_iff]
  rw [parse_eq]
  cases named? (canonicalName s) <;> simp [eq_comm]

theorem parse_label (e : Element) : parse e.label = .ok e := parse_eq_ok_iff.2 (.label e)

theorem parse_identifier (e : Element) : parse e.identifier = .ok e := by
  have hcanonical : ∀ e ∈ all, canonicalName e.identifier = e.identifier := by decide +kernel
  rw [parse_eq_ok_iff, hcanonical e (mem_all e)]
  exact .identifier e

/-- **The names of elements.** A text is accepted for an element exactly if its canonical form is a
name of that element, so no text names two elements; labels and identifiers are accepted as they are
written; a respelling names the same element as the text, or none like it; and a text that names no
element is refused and reported as it was given. -/
theorem parse_names :
    (∀ s e, parse s = .ok e ↔ e.HasName (canonicalName s)) ∧
    (∀ (d e : Element) (name : String), d.HasName name → e.HasName name → d = e) ∧
    (∀ e, parse e.label = .ok e ∧ parse e.identifier = .ok e) ∧
    (∀ s t, Respelled s t → (parse s).toOption = (parse t).toOption) ∧
    (∀ s fault, parse s = .error fault ↔
      fault = .element s ∧ ∀ e : Element, ¬e.HasName (canonicalName s)) := by
  refine ⟨fun _ _ => parse_eq_ok_iff, fun d e name hd he => ?_,
    fun e => ⟨parse_label e, parse_identifier e⟩, fun s t h => ?_, fun _ _ => parse_eq_error_iff⟩
  · have hsame := (named?_eq_some_iff.2 hd).symm.trans (named?_eq_some_iff.2 he)
    exact Option.some.inj hsame
  · rw [parse_eq, parse_eq, h.canonicalName_eq]
    cases named? (canonicalName t) <;> rfl

/-- The label of the squeezing gate in the other case, with a hyphen, and between wide blanks. -/
theorem parse_names_squeezing :
    let plain := "Squeezing Gate"
    let shouted := "sQUEEZING gATE"
    let hyphened := "Squeezing-Gate"
    let indented := String.ofList (['\u3000', '\t'] ++ plain.toList ++ ['\n'])
    (Respelled plain shouted ∧ Respelled plain hyphened ∧ Respelled plain indented) ∧
      (squeezeGate.HasName "squeeze_gate" ∧ squeezeGate.HasName (canonicalName indented)) ∧
      parse hyphened = .ok squeezeGate ∧
      (parse shouted).toOption = some squeezeGate ∧
      (parse hyphened).toOption = some squeezeGate ∧
      (parse indented).toOption = some squeezeGate ∧
      ∀ e : Element, e.HasName "squeeze_gate" → e = squeezeGate := by
  intro plain shouted hyphened indented
  obtain ⟨accepted, unique, written, respelled, -⟩ := parse_names
  have hplain : (parse plain).toOption = some squeezeGate :=
    congrArg Except.toOption (written squeezeGate).1
  have hshouted : Respelled plain shouted := .letters (by decide +kernel)
  have hhyphened : Respelled plain hyphened :=
    @Respelled.separators [] [] "queezing Gat".toList "queezing-Gat".toList 'S' 'e' (by simp)
      (by simp) (by decide) (by decide) (by decide +kernel)
  have hindented : Respelled plain indented := .blanks (by decide) (by decide)
  refine ⟨⟨hshouted, hhyphened, hindented⟩, ⟨.identifier squeezeGate, ?_⟩, ?_,
    (respelled _ _ hshouted).symm.trans hplain, (respelled _ _ hhyphened).symm.trans hplain,
    (respelled _ _ hindented).symm.trans hplain, fun e he => ?_⟩
  · rw [← hindented.canonicalName_eq]
    exact .label squeezeGate
  · rw [accepted, ← hhyphened.canonicalName_eq]
    exact .label squeezeGate
  · exact unique e squeezeGate _ he (.identifier squeezeGate)

end Element

end OpticalBench
