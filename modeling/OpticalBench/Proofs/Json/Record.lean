import Mathlib.Data.List.Forall2
import OpticalBench.Json.Record
import OpticalBench.Proofs.Json.NumberRange
import OpticalBench.Proofs.Json.Writing
import OpticalBench.Proofs.TextMap

/-!
# Fields that were written

What the fields of a record are decoded to, when the record was written from values.

- `mapM_eq_some_iff`, `mapM_eq_none`: a list is decoded item by item.
- `TextMap.traverse?`, `TextMap.ReadAs`: so is a map, and what it is decoded to has the same keys.
- `Document.record?_object_eq_filter`: an object is a record of its declared fields.
- `Document.required?_recordOf`, `Document.orElse?_recordOf`: a field that was written is decoded.
- `Document.optional?_recordOf`: a field that is written only if there is something is decoded.
- `reread?`: what a floating-point number is read back as. Finite numbers are read back, not always as
  themselves; others are not.
- `Document.textMap?_ofTextMap`: a map that was written is decoded value by value.
-/

namespace OpticalBench

variable {α β δ : Type}

/-! ## Lists -/

/-- A list is decoded item by item. -/
theorem mapM_eq_some_iff {f : α → Option β} {xs : List α} {ys : List β} :
    xs.mapM f = some ys ↔ List.Forall₂ (fun x y => f x = some y) xs ys := by
  induction xs generalizing ys with
  | nil =>
    rw [List.forall₂_nil_left_iff]
    exact ⟨fun h => (Option.some.inj h).symm, fun h => h ▸ rfl⟩
  | cons x xs ih =>
    rw [List.mapM_cons, List.forall₂_cons_left_iff]
    constructor
    · intro h
      obtain ⟨y, hy, h⟩ := Option.bind_eq_some_iff.1 h
      obtain ⟨ys', hys, h⟩ := Option.bind_eq_some_iff.1 h
      exact ⟨y, ys', hy, ih.1 hys, (Option.some.inj h).symm⟩
    · rintro ⟨y, ys', hy, hys, rfl⟩
      rw [hy, ih.2 hys]
      rfl

/-- What is related to a member. -/
theorem exists_related {R : α → β → Prop} {xs : List α} {ys : List β} (h : List.Forall₂ R xs ys)
    {x : α} (hx : x ∈ xs) : ∃ y ∈ ys, R x y := by
  induction h with
  | nil => exact absurd hx List.not_mem_nil
  | cons hhead _ ih =>
    rcases List.mem_cons.1 hx with rfl | hx
    · exact ⟨_, List.mem_cons_self, hhead⟩
    · obtain ⟨y, hy, hrelated⟩ := ih hx
      exact ⟨y, List.mem_cons_of_mem _ hy, hrelated⟩

/-- A list is decoded if every item is. -/
theorem exists_mapM_eq_some {f : α → Option β} {xs : List α}
    (h : ∀ x ∈ xs, ∃ y, f x = some y) : ∃ ys, xs.mapM f = some ys := by
  induction xs with
  | nil => exact ⟨[], rfl⟩
  | cons x xs ih =>
    obtain ⟨y, hy⟩ := h x List.mem_cons_self
    obtain ⟨ys, hys⟩ := ih fun z hz => h z (List.mem_cons_of_mem _ hz)
    refine ⟨y :: ys, ?_⟩
    rw [List.mapM_cons, hy, hys]
    rfl

/-- It is not if one item is not. -/
theorem mapM_eq_none {f : α → Option β} {xs : List α} {x : α} (hx : x ∈ xs) (h : f x = none) :
    xs.mapM f = none := by
  cases hmap : xs.mapM f with
  | none => rfl
  | some ys =>
    obtain ⟨y, -, hy⟩ := exists_related (mapM_eq_some_iff.1 hmap) hx
    exact nomatch h.symm.trans hy

/-- Decoding each item as itself gives the list. -/
theorem mapM_eq_self {f : α → Option α} {xs : List α} (h : ∀ x ∈ xs, f x = some x) :
    xs.mapM f = some xs :=
  mapM_eq_some_iff.2 (List.forall₂_same.2 h)

/-- Functions that agree on the items decode a list alike. -/
theorem mapM_congr {f g : α → Option β} {xs : List α} (h : ∀ x ∈ xs, f x = g x) :
    xs.mapM f = xs.mapM g := by
  induction xs with
  | nil => rfl
  | cons x xs ih =>
    rw [List.mapM_cons, List.mapM_cons, h x List.mem_cons_self,
      ih fun y hy => h y (List.mem_cons_of_mem _ hy)]

/-- Decoding the contents of entries keeps their keys. -/
theorem map_fst_of_mapM {g : α → Option β} {xs : List (String × α)} {ys : List (String × β)}
    (h : (xs.mapM fun e => (g e.2).map fun b => (e.1, b)) = some ys) :
    ys.map (·.1) = xs.map (·.1) := by
  refine (List.forall₂_eq_eq_eq ▸ List.forall₂_map_left_iff.2 (List.forall₂_map_right_iff.2 ?_) :
    xs.map (·.1) = ys.map (·.1)).symm
  refine (mapM_eq_some_iff.1 h).imp fun e f hentry => ?_
  obtain ⟨b, -, rfl⟩ := Option.map_eq_some_iff.1 hentry
  rfl

/-- What was decoded was decoded from an item. -/
theorem exists_of_mem_mapM {f : α → Option β} {xs : List α} {ys : List β}
    (h : xs.mapM f = some ys) {y : β} (hy : y ∈ ys) : ∃ x ∈ xs, f x = some y :=
  exists_related (mapM_eq_some_iff.1 h).flip hy

/-! ## Maps -/

namespace TextMap

/-- Read every value of a map. -/
def traverse? (g : α → Option β) (m : TextMap α) : Option (TextMap β) :=
  (m.entries.mapM fun e => (g e.2).map fun b => (e.1, b)).map ofList

/-- One map has the keys of another, and under each key what the value there is read as. -/
structure ReadAs (g : α → Option β) (m : TextMap α) (n : TextMap β) : Prop where
  keys_eq : n.keys = m.keys
  get?_eq : ∀ key, n.get? key = (m.get? key).bind g

variable {g : α → Option β} {m : TextMap α} {n : TextMap β}

theorem mem_values_of_get? {key : String} {a : α} (h : m.get? key = some a) : a ∈ m.values :=
  List.mem_map.2 ⟨(key, a), mem_entries_iff.2 h, rfl⟩

/-- With the same keys, only those that are there have to be compared. -/
theorem ReadAs.of_keys_eq (hkeys : n.keys = m.keys)
    (h : ∀ key a, m.get? key = some a → ∃ b, n.get? key = some b ∧ g a = some b) :
    m.ReadAs g n := by
  refine ⟨hkeys, fun key => ?_⟩
  cases hget : m.get? key with
  | none =>
    have hnot : key ∉ m.keys := lookup?_eq_none_iff.1 hget
    rw [← hkeys] at hnot
    exact lookup?_eq_none_iff.2 hnot
  | some a =>
    obtain ⟨b, hb, ha⟩ := h key a hget
    rw [hb, Option.bind_some, ha]

/-- A map is read if each of its values is. -/
theorem exists_readAs (h : ∀ a ∈ m.values, ∃ b, g a = some b) :
    ∃ n, m.traverse? g = some n ∧ m.ReadAs g n := by
  obtain ⟨entries, hentries⟩ : ∃ entries, (m.entries.mapM fun (e : String × α) =>
      (g e.2).map fun b => (e.1, b)) = some entries := by
    refine exists_mapM_eq_some fun e he => ?_
    obtain ⟨b, hb⟩ := h e.2 (List.mem_map_of_mem he)
    exact ⟨(e.1, b), by rw [hb, Option.map_some]⟩
  have hrelated := mapM_eq_some_iff.1 hentries
  have hkeys : entries.map (·.1) = m.keys := map_fst_of_mapM hentries
  have hascending : entries.Pairwise fun a b => a.1 < b.1 := by
    refine List.pairwise_map.1 ?_
    rw [hkeys]
    exact List.pairwise_map.2 m.ascending
  refine ⟨⟨entries, hascending⟩, ?_, ReadAs.of_keys_eq hkeys fun key a hget => ?_⟩
  · rw [traverse?, hentries, Option.map_some]
    exact congrArg some (ofList_entries ⟨entries, hascending⟩)
  · obtain ⟨f, hmem, hf⟩ := exists_related hrelated (mem_entries_iff.2 hget)
    obtain ⟨b, hb, rfl⟩ := Option.map_eq_some_iff.1 hf
    exact ⟨b, mem_entries_iff.1 hmem, hb⟩

/-- It is not read if one of them is not. -/
theorem traverse?_eq_none {a : α} (ha : a ∈ m.values) (h : g a = none) : m.traverse? g = none := by
  obtain ⟨e, he, rfl⟩ := List.mem_map.1 ha
  have hentry : ((g e.2).map fun b => (e.1, b)) = none := by rw [h, Option.map_none]
  rw [traverse?, mapM_eq_none he hentry, Option.map_none]

/-- Where every value is read as itself, the map is the same. -/
theorem ReadAs.eq {g : α → Option α} {m n : TextMap α} (h : m.ReadAs g n)
    (same : ∀ a ∈ m.values, g a = some a) : n = m := by
  refine eq_of_get?_eq fun key => ?_
  rw [h.get?_eq]
  cases hget : m.get? key with
  | none => rfl
  | some a => exact same a (mem_values_of_get? hget)

theorem traverse?_congr {f g : α → Option β} (h : ∀ a ∈ m.values, f a = g a) :
    m.traverse? f = m.traverse? g := by
  have hentries : ∀ e ∈ m.entries, ((f e.2).map fun b => (e.1, b)) =
      (g e.2).map fun b => (e.1, b) := by
    intro e he
    rw [h e.2 (List.mem_map_of_mem he)]
  rw [traverse?, mapM_congr hentries, traverse?]

theorem traverse?_eq_self {g : α → Option α} {m : TextMap α}
    (same : ∀ a ∈ m.values, g a = some a) : m.traverse? g = some m := by
  obtain ⟨n, hn, hread⟩ := exists_readAs fun a ha => ⟨a, same a ha⟩
  rw [hn, hread.eq same]

end TextMap

/-! ## Records -/

namespace Record

/-- Among fields without repetition, the declared ones are the fields of a record. -/
theorem declared?_eq_filter (declared : List String) (fields : List (String × δ))
    (nodup : (fields.map (·.1)).Nodup) :
    declared? declared (fields.map fun e => (some e.1, e.2)) =
      some (fields.filter fun e => e.1 ∈ declared) := by
  induction fields with
  | nil => rfl
  | cons e fields ih =>
    obtain ⟨key, d⟩ := e
    obtain ⟨hkey, nodup⟩ := List.nodup_cons.1 nodup
    have hnot : ¬((fields.filter fun e => e.1 ∈ declared).any fun e => e.1 == key) = true := by
      rw [List.any_eq_true]
      rintro ⟨e, he, heq⟩
      exact hkey (List.mem_map.2 ⟨e, List.mem_of_mem_filter he, beq_iff_eq.1 heq⟩)
    rw [List.map_cons, declared?, ih nodup]
    show (if key ∈ declared then if ((fields.filter _).any fun e => e.1 == key) = true then none else
      some ((key, d) :: fields.filter _) else some (fields.filter _)) = _
    by_cases h : key ∈ declared
    · rw [if_pos h, if_neg hnot, List.filter_cons, if_pos (decide_eq_true h)]
    · rw [if_neg h, List.filter_cons, if_neg (Bool.not_eq_true _ ▸ decide_eq_false h)]

end Record

namespace Json

variable {limit n : Nat} {x y : Binary64} {fields : List (String × Value)}

namespace Document

/-- The record with these fields. -/
def recordOf (fields : List (String × Value)) : Record Document :=
  ⟨true, fields.map fun e => (e.1, e.2.document)⟩

theorem keys_recordOf (fields : List (String × Value)) :
    (recordOf fields).found.map (·.1) = fields.map (·.1) := by
  rw [recordOf, List.map_map]
  rfl

/-- An object without repeated keys is a record of its declared fields. -/
theorem record?_object_eq_filter (declared : List String) (nodup : (fields.map (·.1)).Nodup) :
    (Value.object fields).document.record? declared =
      some (recordOf (fields.filter fun e => e.1 ∈ declared)) := by
  have hdeclared := Record.declared?_eq_filter declared (recordOf fields).found
    (keys_recordOf fields ▸ nodup)
  rw [recordOf, List.map_map, List.filter_map] at hdeclared
  rw [Value.document, Value.fieldDocuments_eq_map, record?]
  exact congrArg (Option.map (Record.mk true)) hdeclared

/-- An object that has only declared fields, each once, is a record of its fields. -/
theorem record?_object_of_declared {declared : List String} (nodup : (fields.map (·.1)).Nodup)
    (hmem : ∀ e ∈ fields, e.1 ∈ declared) :
    (Value.object fields).document.record? declared = some (recordOf fields) := by
  rw [record?_object_eq_filter declared nodup,
    List.filter_eq_self.2 fun e he => decide_eq_true (hmem e he)]

/-- An object whose keys are the declared ones, each once, is a record of its fields. -/
theorem record?_object (nodup : (fields.map (·.1)).Nodup) :
    (Value.object fields).document.record? (fields.map (·.1)) = some (recordOf fields) :=
  record?_object_of_declared nodup fun _ he => List.mem_map_of_mem he

/-- What is found in a record of fields. -/
theorem get?_recordOf_eq (fields : List (String × Value)) (field : String) :
    (recordOf fields).get? field = (TextMap.lookup? field fields).map Value.document :=
  TextMap.lookup?_map (fun _ => Value.document) field fields

theorem get?_recordOf (nodup : (fields.map (·.1)).Nodup) {field : String} {v : Value}
    (h : (field, v) ∈ fields) : (recordOf fields).get? field = some v.document := by
  rw [get?_recordOf_eq, (TextMap.lookup?_eq_some_iff nodup).2 h, Option.map_some]

/-- A field that was written is decoded. -/
theorem required?_recordOf (nodup : (fields.map (·.1)).Nodup) {field : String} {v : Value}
    (h : (field, v) ∈ fields) (decode : Document → Option α) :
    (recordOf fields).required? field decode = decode v.document := by
  rw [Record.required?, get?_recordOf nodup h, Option.bind_some]

/-- A field that was written is decoded, and its default is not used. -/
theorem orElse?_recordOf (nodup : (fields.map (·.1)).Nodup) {field : String} {v : Value}
    (h : (field, v) ∈ fields) (decode : Document → Option α) (default : α) :
    (recordOf fields).orElse? field decode default = decode v.document := by
  rw [Record.orElse?, get?_recordOf nodup h]

/-- A field that was written only if there was something. -/
theorem optional?_recordOf {field : String} {o : Option β} {f : β → Value}
    (h : TextMap.lookup? field fields = o.map f) (decode : Document → Option (Option α)) :
    (recordOf fields).optional? field decode =
      (o.map fun b => decode (f b).document).getD (some none) := by
  rw [Record.optional?, get?_recordOf_eq, h]
  cases o <;> rfl

/-! ## Fields -/

/-- A natural number is read back if it is in range. -/
theorem natural?_ofNat (hlimit : n ≤ limit) (hmax : n ≤ Text.max64) :
    (Value.ofNat n).document.natural? limit = some n := by
  have hdocument : (Value.ofNat n).document = .numeral (.ofInt n) := rfl
  rw [hdocument, natural?, Number.ofNumeral?_natural hmax]
  exact if_pos hlimit

end Document

end Json

/-! ## Numbers -/

open Json (Value Document)

/-- What a number is read back as: it is written as a JSON text, and this text is read. -/
def Binary64.reread? (x : Binary64) : Option Binary64 :=
  (Document.read? (Value.ofBinary64 x).render).bind Document.binary64?

namespace Json.Document

/-- Within a document it is read back as from a text of its own. -/
theorem binary64?_ofBinary64 (x : Binary64) :
    (Value.ofBinary64 x).document.binary64? = x.reread? := by
  rw [Binary64.reread?, read?_render, Option.bind_some]

/-- What was read is finite. -/
theorem isFinite_of_binary64? {d : Document} (h : d.binary64? = some x) : x.isFinite = true := by
  cases d with
  | numeral n =>
    obtain ⟨number, hnumber, rfl⟩ := Option.map_eq_some_iff.1 h
    exact Number.isFinite_of_ofNumeral? hnumber
  | _ => exact nomatch h

end Json.Document

namespace Binary64

variable {x : Binary64}

/-- Finite numbers are read back, though perhaps not as themselves. -/
theorem exists_reread? (h : x.isFinite = true) : ∃ y, x.reread? = some y := by
  obtain ⟨number, hnumber⟩ := Option.isSome_iff_exists.1 (Json.Number.isSome_ofNumeral?_numeral h)
  refine ⟨number.toBinary64, ?_⟩
  rw [← Document.binary64?_ofBinary64, Value.ofBinary64, if_pos h]
  show (Json.Number.ofNumeral? (x.numeral .json)).map _ = _
  rw [hnumber, Option.map_some]

/-- Numbers that are not finite are not read back. -/
theorem reread?_eq_none (h : x.isFinite = false) : x.reread? = none := by
  rw [← Document.binary64?_ofBinary64, Value.ofBinary64, if_neg (by simp [h])]
  rfl

end Binary64

namespace Json.Document

/-- Where there may be nothing, a number that is not finite is read back as nothing. -/
theorem nullable?_ofBinary64 (x : Binary64) :
    (Value.ofBinary64 x).document.nullable? binary64? = some x.reread? := by
  cases h : x.isFinite with
  | false =>
    rw [Binary64.reread?_eq_none h, Value.ofBinary64, if_neg (by simp [h])]
    rfl
  | true =>
    obtain ⟨y, hy⟩ := Binary64.exists_reread? h
    have hdocument : (Value.ofBinary64 x).document = .numeral (x.numeral .json) := by
      rw [Value.ofBinary64, if_pos h]
      rfl
    have hnumber := (binary64?_ofBinary64 x).trans hy
    rw [hdocument] at hnumber
    rw [hdocument, hy]
    exact congrArg (Option.map some) hnumber

/-! ## Maps of values -/

variable {decode : Document → Option β}

/-- A map is decoded entry by entry. -/
theorem textMap?_ofTextMap (f : α → Value) (m : TextMap α) :
    (Value.ofTextMap f m).document.textMap? decode =
      m.traverse? fun a => decode (f a).document := by
  have hentry : ∀ e : String × α, (do
      let k ← some e.1
      let b ← decode (f e.2).document
      some (k, b)) = (decode (f e.2).document).map fun b => (e.1, b) := by
    intro e
    show (decode (f e.2).document).bind _ = _
    cases decode (f e.2).document <;> rfl
  rw [Value.ofTextMap, Value.document, Value.fieldDocuments_eq_map, List.map_map, textMap?,
    List.mapM_map]
  exact congrArg (fun g => (m.entries.mapM g).map TextMap.ofList) (funext hentry)

/-- A map of floating-point numbers is decoded to what the numbers are read back as. -/
theorem textMap?_ofBinary64 (m : TextMap Binary64) :
    (Value.ofTextMap .ofBinary64 m).document.textMap? binary64? = m.traverse? Binary64.reread? := by
  simp only [textMap?_ofTextMap, binary64?_ofBinary64]

end Json.Document

end OpticalBench
