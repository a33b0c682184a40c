import OpticalBench.Circuit.Codec
import OpticalBench.Proofs.Json.Record
import OpticalBench.Proofs.Text.Uuid

/-!
# Circuits are read back

A circuit whose numbers are finite is written to a text from which a circuit with the same modes and
the same operations is read. Numbers go through their JSON texts and come back as those are read. A
number that is not finite has no JSON text, so a circuit with such a number cannot be read back.

- `Parameters.reread?`: what parameters are read back as, under the same names.
- `Operation.decode?_encode`: an operation is read back if its numbers are.
- `Operation.RereadAs`, `Circuit.RereadAs`: how what is read back is related to what was written.
- `Circuit.isFinite_of_read?`: what was read can be written and read again.
- `Circuit.render_roundTrip`: which circuits are read back, and as what.
-/

namespace OpticalBench

/-! ## Names and modes -/

theorem Element.ofIdentifier?_identifier (e : Element) : ofIdentifier? e.identifier = some e := by
  cases e <;> decide +kernel

theorem Mode.decode?_encode (m : Mode) : decode? (Json.Value.ofNat m.index).document = some m := by
  have hlimit : m.index ≤ Text.max32 := Nat.le_of_lt_succ m.index_lt
  have hmax : m.index ≤ Text.max64 := Nat.le_trans hlimit (by decide)
  rw [decode?, Json.Document.natural?_ofNat hlimit hmax, Option.bind_some, ofNat?,
    dif_pos m.index_lt]

/-! ## Parameters -/

namespace Parameters

/-- What parameters are read back as. -/
def reread? (p : Parameters) : Option Parameters :=
  (p.entries.mapM fun (e : String × Binary64) => e.2.reread?.map fun y => (e.1, y)).map
    TextMap.ofList

theorem reread?_eq_traverse? (p : Parameters) : p.reread? = p.traverse? Binary64.reread? := rfl

theorem textMap?_encode (p : Parameters) :
    (encode p).document.textMap? Json.Document.binary64? = p.reread? :=
  (Json.Document.textMap?_ofBinary64 p).trans p.reread?_eq_traverse?.symm

/-- Finite parameters are read back under the same names. -/
theorem exists_reread? {p : Parameters} (h : ∀ x ∈ p.values, x.isFinite = true) :
    ∃ q, p.reread? = some q ∧ q.keys = p.keys ∧
      ∀ key x, p.get? key = some x → ∃ y, q.get? key = some y ∧ x.reread? = some y := by
  obtain ⟨q, hq, hread⟩ := TextMap.exists_readAs fun x hx => Binary64.exists_reread? (h x hx)
  refine ⟨q, (reread?_eq_traverse? p).trans hq, hread.keys_eq, fun key x hx => ?_⟩
  obtain ⟨y, hy⟩ := Binary64.exists_reread? (h x (TextMap.mem_values_of_get? hx))
  have hget := hread.get?_eq key
  rw [hx, Option.bind_some, hy] at hget
  exact ⟨y, hget, hy⟩

/-- If one parameter is not finite, the parameters are not read back. -/
theorem reread?_eq_none {p : Parameters} {x : Binary64} (hx : x ∈ p.values)
    (h : x.isFinite = false) : p.reread? = none := by
  rw [reread?_eq_traverse?, TextMap.traverse?_eq_none hx (Binary64.reread?_eq_none h)]

/-- Parameters that were read are finite. -/
theorem isFinite_of_textMap? {d : Json.Document} {p : Parameters}
    (h : d.textMap? Json.Document.binary64? = some p) : ∀ x ∈ p.values, x.isFinite = true := by
  cases d with
  | object fields =>
    obtain ⟨entries, hentries, rfl⟩ := Option.map_eq_some_iff.1 h
    intro x hx
    obtain ⟨⟨key, x⟩, hmem, rfl⟩ := List.mem_map.1 hx
    obtain ⟨⟨name, content⟩, -, hfield⟩ :=
      exists_of_mem_mapM hentries (TextMap.mem_of_mem_entries_ofList hmem)
    obtain ⟨k, -, hfield⟩ := Option.bind_eq_some_iff.1 hfield
    obtain ⟨y, hy, hpair⟩ := Option.bind_eq_some_iff.1 hfield
    obtain ⟨-, rfl⟩ := Prod.mk.inj (Option.some.inj hpair)
    exact Json.Document.isFinite_of_binary64? hy
  | _ => exact nomatch h

end Parameters

/-! ## Operations -/

namespace Operation

/-- The fields that an operation is written as. -/
def fields (op : Operation) : List (String × Json.Value) :=
  [("id", .text op.id.text), ("kind", .text op.element.identifier),
    ("mode", .ofNat op.mode.index), ("position", .ofBinary64 op.position),
    ("parameters", Parameters.encode op.parameters)]

theorem nodup_fields (op : Operation) : (op.fields.map (·.1)).Nodup := by
  show fieldNames.Nodup
  decide

/-- An operation is read back if its numbers are. -/
theorem decode?_encode (op : Operation) : decode? op.encode.document =
    op.position.reread?.bind fun position => op.parameters.reread?.bind fun parameters =>
      some ⟨op.id, op.element, op.mode, position, parameters⟩ := by
  have hrecord : op.encode.document.record? fieldNames = some (Json.Document.recordOf op.fields) :=
    Json.Document.record?_object op.nodup_fields
  have hrequired : ∀ {α : Type} {field : String} (v : Json.Value), (field, v) ∈ op.fields →
      ∀ decode : Json.Document → Option α,
        (Json.Document.recordOf op.fields).required? field decode = decode v.document :=
    fun _ hmem => Json.Document.required?_recordOf op.nodup_fields hmem
  have hid : (Json.Document.recordOf op.fields).required? "id"
      (fun f => f.text?.bind Uuid.read?) = some op.id :=
    (hrequired (.text op.id.text) (by simp [fields]) _).trans op.id.read?_text
  have helement : (Json.Document.recordOf op.fields).required? "kind"
      (fun f => f.name?.bind Element.ofIdentifier?) = some op.element :=
    (hrequired (.text op.element.identifier) (by simp [fields]) _).trans
      op.element.ofIdentifier?_identifier
  have hmode : (Json.Document.recordOf op.fields).required? "mode" Mode.decode? = some op.mode :=
    (hrequired (.ofNat op.mode.index) (by simp [fields]) _).trans op.mode.decode?_encode
  have hposition : (Json.Document.recordOf op.fields).required? "position"
      Json.Document.binary64? = op.position.reread? :=
    (hrequired (.ofBinary64 op.position) (by simp [fields]) _).trans
      (Json.Document.binary64?_ofBinary64 _)
  have hparameters : (Json.Document.recordOf op.fields).required? "parameters"
      (Json.Document.textMap? Json.Document.binary64?) = op.parameters.reread? :=
    (hrequired (Parameters.encode op.parameters) (by simp [fields]) _).trans
      (Parameters.textMap?_encode _)
  rw [decode?, hrecord]
  simp only [Option.bind_eq_bind, Option.bind_some, hid, helement, hmode, hposition, hparameters]

/-- The position and all parameters are finite. -/
def IsFinite (op : Operation) : Prop :=
  op.position.isFinite = true ∧ ∀ x ∈ op.parameters.values, x.isFinite = true

instance (op : Operation) : Decidable op.IsFinite := by
  unfold IsFinite
  infer_instance

/-- An operation is the same as another up to the numbers, and each number of it is what the other's
number is read back as. In particular a number that is read back as itself is the same. -/
structure RereadAs (a b : Operation) : Prop where
  id_eq : b.id = a.id
  element_eq : b.element = a.element
  mode_eq : b.mode = a.mode
  position_eq : a.position.reread? = some b.position
  keys_eq : b.parameters.keys = a.parameters.keys
  parameter_eq : ∀ key x, a.parameters.get? key = some x →
    ∃ y, b.parameters.get? key = some y ∧ x.reread? = some y

/-- Where every number is read back as itself, the operation is the same. -/
theorem RereadAs.eq {a b : Operation} (h : a.RereadAs b)
    (hposition : a.position.reread? = some a.position)
    (hparameters : ∀ x ∈ a.parameters.values, x.reread? = some x) : b = a := by
  obtain ⟨hid, helement, hmode, hposition', hkeys, hvalues⟩ := h
  have hpositions : b.position = a.position := Option.some.inj (hposition'.symm.trans hposition)
  have hread : a.parameters.ReadAs Binary64.reread? b.parameters := .of_keys_eq hkeys hvalues
  have hlookup : b.parameters = a.parameters := hread.eq hparameters
  cases a
  cases b
  simp_all

variable {op : Operation}

theorem exists_rereadAs (h : op.IsFinite) :
    ∃ b, decode? op.encode.document = some b ∧ op.RereadAs b := by
  obtain ⟨position, hposition⟩ := Binary64.exists_reread? h.1
  obtain ⟨parameters, hparameters, hkeys, hvalues⟩ := Parameters.exists_reread? h.2
  refine ⟨⟨op.id, op.element, op.mode, position, parameters⟩, ?_, rfl, rfl, rfl, hposition, hkeys,
    hvalues⟩
  rw [decode?_encode, hposition, Option.bind_some, hparameters, Option.bind_some]

theorem decode?_encode_eq_none (h : ¬op.IsFinite) : decode? op.encode.document = none := by
  rw [decode?_encode]
  by_cases hposition : op.position.isFinite = true
  · have hparameter : ∃ x ∈ op.parameters.values, x.isFinite = false := by
      by_contra hall
      refine h ⟨hposition, fun x hx => ?_⟩
      by_contra hx'
      exact hall ⟨x, hx, Bool.eq_false_iff.2 hx'⟩
    obtain ⟨x, hx, hx'⟩ := hparameter
    rw [Parameters.reread?_eq_none hx hx']
    exact Option.bind_eq_none_iff.2 fun _ _ => rfl
  · rw [Binary64.reread?_eq_none (Bool.eq_false_iff.2 hposition), Option.bind_none]

theorem rereadAs_of_decode? {b : Operation} (h : decode? op.encode.document = some b) :
    op.RereadAs b := by
  by_cases hfinite : op.IsFinite
  · obtain ⟨b', hb', hrelated⟩ := exists_rereadAs hfinite
    exact Option.some.inj (h.symm.trans hb') ▸ hrelated
  · exact nomatch h.symm.trans (decode?_encode_eq_none hfinite)

/-- An operation that was read is finite. -/
theorem isFinite_of_decode? {d : Json.Document} (h : decode? d = some op) : op.IsFinite := by
  obtain ⟨r, -, h⟩ := Option.bind_eq_some_iff.1 h
  obtain ⟨id, -, h⟩ := Option.bind_eq_some_iff.1 h
  obtain ⟨element, -, h⟩ := Option.bind_eq_some_iff.1 h
  obtain ⟨mode, -, h⟩ := Option.bind_eq_some_iff.1 h
  obtain ⟨position, hposition, h⟩ := Option.bind_eq_some_iff.1 h
  obtain ⟨parameters, hparameters, h⟩ := Option.bind_eq_some_iff.1 h
  obtain ⟨content, -, hposition⟩ := Option.bind_eq_some_iff.1 hposition
  obtain ⟨content, -, hparameters⟩ := Option.bind_eq_some_iff.1 hparameters
  rw [← Option.some.inj h]
  exact ⟨Json.Document.isFinite_of_binary64? hposition,
    Parameters.isFinite_of_textMap? hparameters⟩

end Operation

/-! ## Circuits -/

namespace Circuit

variable {c d : Circuit}

/-- All positions and parameters are finite. -/
def IsFinite (c : Circuit) : Prop := ∀ op ∈ c.operations, op.IsFinite

instance (c : Circuit) : Decidable c.IsFinite := by
  unfold IsFinite
  infer_instance

/-- The same modes, the same operations in the same order up to how their numbers are read back, and no
remembered source. -/
structure RereadAs (c d : Circuit) : Prop where
  modeCount_eq : d.modeCount = c.modeCount
  operations_eq : List.Forall₂ Operation.RereadAs c.operations d.operations
  source_eq : d.source = ""

/-- The fields that a circuit is written as. -/
def fields (c : Circuit) : List (String × Json.Value) :=
  [("mode_count", .ofNat c.modeCount.toNat),
    ("operations", .array (c.operations.map Operation.encode))]

theorem nodup_fields (c : Circuit) : (c.fields.map (·.1)).Nodup := by
  show fieldNames.Nodup
  decide

/-- A circuit is read back if its operations are. -/
theorem read?_render_eq (c : Circuit) : read? c.render =
    (c.operations.mapM fun op => Operation.decode? op.encode.document).bind fun operations =>
      some ⟨c.modeCount, operations, ""⟩ := by
  have hrecord : c.encode.document.record? fieldNames = some (Json.Document.recordOf c.fields) :=
    Json.Document.record?_object c.nodup_fields
  have hmodes : (Json.Document.recordOf c.fields).orElse? "mode_count"
      (Json.Document.natural? Text.max32) ModeCount.default.toNat = some c.modeCount.toNat := by
    have hlimit : c.modeCount.toNat ≤ Text.max32 := Nat.le_trans c.modeCount.le_eight (by decide)
    exact (Json.Document.orElse?_recordOf c.nodup_fields (v := .ofNat c.modeCount.toNat)
      (by simp [fields]) _ _).trans
        (Json.Document.natural?_ofNat hlimit (Nat.le_trans hlimit (by decide)))
  have hoperations : (Json.Document.recordOf c.fields).orElse? "operations"
      (Json.Document.items? Operation.decode?) [] =
        c.operations.mapM fun op => Operation.decode? op.encode.document := by
    refine (Json.Document.orElse?_recordOf c.nodup_fields
      (v := .array (c.operations.map Operation.encode)) (by simp [fields]) _ _).trans ?_
    rw [Json.Value.document, Json.Value.itemDocuments_eq_map, List.map_map, Json.Document.items?,
      List.mapM_map]
    rfl
  rw [read?, render, Json.Document.read?_render, Option.bind_some, decode?, hrecord]
  simp only [Option.bind_eq_bind, Option.bind_some, hmodes, hoperations, ModeCount.clamp_toNat]

theorem exists_rereadAs (h : c.IsFinite) : ∃ d, read? c.render = some d ∧ c.RereadAs d := by
  obtain ⟨operations, hoperations⟩ := exists_mapM_eq_some fun op hop =>
    (Operation.exists_rereadAs (h op hop)).imp fun _ hb => hb.1
  refine ⟨⟨c.modeCount, operations, ""⟩, ?_, rfl, ?_, rfl⟩
  · rw [read?_render_eq, hoperations, Option.bind_some]
  · exact (mapM_eq_some_iff.1 hoperations).imp fun _ _ => Operation.rereadAs_of_decode?

theorem read?_render_eq_none (h : ¬c.IsFinite) : read? c.render = none := by
  obtain ⟨op, hop, hnot⟩ : ∃ op ∈ c.operations, ¬op.IsFinite := by
    simpa only [IsFinite, not_forall, exists_prop] using h
  have hnone : (c.operations.mapM fun op => Operation.decode? op.encode.document) = none :=
    mapM_eq_none hop (Operation.decode?_encode_eq_none hnot)
  rw [read?_render_eq, hnone, Option.bind_none]

/-- A circuit that was read is finite. -/
theorem isFinite_of_read? {s : String} (h : read? s = some c) : c.IsFinite := by
  obtain ⟨d, -, h⟩ := Option.bind_eq_some_iff.1 h
  obtain ⟨r, -, h⟩ := Option.bind_eq_some_iff.1 h
  obtain ⟨modes, -, h⟩ := Option.bind_eq_some_iff.1 h
  obtain ⟨operations, hoperations, h⟩ := Option.bind_eq_some_iff.1 h
  rw [← Option.some.inj h]
  intro op hop
  rw [Record.orElse?] at hoperations
  split at hoperations
  case h_1 =>
    rw [← Option.some.inj hoperations] at hop
    exact absurd hop List.not_mem_nil
  case h_2 content _ =>
    cases content with
    | array items =>
      obtain ⟨item, -, hitem⟩ := exists_of_mem_mapM hoperations hop
      exact Operation.isFinite_of_decode? hitem
    | _ => cases hoperations

/-- A circuit is read back from its own text exactly if all its numbers are finite: with the same number
of modes, and the same operations in the same order, up to numbers whose JSON text is not read as the
number itself. Every circuit that was read is such a circuit. -/
theorem render_roundTrip (c : Circuit) :
    (c.IsFinite → ∃ d, read? c.render = some d ∧ c.RereadAs d) ∧
      (¬c.IsFinite → read? c.render = none) ∧
      ∀ s, read? s = some c → ∃ d, read? c.render = some d ∧ c.RereadAs d :=
  ⟨exists_rereadAs, read?_render_eq_none, fun _ h => exists_rereadAs (isFinite_of_read? h)⟩

/-- A phase shift at a position, with one more parameter whose name has to be escaped. -/
def phaseShift (position : Binary64) : Circuit :=
  (withModes 3).addAt default .phaseShifter .first position
    (some (.ofList [("phi", .one), ("\"\\\u0001", .zero true)]))

/-- At a finite position it is read back, and so is what was read; at infinity it is not. -/
theorem render_roundTrip_phaseShift :
    ((phaseShift .one).IsFinite ∧ ∃ d, read? (phaseShift .one).render = some d ∧
      (phaseShift .one).RereadAs d ∧ ∃ e, read? d.render = some e ∧ d.RereadAs e) ∧
    ¬(phaseShift (.infinity true)).IsFinite ∧
      read? (phaseShift (.infinity true)).render = none := by
  have hfinite : (phaseShift .one).IsFinite := by decide +kernel
  have hinfinite : ¬(phaseShift (.infinity true)).IsFinite := by decide +kernel
  obtain ⟨d, hd, hrelated⟩ := (render_roundTrip (phaseShift .one)).1 hfinite
  exact ⟨⟨hfinite, d, hd, hrelated, (render_roundTrip d).2.2 _ hd⟩, hinfinite,
    (render_roundTrip _).2.1 hinfinite⟩

end Circuit

end OpticalBench
