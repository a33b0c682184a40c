import OpticalBench.Gateway.Settings
import OpticalBench.Proofs.Json.Rereading

/-!
# Settings are read back without the secret

The settings of a gateway are written as one object, in which the extra settings follow the declared
ones. Reading has to tell them apart by their keys. The token is read but never written, and of the
timeout only the whole seconds are.

- `GatewaySettings.record?_encode`, `GatewaySettings.extraFields?_encode`: the declared fields and the
  extra ones are told apart.
- `GatewaySettings.decode?_encode`: what settings are decoded to after they were encoded.
- `GatewaySettings.RereadAs`: how what is read back is related to what was written.
- `GatewaySettings.reads_back_without_token`: which settings are read back, and that no text of them
  depends on the token.
- `GatewaySettings.exists_rereadAs_of_read?`: all settings that were read are such settings.
-/

namespace OpticalBench

open Json

theorem Framework.ofIdentifier?_identifier (f : Framework) : ofIdentifier? f.identifier = some f := by
  cases f <;> decide +kernel

theorem Duration.wholeSeconds_le (d : Duration) : d.wholeSeconds ≤ Text.max64 :=
  Nat.le_of_lt_succ d.whole.toNat_lt

namespace GatewaySettings

variable {s t : GatewaySettings}

/-! ## Declared and extra fields -/

/-- The declared fields that settings are written as. -/
def declaredFields (s : GatewaySettings) : List (String × Value) :=
  [("name", .text s.name), ("framework", .text s.framework.identifier),
    ("endpoint", .text s.endpoint), ("timeout", .ofNat s.timeout.wholeSeconds)]

/-- The fields that settings are written as. -/
def fields (s : GatewaySettings) : List (String × Value) := s.declaredFields ++ s.extra.entries

theorem keys_declaredFields (s : GatewaySettings) :
    s.declaredFields.map (·.1) = ["name", "framework", "endpoint", "timeout"] := rfl

theorem mem_fieldNames_of_declaredFields {e : String × Value} (he : e ∈ s.declaredFields) :
    e.1 ∈ fieldNames := by
  have hkey : e.1 ∈ s.declaredFields.map (·.1) := List.mem_map_of_mem he
  rw [keys_declaredFields] at hkey
  exact List.mem_append_left ["token"] hkey

theorem nodup_declaredFields (s : GatewaySettings) : (s.declaredFields.map (·.1)).Nodup := by
  rw [keys_declaredFields]
  decide

/-- Extra settings with keys of their own do not repeat any key. -/
theorem nodup_fields (hextra : ∀ key ∈ s.extra.keys, key ∉ fieldNames) :
    (s.fields.map (·.1)).Nodup := by
  rw [fields, List.map_append]
  refine s.nodup_declaredFields.append s.extra.nodup_keys fun key hdeclared hmem => ?_
  obtain ⟨e, he, rfl⟩ := List.mem_map.1 hdeclared
  exact hextra _ hmem (mem_fieldNames_of_declaredFields he)

/-- The declared fields are read as such. -/
theorem record?_encode (hextra : ∀ key ∈ s.extra.keys, key ∉ fieldNames) :
    s.encode.document.record? fieldNames = some (Document.recordOf s.declaredFields) := by
  have hdeclared : (s.declaredFields.filter fun e => e.1 ∈ fieldNames) = s.declaredFields :=
    List.filter_eq_self.2 fun _ he => decide_eq_true (mem_fieldNames_of_declaredFields he)
  have hnone : (s.extra.entries.filter fun e => e.1 ∈ fieldNames) = [] := by
    refine List.filter_eq_nil_iff.2 fun e he => ?_
    rw [decide_eq_true_iff]
    exact hextra e.1 (List.mem_map_of_mem he)
  have hrecord := Document.record?_object_eq_filter fieldNames (nodup_fields hextra)
  rw [fields, List.filter_append, hdeclared, hnone, List.append_nil] at hrecord
  exact hrecord

/-- The fields whose keys are not declared, as values. -/
theorem extraFields?_eq (ds : List (Option String × Document)) : extraFields? ds =
    (Value.ofFields? (Value.maxDepth - 1) (ds.filter fun e => !e.1.any (· ∈ fieldNames))).map
      .ofList := rfl

/-- The extra settings are read as such, one level deep. -/
theorem extraFields?_encode (hextra : ∀ key ∈ s.extra.keys, key ∉ fieldNames) :
    extraFields? (Value.fieldDocuments s.fields) =
      s.extra.traverse? fun v => Value.ofDocument? (Value.maxDepth - 1) v.document := by
  have hdeclared : (s.declaredFields.filter fun e => !decide (e.1 ∈ fieldNames)) = [] := by
    refine List.filter_eq_nil_iff.2 fun e he => ?_
    rw [decide_eq_true (mem_fieldNames_of_declaredFields he)]
    exact Bool.false_ne_true
  have hall : (s.extra.entries.filter fun e => !decide (e.1 ∈ fieldNames)) = s.extra.entries := by
    refine List.filter_eq_self.2 fun e he => ?_
    rw [decide_eq_false (hextra e.1 (List.mem_map_of_mem he))]
    rfl
  have hundeclared : (Value.fieldDocuments s.fields).filter
      (fun e => !e.1.any (· ∈ fieldNames)) = Value.fieldDocuments s.extra.entries := by
    rw [Value.fieldDocuments_eq_map, List.filter_map]
    -- all keys could be read, so the filter looks at the keys of the fields themselves
    show ((s.fields.filter fun e => !decide (e.1 ∈ fieldNames)).map _) = _
    rw [fields, List.filter_append, hdeclared, hall, List.nil_append, Value.fieldDocuments_eq_map]
  rw [extraFields?_eq, hundeclared, Value.ofFields?_fieldDocuments]
  rfl

/-! ## Decoding what was encoded -/

/-- The extra settings decide whether settings are read back. -/
theorem decode?_encode (hextra : ∀ key ∈ s.extra.keys, key ∉ fieldNames) :
    decode? s.encode.document =
      (s.extra.traverse? fun v => Value.ofDocument? (Value.maxDepth - 1) v.document).bind fun extra =>
        some { s with timeout := .ofSeconds s.timeout.wholeSeconds, token := none, extra } := by
  have hrequired : ∀ {α : Type} {field : String} (v : Value), (field, v) ∈ s.declaredFields →
      ∀ decode : Document → Option α,
        (Document.recordOf s.declaredFields).required? field decode = decode v.document :=
    fun _ hmem => Document.required?_recordOf s.nodup_declaredFields hmem
  have hname : (Document.recordOf s.declaredFields).required? "name" Document.text? = some s.name :=
    hrequired (.text s.name) (by simp [declaredFields]) _
  have hframework : (Document.recordOf s.declaredFields).required? "framework"
      (fun f => f.name?.bind Framework.ofIdentifier?) = some s.framework :=
    (hrequired (.text s.framework.identifier) (by simp [declaredFields]) _).trans
      s.framework.ofIdentifier?_identifier
  have hendpoint : (Document.recordOf s.declaredFields).required? "endpoint" Document.text? =
      some s.endpoint := hrequired (.text s.endpoint) (by simp [declaredFields]) _
  have htimeout : (Document.recordOf s.declaredFields).required? "timeout"
      (Document.natural? Text.max64) = some s.timeout.wholeSeconds :=
    (hrequired (.ofNat s.timeout.wholeSeconds) (by simp [declaredFields]) _).trans
      (Document.natural?_ofNat s.timeout.wholeSeconds_le s.timeout.wholeSeconds_le)
  have htoken : (Document.recordOf s.declaredFields).optional? "token"
      (Document.nullable? Document.text?) = some none :=
    Document.optional?_recordOf (o := none) (f := Value.text) rfl _
  have hdocument : s.encode.document = .object (Value.fieldDocuments s.fields) := rfl
  have hrecord := record?_encode hextra
  rw [hdocument] at hrecord ⊢
  rw [decode?, hrecord]
  simp only [Option.bind_eq_bind, Option.bind_some, hname, hframework, hendpoint, htimeout, htoken,
    extraFields?_encode hextra]

theorem read?_render (s : GatewaySettings) : read? s.render = decode? s.encode.document := by
  rw [read?, render, Document.read?_render, Option.bind_some]

/-! ## Reading back -/

/-- Settings are the same as others without the token, with whole seconds for the timeout, and with each
extra setting as it is read back. -/
structure RereadAs (s t : GatewaySettings) : Prop where
  name_eq : t.name = s.name
  framework_eq : t.framework = s.framework
  endpoint_eq : t.endpoint = s.endpoint
  timeout_eq : t.timeout = .ofSeconds s.timeout.wholeSeconds
  token_eq : t.token = none
  extra : s.extra.ReadAs Value.reread? t.extra

/-- An extra setting is the same if all floating-point numbers in it are read back as themselves. -/
theorem RereadAs.get?_eq_some (h : s.RereadAs t) {key : String} {v : Value}
    (hget : s.extra.get? key = some v) (same : ∀ x ∈ v.floats, x.reread? = some x) :
    t.extra.get? key = some v := by
  rw [h.extra.get?_eq, hget, Option.bind_some, Value.reread?_eq_self same]

/-- So are all settings if all floating-point numbers are read back as themselves. -/
theorem RereadAs.eq (h : s.RereadAs t)
    (same : ∀ v ∈ s.extra.values, ∀ x ∈ v.floats, x.reread? = some x) :
    t = { s with timeout := .ofSeconds s.timeout.wholeSeconds, token := none } := by
  have hextra : t.extra = s.extra := h.extra.eq fun v hv => Value.reread?_eq_self (same v hv)
  obtain ⟨hname, hframework, hendpoint, htimeout, htoken, -⟩ := h
  cases t
  simp_all

/-- Settings are read back if their extra settings do not nest too deep. -/
theorem exists_rereadAs (hextra : ∀ key ∈ s.extra.keys, key ∉ fieldNames)
    (hvalues : ∀ v ∈ s.extra.values, v.IsNormal ∧ v.depth < Value.maxDepth) :
    ∃ t, read? s.render = some t ∧ s.RereadAs t := by
  obtain ⟨extra, htraverse, hread⟩ :=
    TextMap.exists_readAs fun v hv => Value.exists_reread? (hvalues v hv).1
  refine ⟨{ s with timeout := .ofSeconds s.timeout.wholeSeconds, token := none, extra }, ?_,
    rfl, rfl, rfl, rfl, rfl, hread⟩
  -- the object of all settings takes one level, the extra settings have the others
  have hsame : (s.extra.traverse? fun v => Value.ofDocument? (Value.maxDepth - 1) v.document) =
      s.extra.traverse? Value.reread? := by
    refine TextMap.traverse?_congr fun v hv => ?_
    rw [Value.ofDocument?_document (hvalues v hv).1, if_pos (Nat.le_sub_one_of_lt (hvalues v hv).2)]
  rw [read?_render, decode?_encode hextra, hsame, htraverse, Option.bind_some]

/-- They are not if one of them does. -/
theorem read?_render_eq_none (hextra : ∀ key ∈ s.extra.keys, key ∉ fieldNames) {v : Value}
    (hv : v ∈ s.extra.values) (hnormal : v.IsNormal) (hdeep : Value.maxDepth ≤ v.depth) :
    read? s.render = none := by
  have hnone : Value.ofDocument? (Value.maxDepth - 1) v.document = none := by
    rw [Value.ofDocument?_document hnormal, if_neg]
    exact Nat.not_le.2 (Nat.lt_of_lt_of_le (by decide) hdeep)
  rw [read?_render, decode?_encode hextra, TextMap.traverse?_eq_none hv hnone, Option.bind_none]

/-- Extra settings that were read have keys of their own and do not nest too deep. -/
theorem of_extraFields? {ds : List (Option String × Document)} {extra : TextMap Value}
    (h : extraFields? ds = some extra) : ∀ e ∈ extra.entries,
      e.1 ∉ fieldNames ∧ e.2.IsNormal ∧ e.2.depth < Value.maxDepth := by
  obtain ⟨fields, hfields, rfl⟩ := Option.map_eq_some_iff.1 (extraFields?_eq ds ▸ h)
  rintro ⟨key, v⟩ hmem
  obtain ⟨d, hd, hv⟩ := Value.exists_of_mem_ofFields? hfields hmem
  obtain ⟨hnormal, hdepth⟩ := Value.isNormal_of_ofDocument? hv
  have hkey : (!decide (key ∈ fieldNames)) = true := (List.mem_filter.1 hd).2
  rw [Bool.not_eq_true', decide_eq_false_iff_not] at hkey
  exact ⟨hkey, hnormal, Nat.lt_of_le_of_lt hdepth (by decide)⟩

/-- Settings that were read can be written and read again. -/
theorem exists_rereadAs_of_read? {u : String} (h : read? u = some s) :
    ∃ t, read? s.render = some t ∧ s.RereadAs t := by
  obtain ⟨d, -, h⟩ := Option.bind_eq_some_iff.1 h
  cases d with
  | object ds =>
    obtain ⟨r, -, h⟩ := Option.bind_eq_some_iff.1 h
    obtain ⟨name, -, h⟩ := Option.bind_eq_some_iff.1 h
    obtain ⟨framework, -, h⟩ := Option.bind_eq_some_iff.1 h
    obtain ⟨endpoint, -, h⟩ := Option.bind_eq_some_iff.1 h
    obtain ⟨seconds, -, h⟩ := Option.bind_eq_some_iff.1 h
    obtain ⟨token, -, h⟩ := Option.bind_eq_some_iff.1 h
    obtain ⟨extra, hextra, h⟩ := Option.bind_eq_some_iff.1 h
    have hentries := of_extraFields? hextra
    rw [← Option.some.inj h]
    refine exists_rereadAs (fun key hkey => ?_) fun v hv => ?_
    · obtain ⟨e, he, rfl⟩ := List.mem_map.1 hkey
      exact (hentries e he).1
    · obtain ⟨e, he, rfl⟩ := List.mem_map.1 hv
      exact (hentries e he).2
  | _ => exact nomatch h

/-- Settings whose extra ones have keys of their own are read back: without the token, with whole seconds
for the timeout, and with the same extra settings up to numbers whose JSON text is not read as the number
itself. They are not if an extra setting nests too deep. Settings that differ only in the token have one
text and one debug text. -/
theorem reads_back_without_token :
    (∀ s : GatewaySettings, (∀ key ∈ s.extra.keys, key ∉ fieldNames) →
      (∀ v ∈ s.extra.values, v.IsNormal) →
        ((∀ v ∈ s.extra.values, v.depth < Value.maxDepth) →
          ∃ t, read? s.render = some t ∧ s.RereadAs t ∧
            (∀ key v, s.extra.get? key = some v → (∀ x ∈ v.floats, x.reread? = some x) →
              t.extra.get? key = some v) ∧
            ((∀ v ∈ s.extra.values, ∀ x ∈ v.floats, x.reread? = some x) →
              t = { s with timeout := .ofSeconds s.timeout.wholeSeconds, token := none })) ∧
        ((∃ v ∈ s.extra.values, Value.maxDepth ≤ v.depth) → read? s.render = none)) ∧
      ∀ s t : GatewaySettings, { s with token := t.token } = t →
        s.render = t.render ∧ s.debugText = t.debugText := by
  refine ⟨fun s hextra hnormal => ⟨fun hdepth => ?_, fun hdeep => ?_⟩, fun s t h => ?_⟩
  · obtain ⟨t, ht, hrelated⟩ := exists_rereadAs hextra fun v hv => ⟨hnormal v hv, hdepth v hv⟩
    exact ⟨t, ht, hrelated, fun _ _ => hrelated.get?_eq_some, hrelated.eq⟩
  · obtain ⟨v, hv, hdepth⟩ := hdeep
    exact read?_render_eq_none hextra hv (hnormal v hv) hdepth
  · rw [← h]
    exact ⟨rfl, rfl⟩

/-- So many arrays in each other. -/
def nested : Nat → Value
  | 0 => .null
  | n + 1 => .array [nested n]

theorem nested_spec (n : Nat) : (nested n).IsNormal ∧ (nested n).depth = n ∧ (nested n).floats = [] := by
  induction n with
  | zero => exact ⟨.null, rfl, rfl⟩
  | succ n ih =>
    obtain ⟨hnormal, hdepth, hfloats⟩ := ih
    refine ⟨.array fun v hv => List.mem_singleton.1 hv ▸ hnormal, ?_, ?_⟩
    · rw [nested, Value.depth, Value.itemsDepth, Value.itemsDepth, hdepth, Nat.max_zero]
    · rw [nested, Value.floats, Value.itemFloats, Value.itemFloats, hfloats, List.append_nil]

/-- An extra setting with arrays in each other, numbers of all kinds, and keys that are declared one level
higher. -/
def options (levels : Nat) : Value :=
  .object [("name", nested levels), ("token", .array
    [.number (.integer (-0x8000000000000000)), .number (.integer Text.max64),
      .number (.float .one)])]

theorem isNormal_options (levels : Nat) : (options levels).IsNormal := by
  have hkeys : "name" < "token" := by decide
  refine .object (List.pairwise_pair.2 hkeys) (List.forall_mem_cons.2 ⟨(nested_spec levels).1, ?_⟩)
  refine List.forall_mem_singleton.2 (.array ?_)
  simp only [List.forall_mem_cons]
  exact ⟨.number (by decide), .number (by decide), .number (by decide +kernel),
    fun _ h => absurd h List.not_mem_nil⟩

/-- Settings with a timeout of 2.5 s, a token, and one extra setting. -/
def sample (levels : Nat) : GatewaySettings where
  name := "lab \"1\""
  framework := .perceval
  endpoint := "http://localhost:8081"
  timeout := ⟨2, 500000000, by decide⟩
  token := some "secret"
  extra := .ofList [("options", options levels)]

/-- With as many levels as are read the settings come back without the token and the half second, with
one more they do not. -/
theorem reads_back_without_token_sample :
    read? (sample 125).render =
        some { sample 125 with timeout := .ofSeconds 2, token := none } ∧
      read? (sample 126).render = none ∧
      (sample 125).render = ({ sample 125 with token := none } : GatewaySettings).render := by
  have hvalues : ∀ levels, (sample levels).extra.values = [options levels] := fun _ => rfl
  have hkeys : ∀ levels, ∀ key ∈ (sample levels).extra.keys, key ∉ fieldNames := by
    intro levels key hkey
    obtain rfl : key = "options" := List.mem_singleton.1 hkey
    decide
  have hnormal : ∀ levels, ∀ v ∈ (sample levels).extra.values, v.IsNormal := by
    intro levels v hv
    obtain rfl := List.mem_singleton.1 (hvalues levels ▸ hv)
    exact isNormal_options levels
  have hdepth : ∀ levels, 0 < levels → (options levels).depth = levels + 1 := by
    intro levels hpos
    have hnested := (nested_spec levels).2.1
    simp only [options, Value.depth, Value.fieldsDepth, Value.itemsDepth, hnested]
    omega
  have hone : Binary64.one.reread? = some .one := by decide +kernel
  have hsame : ∀ v ∈ (sample 125).extra.values, ∀ x ∈ v.floats, x.reread? = some x := by
    intro v hv x hx
    obtain rfl := List.mem_singleton.1 hv
    have hfloats : (options 125).floats = [.one] := by
      rw [options, Value.floats, Value.fieldFloats, (nested_spec 125).2.2]
      rfl
    rw [hfloats] at hx
    rw [List.mem_singleton.1 hx, hone]
  have hlow : ∀ v ∈ (sample 125).extra.values, v.depth < Value.maxDepth := by
    intro v hv
    obtain rfl := List.mem_singleton.1 hv
    rw [hdepth 125 (by decide)]
    decide
  have hdeep : Value.maxDepth ≤ (options 126).depth := by
    rw [hdepth 126 (by decide)]
    decide
  refine ⟨?_, ?_, ?_⟩
  · obtain ⟨t, ht, -, -, heq⟩ :=
      (reads_back_without_token.1 (sample 125) (hkeys _) (hnormal _)).1 hlow
    rw [ht, heq hsame]
    rfl
  · exact (reads_back_without_token.1 (sample 126) (hkeys _) (hnormal _)).2
      ⟨options 126, List.mem_singleton.2 rfl, hdeep⟩
  · exact (reads_back_without_token.2 (sample 125) _ rfl).1

end GatewaySettings

end OpticalBench
