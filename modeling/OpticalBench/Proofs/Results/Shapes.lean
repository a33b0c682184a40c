import OpticalBench.Proofs.Json.Rereading
import OpticalBench.Proofs.Results.Spelling
import OpticalBench.Proofs.TextMap
import OpticalBench.Results.Basic

/-!
# The shapes of a map of numbers

Services report a map of numbers as an object or as a literal in one of many spellings, at the top
level of the payload or one level deeper. All of them are the same to `Results.interpret`.

- `read?_dict`, `read?_pairs`: a literal is read as the object with its entries.
- `Shape`: the shapes in which some entries can be reported.
- `numberMap?_of_shape`: every shape is read as the same map.
- `Becomes`: what becomes of entries that are reported in one of the three fields.
- `interpret_shapes`: every shape, in either place, gives the same results.
-/

namespace OpticalBench

open Json Text

namespace DictLiteral

/-! ## Scanning -/

/-- The fields of an object with some entries. -/
def fields (xs : List (Entry × Style)) : List (Option String × Document) :=
  xs.map fun x => (some x.1.label, .numeral x.1.numeral)

/-- The items of an array with some entries. -/
def items (xs : List (Entry × Style)) : List Document :=
  xs.map fun x => .array [.text (some x.1.label), .numeral x.1.numeral]

variable {rest : List Char} {ts : List Token}

/-- A label in the notation of JSON is the token of its content. -/
theorem scans_label (e : Entry) (h : Scans rest ts) :
    Scans ('"' :: e.label.toList ++ '"' :: rest) (.text (some e.label) :: ts) := by
  have hscans := Scans.text e.plain.plain h
  rwa [String.ofList_toList] at hscans

/-- An object with entries. -/
theorem scans_dict (xs : List (Entry × Style)) :
    Scans (Layout.dict.plain xs) (Document.object (fields xs)).tokens := by
  rw [Document.tokens, Document.fieldTokens_true, fields, separated_map]
  refine .mark rfl (by decide) (.separated (fun x _ rest ts hrest hts => ?_)
    (boundary_cons (by decide) _) (.mark rfl (by decide) .nil))
  have hnumber := Scans.space (c := ' ') (by decide) (Scans.numeral x.1.taken hrest hts)
  have hlabel := scans_label x.1 (.mark (c := ':') rfl (by decide) hnumber)
  simpa [Layout.item, Layout.dict, Document.tokens] using hlabel

/-- An array with the entries as lists of two. -/
theorem scans_lists (xs : List (Entry × Style)) :
    Scans (Layout.lists.plain xs) (Document.array (items xs)).tokens := by
  rw [Document.tokens, Document.itemTokens_true, items, separated_map]
  refine .mark rfl (by decide) (.separated (fun x _ rest ts hrest hts => ?_)
    (boundary_cons (by decide) _) (.mark rfl (by decide) .nil))
  have hclose : Scans (']' :: rest) (.closeBracket :: ts) := .mark rfl (by decide) hts
  have hnumber := Scans.space (c := ' ') (by decide)
    (Scans.numeral x.1.taken (boundary_cons (by decide) _) hclose)
  have hlabel := scans_label x.1 (.mark (c := ',') rfl (by decide) hnumber)
  have hitem := Scans.mark (c := '[') rfl (by decide) hlabel
  simpa [Layout.item, Layout.lists, Document.tokens, Document.itemTokens] using hitem

/-! ## Reading -/

/-- Entries as the fields of an object. -/
def numberFields (es : List Entry) : List (String × Value) :=
  es.map fun e => (e.label, .number e.number)

/-- The object with some entries. -/
def objectOf (es : List Entry) : Value := .object (Value.sortFields (numberFields es))

theorem ofFields?_fields (budget : Nat) (xs : List (Entry × Style)) :
    Value.ofFields? budget (fields xs) = some (numberFields (xs.map (·.1))) := by
  induction xs with
  | nil => rfl
  | cons x xs ih =>
    have hnumber : Value.ofDocument? budget (.numeral x.1.numeral) = some (.number x.1.number) := by
      rw [Value.ofDocument?, x.1.denotes, Option.map_some]
    show Value.ofFields? budget ((some x.1.label, .numeral x.1.numeral) :: fields xs) = _
    rw [Value.ofFields?, hnumber, ih]
    rfl

theorem mapM_pair?_items (xs : List (Entry × Style)) :
    (items xs).mapM pair? = some (numberFields (xs.map (·.1))) := by
  induction xs with
  | nil => rfl
  | cons x xs ih =>
    have hpair : pair? (.array [.text (some x.1.label), .numeral x.1.numeral]) =
        some (x.1.label, .number x.1.number) := by
      rw [pair?]
      show (Value.ofDocument? _ (.numeral x.1.numeral)).bind _ = _
      rw [Value.ofDocument?, x.1.denotes]
      rfl
    show (Document.array [.text (some x.1.label), .numeral x.1.numeral] :: items xs).mapM pair? = _
    rw [List.mapM_cons, hpair, ih]
    rfl

/-- Swapping a character changes each part of a text by itself. -/
theorem turns_swap (old new : Char) (cs : List Char) :
    Text.Turns (swap old new) cs (swap old new cs) := by
  intro rest
  rw [swap, swap, swap, List.map_append]

variable {xs : List (Entry × Style)}

/-- Round brackets become square. -/
theorem swap_pairs (hopen : ∀ x ∈ xs, '(' ∉ x.1.label.toList)
    (hclose : ∀ x ∈ xs, ')' ∉ x.1.label.toList) :
    swap ')' ']' (swap '(' '[' (Layout.pairs.plain xs)) = Layout.lists.plain xs := by
  -- the opening brackets are swapped first
  let half : Layout := ⟨['['], ['['], [',', ' '], [')'], [']']⟩
  have hmarks : Layout.pairs.Turns (swap '(' '[') half :=
    ⟨turns_swap _ _ ['['], turns_swap _ _ ['('], turns_swap _ _ [',', ' '], turns_swap _ _ [')'],
      turns_swap _ _ [']'], turns_swap _ _ [',', ' ']⟩
  have hmarks' : half.Turns (swap ')' ']') .lists :=
    ⟨turns_swap _ _ ['['], turns_swap _ _ ['['], turns_swap _ _ [',', ' '], turns_swap _ _ [')'],
      turns_swap _ _ [']'], turns_swap _ _ [',', ' ']⟩
  have hlabel : ∀ old new : Char, old ≠ '"' → ∀ x ∈ xs, old ∉ x.1.label.toList →
      Text.Turns (swap old new) (x.1.label.toList ++ ['"']) (x.1.label.toList ++ ['"']) := by
    intro old new hold x _ hx
    refine .of_not_mem (passesOver_swap old new) ?_
    simpa [hold] using hx
  have hhalf : swap '(' '[' (Layout.pairs.plain xs) = half.plain xs :=
    (hmarks.text (fun _ _ => turns_swap _ _ ['"'])
      (fun x hx => hlabel _ _ (by decide) x hx (hopen x hx))
      (fun x _ => .of_not_mem (passesOver_swap _ _) (x.1.not_mem_text (by decide)))).eq rfl
  have hwhole : swap ')' ']' (half.plain xs) = Layout.lists.plain xs :=
    (hmarks'.text (fun _ _ => turns_swap _ _ ['"'])
      (fun x hx => hlabel _ _ (by decide) x hx (hclose x hx))
      (fun x _ => .of_not_mem (passesOver_swap _ _) (x.1.not_mem_text (by decide)))).eq rfl
  rw [hhalf, hwhole]

variable {front back : List Char}

/-- A dictionary literal is read as the object with its entries. -/
theorem read?_dict (w : Wrapper) (hfront : ∀ b ∈ front, isBlank b = true)
    (hback : ∀ b ∈ back, isBlank b = true) :
    read? (String.ofList (front ++ w.wrap (Layout.dict.spelled xs) ++ back)) =
      some (objectOf (xs.map (·.1))) := by
  have hnormal : normalize (front ++ w.wrap (Layout.dict.spelled xs) ++ back) =
      Layout.dict.plain xs :=
    normalize_spelled w rfl (by decide) (by decide) (by decide) hfront hback
  rw [read?, String.toList_ofList, hnormal]
  show Value.read? (String.ofList (Layout.dict.plain xs)) = _
  rw [Value.read?, Document.read?, String.toList_ofList, (scans_dict xs).scan?, Option.bind_some,
    Document.ofTokens?_tokens, Option.bind_some]
  show (Value.ofFields? 126 (fields xs)).map _ = _
  rw [ofFields?_fields]
  rfl

/-- A list of pairs is read as the object with its entries, if no label has a bracket of the pairs. -/
theorem read?_pairs (w : Wrapper) (hopen : ∀ x ∈ xs, '(' ∉ x.1.label.toList)
    (hclose : ∀ x ∈ xs, ')' ∉ x.1.label.toList) (hfront : ∀ b ∈ front, isBlank b = true)
    (hback : ∀ b ∈ back, isBlank b = true) :
    read? (String.ofList (front ++ w.wrap (Layout.pairs.spelled xs) ++ back)) =
      some (objectOf (xs.map (·.1))) := by
  have hnormal : normalize (front ++ w.wrap (Layout.pairs.spelled xs) ++ back) =
      Layout.pairs.plain xs :=
    normalize_spelled w rfl (by decide) (by decide) (by decide) hfront hback
  rw [read?, String.toList_ofList, hnormal]
  show (Document.read? (String.ofList (swap ')' ']' (swap '(' '[' (Layout.pairs.plain xs))))).bind
    ofPairs? = _
  rw [swap_pairs hopen hclose, Document.read?, String.toList_ofList, (scans_lists xs).scan?,
    Option.bind_some, Document.ofTokens?_tokens, Option.bind_some, ofPairs?, mapM_pair?_items]
  rfl

end DictLiteral

/-! ## Maps of numbers -/

namespace Results

open DictLiteral

/-- The map with some entries; of those with one label the last counts. -/
def mapOf (es : List Entry) : TextMap Binary64 :=
  .ofList (es.map fun e => (e.label, e.number.toBinary64))

/-- The shapes in which entries can be reported. -/
inductive Shape (es : List Entry) : Value → Prop
  /-- An object. -/
  | object : Shape es (objectOf es)
  /-- A dictionary literal, perhaps wrapped, with any quotes and numpy scalars, and blanks around
  it. -/
  | dict (w : Wrapper) (xs : List (Entry × Style)) (front back : List Char)
    (entries : xs.map (·.1) = es) (hfront : ∀ b ∈ front, isBlank b = true)
    (hback : ∀ b ∈ back, isBlank b = true) :
    Shape es (.text (String.ofList (front ++ w.wrap (Layout.dict.spelled xs) ++ back)))
  /-- A list of pairs as an ordered dictionary, if no label has a bracket of the pairs. -/
  | pairs (xs : List (Entry × Style)) (front back : List Char)
    (entries : xs.map (·.1) = es)
    (labels : ∀ e ∈ es, '(' ∉ e.label.toList ∧ ')' ∉ e.label.toList)
    (hfront : ∀ b ∈ front, isBlank b = true) (hback : ∀ b ∈ back, isBlank b = true) :
    Shape es
      (.text (String.ofList (front ++ Wrapper.ordered.wrap (Layout.pairs.spelled xs) ++ back)))

variable {es : List Entry} {v : Value}

/-- Of several entries with one label the last one counts. -/
theorem get?_mapOf (es : List Entry) (label : String) : (mapOf es).get? label =
    (es.reverse.find? fun e => e.label == label).map fun e => e.number.toBinary64 := by
  rw [mapOf, TextMap.get?_ofList, ← List.map_reverse, TextMap.lookup?_map_eq_find?]

/-- The numbers of an object are those of its entries. -/
theorem filterMap_number? (es : List Entry) :
    (TextMap.ofList (Value.sortFields (numberFields es))).filterMap (fun _ v => number? v) =
      mapOf es := by
  rw [Json.Value.sortFields_eq_entries, TextMap.ofList_entries]
  refine TextMap.eq_of_get?_eq fun key => ?_
  -- both sides look the key up among the same numbers, from the end
  let numbers : List (String × Number) := es.map fun e => (e.label, e.number)
  have hfields : (numberFields es).reverse =
      numbers.reverse.map fun e => (e.1, Value.number e.2) := by
    rw [List.map_reverse, numberFields, List.map_map]
    rfl
  have hmap : (es.map fun e => (e.label, e.number.toBinary64)).reverse =
      numbers.reverse.map fun e => (e.1, e.2.toBinary64) := by
    rw [List.map_reverse, List.map_map]
    rfl
  rw [TextMap.get?_filterMap, mapOf, TextMap.get?_ofList, TextMap.get?_ofList, hfields, hmap,
    TextMap.lookup?_map fun _ => Value.number, TextMap.lookup?_map fun _ => Number.toBinary64]
  cases TextMap.lookup? key numbers.reverse <;> rfl

theorem numberMapWithin?_objectOf (fuel : Nat) (es : List Entry) :
    numberMapWithin? fuel (objectOf es) = some (mapOf es) := by
  rw [← filterMap_number?]
  cases fuel <;> rfl

/-- A literal that is read as the object with some entries is the map of these. -/
theorem numberMap?_text {s : String} (h : DictLiteral.read? s = some (objectOf es)) :
    numberMap? (.text s) = some (mapOf es) := by
  show (DictLiteral.read? s).bind (numberMapWithin? s.utf8ByteSize) = _
  rw [h, Option.bind_some, numberMapWithin?_objectOf]

/-- **Every shape is read as the same map.** -/
theorem numberMap?_of_shape (h : Shape es v) : numberMap? v = some (mapOf es) := by
  cases h with
  | object => exact numberMapWithin?_objectOf 0 es
  | dict w xs front back entries hfront hback =>
    subst entries
    exact numberMap?_text (read?_dict w hfront hback)
  | pairs xs front back entries labels hfront hback =>
    subst entries
    have hlabels : ∀ x ∈ xs, '(' ∉ x.1.label.toList ∧ ')' ∉ x.1.label.toList :=
      fun x hx => labels x.1 (List.mem_map_of_mem hx)
    exact numberMap?_text (read?_pairs .ordered (fun x hx => (hlabels x hx).1)
      (fun x hx => (hlabels x hx).2) hfront hback)

/-! ## Payloads -/

/-- A payload has a field at the top level, or only one level under `"results"`. -/
inductive Holds (key : String) (v : Value) (raw : Value) : Prop
  | top (field : raw.get? key = some v)
  | nested (results : Value) (absent : raw.get? key = none)
    (under : raw.get? "results" = some results) (field : results.get? key = some v)

/-- Two payloads report the same in all fields but one. -/
def SameElsewhere (key : String) (raw raw' : Value) : Prop :=
  ∀ k, k ≠ key → k ≠ "results" → field? raw k = field? raw' k

/-- The fields that are maps of numbers. -/
def mapFields : List String := ["probabilities", "counts", "photon_detections"]

variable {key : String} {raw raw' v' : Value}

theorem field?_of_holds (h : Holds key v raw) : field? raw key = some v := by
  cases h with
  | top field =>
    rw [field?, field]
    rfl
  | nested results absent under field =>
    rw [field?, absent, under]
    exact field

theorem bind_numberMap?_of_holds (hv : Shape es v) (h : Holds key v raw) :
    (field? raw key).bind numberMap? = some (mapOf es) := by
  rw [field?_of_holds h, Option.bind_some, numberMap?_of_shape hv]

/-- What entries that are reported as probabilities, as counts or as detections become. -/
structure Becomes (es : List Entry) (raw v : Value) : Prop where
  probabilities : Holds "probabilities" v raw → (interpret raw).probabilities = mapOf es
  counts : Holds "counts" v raw →
    (interpret raw).counts = (mapOf es).filterMap (fun _ x => count? x) ∧
      (interpret raw).countsSynthesized = false
  photonDetections : Holds "photon_detections" v raw → (interpret raw).photonDetections = mapOf es

theorem becomes_of_shape (hv : Shape es v) (raw : Value) : Becomes es raw v where
  probabilities h := by
    have hmap := bind_numberMap?_of_holds hv h
    show ((field? raw "probabilities").bind numberMap?).getD .empty = _
    rw [hmap, Option.getD_some]
  counts h := by
    have hmap := bind_numberMap?_of_holds hv h
    rw [interpret, hmap]
    exact ⟨rfl, rfl⟩
  photonDetections h := by
    have hmap := bind_numberMap?_of_holds hv h
    show ((field? raw "photon_detections").bind numberMap?).getD .empty = _
    rw [hmap, Option.getD_some]

/-- Results depend on a field that is a map of numbers only through that map. -/
theorem interpret_congr (hkey : key ∈ mapFields) (hsame : SameElsewhere key raw raw')
    (hmap : (field? raw key).bind numberMap? = (field? raw' key).bind numberMap?) :
    interpret raw = interpret raw' := by
  have hmaps : ∀ k ∈ mapFields,
      (field? raw k).bind numberMap? = (field? raw' k).bind numberMap? := by
    intro k hk
    by_cases h : k = key
    · rw [h]
      exact hmap
    · have hresults : k ≠ "results" := by
        rintro rfl
        exact absurd hk (by decide)
      rw [hsame k h hresults]
  have hothers : ∀ k, k ∉ mapFields → k ≠ "results" → field? raw k = field? raw' k := by
    intro k hk hresults
    refine hsame k ?_ hresults
    rintro rfl
    exact hk hkey
  simp only [interpret, hmaps "probabilities" (by decide), hmaps "counts" (by decide),
    hmaps "photon_detections" (by decide), hothers "error" (by decide) (by decide),
    hothers "success" (by decide) (by decide), hothers "simulation_time" (by decide) (by decide),
    hothers "probabilities_fallback" (by decide) (by decide)]

/-- **All shapes of a map of numbers mean the same.** Each is read as the map of its entries, in which
the last entry with a label counts, and this is the map that the results have. So payloads that report
entries in any two shapes, in either place, have the same results. -/
theorem interpret_shapes (es : List Entry) :
    (∀ v, Shape es v → numberMap? v = some (mapOf es)) ∧
    (∀ label, (mapOf es).get? label =
      (es.reverse.find? fun e => e.label == label).map fun e => e.number.toBinary64) ∧
    (∀ raw v, Shape es v → Becomes es raw v) ∧
    ∀ key ∈ mapFields, ∀ raw raw' v v', Shape es v → Shape es v' → Holds key v raw →
      Holds key v' raw' → SameElsewhere key raw raw' → interpret raw = interpret raw' := by
  refine ⟨fun v => numberMap?_of_shape, get?_mapOf es, fun raw v hv => becomes_of_shape hv raw, ?_⟩
  intro key hkey raw raw' v v' hv hv' hraw hraw' hsame
  refine interpret_congr hkey hsame ?_
  rw [bind_numberMap?_of_holds hv hraw, bind_numberMap?_of_holds hv' hraw']

/-- A service reports `00` twice, in an ordered dictionary under `"results"`; another one reports what
counts as an object. -/
theorem interpret_shapes_ordered :
    let object : Value := .object [("00", .number (.float ⟨0x3fd0000000000000⟩)),
      ("11", .number (.float ⟨0x3fe0000000000000⟩))]
    let literal : Value := .text
      " OrderedDict([('00', np.float64(0.5)), (\"11\", 0.5), ('00', 0.25)])\n"
    interpret (.object [("probabilities", object)]) =
      interpret (.object [("results", .object [("probabilities", literal)])]) := by
  intro object literal
  let quarter : Entry := ⟨"00", by decide +kernel, "0.25", ⟨false, ['0'], ['2', '5'], none⟩,
    by decide +kernel, .float ⟨0x3fd0000000000000⟩, by decide +kernel⟩
  let half : Entry := ⟨"11", by decide +kernel, "0.5", ⟨false, ['0'], ['5'], none⟩,
    by decide +kernel, .float ⟨0x3fe0000000000000⟩, by decide +kernel⟩
  let early : Entry := { half with label := "00", plain := by decide +kernel }
  let single : Style := ⟨'\'', .inl rfl, none, by simp⟩
  let double : Style := ⟨'"', .inr rfl, none, by simp⟩
  let scalar : Style := ⟨'\'', .inl rfl, some "float64".toList, fun cs hcs => by
    obtain rfl := Option.some.inj hcs
    exact List.all_eq_true.1 (by decide)⟩
  let spelled : List (Entry × Style) := [(early, scalar), (half, double), (quarter, single)]
  have hfields : objectOf [early, half, quarter] = object := by
    have hlt : ¬("11" : String) < "00" := by decide
    simp [objectOf, numberFields, Value.sortFields, TextMap.insertEntry, early, half, quarter,
      object, hlt]
  have hobject : Shape [early, half, quarter] object := hfields ▸ .object
  have htext : String.ofList ([' '] ++ Wrapper.ordered.wrap (Layout.pairs.spelled spelled) ++ ['\n'])
      = " OrderedDict([('00', np.float64(0.5)), (\"11\", 0.5), ('00', 0.25)])\n" := by
    decide +kernel
  have hliteral : Shape [early, half, quarter] literal := by
    show Shape _ (.text _)
    rw [← htext]
    exact .pairs spelled [' '] ['\n'] rfl (by decide +kernel) (List.all_eq_true.1 (by decide))
      (List.all_eq_true.1 (by decide))
  refine (interpret_shapes [early, half, quarter]).2.2.2 "probabilities" (by decide) _ _ _ _ hobject
    hliteral (.top rfl) (.nested _ rfl rfl rfl) ?_
  intro k hkey hresults
  have hnone : ∀ name v, k ≠ name → TextMap.lookup? k [(name, v)] = (none : Option Value) := by
    intro name v hname
    rw [TextMap.lookup?, if_neg (Ne.symm hname)]
    rfl
  show (TextMap.lookup? k [("probabilities", object)] <|> _) =
    (TextMap.lookup? k [("results", _)] <|> TextMap.lookup? k [("probabilities", literal)])
  rw [hnone _ _ hkey, hnone _ _ hresults, hnone _ _ hkey]
  rfl

end Results

end OpticalBench
