import OpticalBench.Proofs.Json.Record

/-!
# Values that are read back

A value is written with all its parts and read with a limit on its nesting. Numbers of 64 bits, texts,
keys and the order of items come back as they are, floating-point numbers as their numerals are read.

- `Number.IsNormal`, `Value.IsNormal`: values as they are read, with numbers in range and the fields of
  each object in order. `Value.isNormal_of_ofDocument?`: all that was read is such a value.
- `Value.depth`: how deep a value nests.
- `Value.reread?`: what a value is read back as. `Value.reread?_eq_self`: it is the value itself if this
  holds of every floating-point number in it.
- `Value.ofDocument?_document`: a value is read back exactly if it does not nest too deep.
-/

namespace OpticalBench

/-! ## Numbers -/

/-- In a JSON text a floating-point number has a fraction or an exponent. -/
theorem Layout.isFractional_json (negative : Bool) (d : Decimal) :
    (json.numeral negative d).fraction ≠ [] ∨ (json.numeral negative d).exponent ≠ none := by
  simp only [Layout.numeral]
  split
  · left
    obtain ⟨c, e | e⟩ := d
    · exact List.cons_ne_nil _ _
    · rw [positionalNumeral_negSucc]
      split
      case isTrue => exact List.ne_nil_of_length_pos (by rw [List.length_drop]; omega)
      case isFalse => exact List.append_ne_nil_of_right_ne_nil _ (Numeral.digits_ne_nil _)
  · exact .inr (Option.some_ne_none _)

namespace Json

namespace Number

/-- Numbers as they are read: integers of 64 bits, signed or not, and finite ones. -/
def IsNormal : Number → Prop
  | integer n => -0x8000000000000000 ≤ n ∧ n ≤ Text.max64
  | float x => x.isFinite = true

instance (n : Number) : Decidable n.IsNormal := by
  cases n <;> unfold IsNormal <;> infer_instance

/-- What a number is read back as. -/
def reread? : Number → Option Number
  | integer n => some (integer n)
  | float x => x.reread?.map float

/-- The floating-point numbers in a number. -/
def floats : Number → List Binary64
  | integer _ => []
  | float x => [x]

/-- A numeral with a fraction or an exponent is not taken for an integer. -/
theorem exists_float {n : Numeral} {number : Number} (h : ofNumeral? n = some number)
    (hn : n.fraction ≠ [] ∨ n.exponent ≠ none) : ∃ x, number = float x := by
  -- the first two things that are asked of an integer
  have hcondition : (n.fraction.isEmpty && n.exponent.isNone) = false := by
    rcases hn with hn | hn
    · rw [List.isEmpty_eq_false_iff.2 hn, Bool.false_and]
    · rw [Option.isNone_eq_false_iff.2 (Option.isSome_iff_ne_none.2 hn), Bool.and_false]
  simp only [ofNumeral?, hcondition, Bool.false_and, Bool.false_eq_true, if_false] at h
  obtain ⟨x, -, rfl⟩ := Option.map_eq_some_iff.1 h
  exact ⟨_, rfl⟩

theorem ofNumeral?_float {x : Binary64} (h : x.isFinite = true) :
    ofNumeral? (x.numeral .json) = x.reread?.map float := by
  obtain ⟨number, hnumber⟩ := Option.isSome_iff_exists.1 (isSome_ofNumeral?_numeral h)
  obtain ⟨y, rfl⟩ := exists_float hnumber (Layout.isFractional_json _ _)
  have hreread : x.reread? = some y := by
    rw [← Document.binary64?_ofBinary64, Value.ofBinary64, if_pos h]
    exact congrArg (Option.map toBinary64) hnumber
  rw [hnumber, hreread, Option.map_some]

/-- The numeral of a number is read as what the number is read back as. -/
theorem ofNumeral?_numeral {n : Number} (h : n.IsNormal) : ofNumeral? n.numeral = n.reread? := by
  cases n with
  | integer n => exact ofNumeral?_ofInt h.1 h.2
  | float x => exact ofNumeral?_float h

/-- What was read is in range. -/
theorem isNormal_of_ofNumeral? {n : Numeral} {number : Number} (h : ofNumeral? n = some number) :
    number.IsNormal := by
  cases number with
  | float x => exact isFinite_of_ofNumeral? h
  | integer k =>
    have hvalue := value_significand_le n.whole n.fraction
    have hmax : 0x8000000000000000 ≤ Text.max64 := by decide
    simp only [ofNumeral?] at h
    split at h
    case isFalse =>
      obtain ⟨x, -, hx⟩ := Option.map_eq_some_iff.1 h
      cases hx
    case isTrue hcondition =>
      obtain rfl := Number.integer.inj (Option.some.inj h)
      -- all digits were taken, so they fit 64 bits; a negative integer was compared with its bound
      obtain ⟨-, hsign⟩ := Bool.and_eq_true_iff.1 hcondition
      cases hnegative : n.negative with
      | false => exact ⟨by simp only [Bool.false_eq_true, if_false]; omega, by simpa using hvalue⟩
      | true =>
        rw [hnegative] at hsign
        have hrange := of_decide_eq_true hsign
        simp only [if_true]
        exact ⟨by omega, by omega⟩

theorem exists_reread? {n : Number} (h : n.IsNormal) : ∃ m, n.reread? = some m := by
  cases n with
  | integer n => exact ⟨_, rfl⟩
  | float x =>
    obtain ⟨y, hy⟩ := Binary64.exists_reread? h
    exact ⟨float y, by rw [reread?, hy, Option.map_some]⟩

theorem reread?_eq_self {n : Number} (h : ∀ x ∈ n.floats, x.reread? = some x) :
    n.reread? = some n := by
  cases n with
  | integer n => rfl
  | float x => rw [reread?, h x List.mem_cons_self, Option.map_some]

end Number

namespace Value

/-! ## Parts of a value -/

/-- What is true of a value if it is true of its parts is true of all values. -/
theorem induction {P : Value → Prop} (null : P .null) (boolean : ∀ b, P (.boolean b))
    (number : ∀ n, P (.number n)) (text : ∀ s, P (.text s))
    (array : ∀ items, (∀ v ∈ items, P v) → P (.array items))
    (object : ∀ fields : List (String × Value), (∀ e ∈ fields, P e.2) → P (.object fields))
    (v : Value) : P v :=
  @Value.rec P (fun items => ∀ v ∈ items, P v) (fun fields => ∀ e ∈ fields, P e.2)
    (fun e => P e.2) null boolean number text array object
    (fun _ hv => absurd hv List.not_mem_nil)
    (fun _ _ hhead htail => List.forall_mem_cons.2 ⟨hhead, htail⟩)
    (fun _ he => absurd he List.not_mem_nil)
    (fun _ _ hhead htail => List.forall_mem_cons.2 ⟨hhead, htail⟩)
    (fun _ _ h => h) v

/-- Values as they are read: numbers are in range, and the fields of an object come in ascending order
of their keys. -/
inductive IsNormal : Value → Prop
  | null : IsNormal .null
  | boolean (b : Bool) : IsNormal (.boolean b)
  | number {n : Number} (h : n.IsNormal) : IsNormal (.number n)
  | text (s : String) : IsNormal (.text s)
  | array {items : List Value} (h : ∀ v ∈ items, IsNormal v) : IsNormal (.array items)
  | object {fields : List (String × Value)} (ascending : fields.Pairwise fun a b => a.1 < b.1)
      (h : ∀ e ∈ fields, IsNormal e.2) : IsNormal (.object fields)

mutual

/-- How deep arrays and objects nest in a value. -/
def depth : Value → Nat
  | .array items => itemsDepth items + 1
  | .object fields => fieldsDepth fields + 1
  | _ => 0

/-- How deep the deepest item nests. -/
def itemsDepth : List Value → Nat
  | [] => 0
  | v :: vs => max v.depth (itemsDepth vs)

/-- How deep the deepest field nests. -/
def fieldsDepth : List (String × Value) → Nat
  | [] => 0
  | (_, v) :: rest => max v.depth (fieldsDepth rest)

end

mutual

/-- The floating-point numbers in a value. -/
def floats : Value → List Binary64
  | .number n => n.floats
  | .array items => itemFloats items
  | .object fields => fieldFloats fields
  | _ => []

/-- The floating-point numbers in items. -/
def itemFloats : List Value → List Binary64
  | [] => []
  | v :: vs => v.floats ++ itemFloats vs

/-- The floating-point numbers in fields. -/
def fieldFloats : List (String × Value) → List Binary64
  | [] => []
  | (_, v) :: rest => v.floats ++ fieldFloats rest

end

mutual

/-- What a value is read back as: the same value up to the floating-point numbers in it. -/
def reread? : Value → Option Value
  | .null => some .null
  | .boolean b => some (.boolean b)
  | .number n => n.reread?.map .number
  | .text s => some (.text s)
  | .array items => (rereadItems? items).map .array
  | .object fields => (rereadFields? fields).map .object

/-- What items are read back as. -/
def rereadItems? : List Value → Option (List Value)
  | [] => some []
  | v :: vs => do
    let w ← v.reread?
    let ws ← rereadItems? vs
    some (w :: ws)

/-- What fields are read back as. -/
def rereadFields? : List (String × Value) → Option (List (String × Value))
  | [] => some []
  | (key, v) :: rest => do
    let w ← v.reread?
    let ws ← rereadFields? rest
    some ((key, w) :: ws)

end

variable {items : List Value} {fields : List (String × Value)} {n : Nat}

theorem itemsDepth_le_iff : itemsDepth items ≤ n ↔ ∀ v ∈ items, v.depth ≤ n := by
  induction items with
  | nil => simp [itemsDepth]
  | cons v vs ih => rw [itemsDepth, Nat.max_le, ih, List.forall_mem_cons]

theorem fieldsDepth_le_iff : fieldsDepth fields ≤ n ↔ ∀ e ∈ fields, e.2.depth ≤ n := by
  induction fields with
  | nil => simp [fieldsDepth]
  | cons e rest ih => rw [fieldsDepth, Nat.max_le, ih, List.forall_mem_cons]

theorem mem_itemFloats {v : Value} {x : Binary64} (hv : v ∈ items) (hx : x ∈ v.floats) :
    x ∈ itemFloats items := by
  induction items with
  | nil => exact absurd hv List.not_mem_nil
  | cons w ws ih =>
    rw [itemFloats, List.mem_append]
    rcases List.mem_cons.1 hv with rfl | hv
    · exact .inl hx
    · exact .inr (ih hv)

theorem mem_fieldFloats {e : String × Value} {x : Binary64} (he : e ∈ fields)
    (hx : x ∈ e.2.floats) : x ∈ fieldFloats fields := by
  induction fields with
  | nil => exact absurd he List.not_mem_nil
  | cons f rest ih =>
    rw [fieldFloats, List.mem_append]
    rcases List.mem_cons.1 he with rfl | he
    · exact .inl hx
    · exact .inr (ih he)

/-! ## What values are read back as -/

theorem rereadItems?_eq_mapM (items : List Value) :
    rereadItems? items = items.mapM reread? := by
  induction items with
  | nil => rfl
  | cons v vs ih => rw [rereadItems?, ih, List.mapM_cons]; rfl

theorem rereadFields?_eq_mapM (fields : List (String × Value)) :
    rereadFields? fields = fields.mapM fun e => e.2.reread?.map fun w => (e.1, w) := by
  induction fields with
  | nil => rfl
  | cons e rest ih =>
    obtain ⟨key, v⟩ := e
    rw [rereadFields?, ih, List.mapM_cons]
    cases hv : v.reread? <;> rfl

/-- A value with numbers in range is read back. -/
theorem exists_reread? {v : Value} (h : v.IsNormal) : ∃ w, v.reread? = some w := by
  induction v using Value.induction with
  | null => exact ⟨_, rfl⟩
  | boolean b => exact ⟨_, rfl⟩
  | text s => exact ⟨_, rfl⟩
  | number n =>
    cases h with
    | number hn =>
      obtain ⟨m, hm⟩ := Number.exists_reread? hn
      exact ⟨.number m, by rw [reread?, hm, Option.map_some]⟩
  | array items ih =>
    cases h with
    | array hitems =>
      obtain ⟨ws, hws⟩ := exists_mapM_eq_some fun v hv => ih v hv (hitems v hv)
      exact ⟨.array ws, by rw [reread?, rereadItems?_eq_mapM, hws, Option.map_some]⟩
  | object fields ih =>
    cases h with
    | object _ hfields =>
      obtain ⟨ws, hws⟩ : ∃ ws, (fields.mapM fun (e : String × Value) =>
          e.2.reread?.map fun w => (e.1, w)) = some ws := by
        refine exists_mapM_eq_some fun e he => ?_
        obtain ⟨w, hw⟩ := ih e he (hfields e he)
        exact ⟨(e.1, w), by rw [hw, Option.map_some]⟩
      exact ⟨.object ws, by rw [reread?, rereadFields?_eq_mapM, hws, Option.map_some]⟩

/-- A value is read back as itself if this holds of all floating-point numbers in it. -/
theorem reread?_eq_self {v : Value} (h : ∀ x ∈ v.floats, x.reread? = some x) :
    v.reread? = some v := by
  induction v using Value.induction with
  | null => rfl
  | boolean b => rfl
  | text s => rfl
  | number n => rw [reread?, Number.reread?_eq_self h, Option.map_some]
  | array items ih =>
    have hitems : items.mapM reread? = some items :=
      mapM_eq_self fun v hv => ih v hv fun x hx => h x (mem_itemFloats hv hx)
    rw [reread?, rereadItems?_eq_mapM, hitems, Option.map_some]
  | object fields ih =>
    have hfields : (fields.mapM fun e => e.2.reread?.map fun w => (e.1, w)) = some fields := by
      refine mapM_eq_self fun e he => ?_
      rw [ih e he fun x hx => h x (mem_fieldFloats he hx), Option.map_some]
    rw [reread?, rereadFields?_eq_mapM, hfields, Option.map_some]

/-! ## Reading with a limit on the nesting -/

theorem ofItems?_eq_mapM (budget : Nat) (ds : List Document) :
    ofItems? budget ds = ds.mapM (ofDocument? budget) := by
  induction ds with
  | nil => rfl
  | cons d ds ih => rw [ofItems?, ih, List.mapM_cons]; rfl

theorem ofFields?_eq_mapM (budget : Nat) (fields : List (Option String × Document)) :
    ofFields? budget fields = fields.mapM fun e =>
      e.1.bind fun key => (ofDocument? budget e.2).map fun v => (key, v) := by
  induction fields with
  | nil => rfl
  | cons e rest ih =>
    obtain ⟨key, d⟩ := e
    rw [ofFields?, ih, List.mapM_cons]
    cases key with
    | none => rfl
    | some k => cases ofDocument? budget d <;> rfl

/-- Fields that were written are read one by one. -/
theorem ofFields?_fieldDocuments (budget : Nat) (fields : List (String × Value)) :
    ofFields? budget (fieldDocuments fields) =
      fields.mapM fun e => (ofDocument? budget e.2.document).map fun v => (e.1, v) := by
  rw [ofFields?_eq_mapM, fieldDocuments_eq_map, List.mapM_map]
  rfl

theorem sortFields_eq_entries (fields : List (String × Value)) :
    sortFields fields = (TextMap.ofList fields).entries := by
  induction fields using List.reverseRecOn with
  | nil => rfl
  | append_singleton fields e ih =>
    rw [TextMap.ofList_concat, sortFields, List.foldl_append]
    exact congrArg (TextMap.insertEntry e.1 e.2) ih

/-- Fields in order stay as they are. -/
theorem sortFields_eq_self (h : fields.Pairwise fun a b => a.1 < b.1) :
    sortFields fields = fields := by
  rw [sortFields_eq_entries]
  exact congrArg TextMap.entries (TextMap.ofList_entries ⟨fields, h⟩)

/-- A value that was written is read back exactly if it does not nest too deep. -/
theorem ofDocument?_document {v : Value} (h : v.IsNormal) (budget : Nat) :
    ofDocument? budget v.document = if v.depth ≤ budget then v.reread? else none := by
  induction v using Value.induction generalizing budget with
  | null => exact (if_pos (Nat.zero_le _)).symm
  | boolean b => exact (if_pos (Nat.zero_le _)).symm
  | text s => exact (if_pos (Nat.zero_le _)).symm
  | number n =>
    cases h with
    | number hn =>
      rw [document, ofDocument?, Number.ofNumeral?_numeral hn]
      exact (if_pos (Nat.zero_le _)).symm
  | array items ih =>
    cases h with
    | array hitems =>
      cases budget with
      -- without a budget no array is read, not even an empty one
      | zero =>
        rw [depth, if_neg (Nat.not_succ_le_zero _)]
        rfl
      | succ rest =>
        rw [document, itemDocuments_eq_map, ofDocument?, ofItems?_eq_mapM, List.mapM_map, depth,
          reread?, rereadItems?_eq_mapM]
        by_cases hdepth : itemsDepth items ≤ rest
        · have hread : items.mapM (ofDocument? rest ∘ document) = items.mapM reread? := by
            refine mapM_congr fun v hv => ?_
            rw [Function.comp, ih v hv (hitems v hv), if_pos (itemsDepth_le_iff.1 hdepth v hv)]
          rw [if_pos (Nat.succ_le_succ hdepth), hread]
        · obtain ⟨v, hv, hdeep⟩ : ∃ v ∈ items, ¬v.depth ≤ rest := by
            simpa only [itemsDepth_le_iff, not_forall, exists_prop] using hdepth
          have hnone : items.mapM (ofDocument? rest ∘ document) = none := by
            refine mapM_eq_none hv ?_
            rw [Function.comp, ih v hv (hitems v hv), if_neg hdeep]
          rw [if_neg fun hle => hdepth (Nat.le_of_succ_le_succ hle), hnone]
          rfl
  | object fields ih =>
    cases h with
    | object ascending hfields =>
      cases budget with
      | zero =>
        rw [depth, if_neg (Nat.not_succ_le_zero _)]
        rfl
      | succ rest =>
        rw [document, ofDocument?, ofFields?_fieldDocuments, depth, reread?, rereadFields?_eq_mapM]
        by_cases hdepth : fieldsDepth fields ≤ rest
        · have hread : (fields.mapM fun e => (ofDocument? rest e.2.document).map fun w => (e.1, w)) =
              fields.mapM fun e => e.2.reread?.map fun w => (e.1, w) := by
            refine mapM_congr fun e he => ?_
            rw [ih e he (hfields e he), if_pos (fieldsDepth_le_iff.1 hdepth e he)]
          rw [if_pos (Nat.succ_le_succ hdepth), hread]
          -- the keys come back in their order, so the fields are not moved
          refine Option.map_congr fun fs hfs => congrArg Value.object (sortFields_eq_self ?_)
          refine List.pairwise_map.1 ?_
          rw [map_fst_of_mapM hfs]
          exact List.pairwise_map.2 ascending
        · obtain ⟨e, he, hdeep⟩ : ∃ e ∈ fields, ¬e.2.depth ≤ rest := by
            simpa only [fieldsDepth_le_iff, not_forall, exists_prop] using hdepth
          have hnone : (fields.mapM fun e =>
              (ofDocument? rest e.2.document).map fun w => (e.1, w)) = none := by
            refine mapM_eq_none he ?_
            rw [ih e he (hfields e he), if_neg hdeep, Option.map_none]
          rw [if_neg fun hle => hdepth (Nat.le_of_succ_le_succ hle), hnone]
          rfl

/-! ## What was read -/

/-- A field that was read was read from a field with its key. -/
theorem exists_of_mem_ofFields? {budget : Nat} {ds : List (Option String × Document)}
    (h : ofFields? budget ds = some fields) {key : String} {v : Value}
    (hmem : (key, v) ∈ (TextMap.ofList fields).entries) :
    ∃ d, (some key, d) ∈ ds ∧ ofDocument? budget d = some v := by
  rw [ofFields?_eq_mapM] at h
  obtain ⟨⟨name, d⟩, hd, hentry⟩ := exists_of_mem_mapM h (TextMap.mem_of_mem_entries_ofList hmem)
  obtain ⟨k, rfl, hentry⟩ := Option.bind_eq_some_iff.1 hentry
  obtain ⟨w, hw, hpair⟩ := Option.map_eq_some_iff.1 hentry
  obtain ⟨rfl, rfl⟩ := Prod.mk.inj hpair
  exact ⟨d, hd, hw⟩

/-- A value that was read has its numbers in range and its fields in order, and it does not nest too
deep. So it can be written and read again. -/
theorem isNormal_of_ofDocument? {budget : Nat} {d : Document} {v : Value}
    (h : ofDocument? budget d = some v) : v.IsNormal ∧ v.depth ≤ budget := by
  -- the budget is what decreases from an array or object to its parts
  induction budget using Nat.strongRecOn generalizing d v with
  | ind budget ih =>
    cases d with
    | null => exact Option.some.inj h ▸ ⟨.null, Nat.zero_le _⟩
    | boolean b => exact Option.some.inj h ▸ ⟨.boolean b, Nat.zero_le _⟩
    | numeral n =>
      obtain ⟨number, hnumber, rfl⟩ := Option.map_eq_some_iff.1 h
      exact ⟨.number (Number.isNormal_of_ofNumeral? hnumber), Nat.zero_le _⟩
    | text content =>
      obtain ⟨s, -, rfl⟩ := Option.map_eq_some_iff.1 h
      exact ⟨.text s, Nat.zero_le _⟩
    | array items =>
      cases budget with
      | zero => exact nomatch h
      | succ rest =>
        obtain ⟨vs, hvs, rfl⟩ := Option.map_eq_some_iff.1 h
        rw [ofItems?_eq_mapM] at hvs
        have hparts : ∀ w ∈ vs, w.IsNormal ∧ w.depth ≤ rest := by
          intro w hw
          obtain ⟨d, -, hd⟩ := exists_of_mem_mapM hvs hw
          exact ih rest (Nat.lt_succ_self rest) hd
        exact ⟨.array fun w hw => (hparts w hw).1,
          Nat.succ_le_succ (itemsDepth_le_iff.2 fun w hw => (hparts w hw).2)⟩
    | object fields =>
      cases budget with
      | zero => exact nomatch h
      | succ rest =>
        obtain ⟨fs, hfs, rfl⟩ := Option.map_eq_some_iff.1 h
        rw [sortFields_eq_entries]
        have hparts : ∀ e ∈ (TextMap.ofList fs).entries, e.2.IsNormal ∧ e.2.depth ≤ rest := by
          rintro ⟨key, w⟩ hmem
          obtain ⟨d, -, hd⟩ := exists_of_mem_ofFields? hfs hmem
          exact ih rest (Nat.lt_succ_self rest) hd
        exact ⟨.object (TextMap.ofList fs).ascending fun e he => (hparts e he).1,
          Nat.succ_le_succ (fieldsDepth_le_iff.2 fun e he => (hparts e he).2)⟩

end Value

end Json

end OpticalBench
