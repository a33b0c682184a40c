import OpticalBench.Proofs.Program.Accounting
import OpticalBench.Proofs.Program.Rows

/-!
# How gates are written

Every gate is a remark and a call. What the remark says, which function is called and how the arguments
are passed depends on framework and element only.

- `Passes`: the ways in which arguments are passed; `Passes.inj` reads them back.
- `SingleText`, `DualText`: how an element on one mode and on two modes is written.
- `exists_singleText`, `exists_dualText`: every element that has a gate is written in such a way.
-/

namespace OpticalBench.Program

open Line

/-! ## Arguments -/

/-- How a call passes the arguments of an element with `n` parameters. -/
inductive Passes (n : Nat) : (List String → List String) → Prop
  /-- As they are. -/
  | plain : Passes n fun arguments => arguments
  /-- Each with its name. -/
  | named {names : List String} (length : names.length = n)
    (no_comma : ∀ name ∈ names, ',' ∉ name.toList) (rows : ∀ name ∈ names, IsRow name) :
    Passes n (Perceval.named names)
  /-- Something else, because there are none. -/
  | fixed {others : List String} (none : n = 0) (rows : ∀ a ∈ others, IsRow a) :
    Passes n fun _ => others

variable {n : Nat} {pass : List String → List String} {xs ys : List String}

theorem isRow_call {function : String} (hfunction : IsRow function) (hxs : ∀ x ∈ xs, IsRow x) :
    IsRow (call function xs) := by
  rw [call, isRow_append, isRow_append, isRow_append]
  exact ⟨⟨⟨hfunction, by decide⟩, isRow_intercalate (by decide) hxs⟩, by decide⟩

/-- An argument that is passed with its name is the name, an equals sign and the argument. -/
theorem mem_named {names : List String} {a : String} (h : a ∈ Perceval.named names xs) :
    ∃ name ∈ names, ∃ x ∈ xs, a = name ++ "=" ++ x := by
  induction names generalizing xs with
  | nil => exact absurd h List.not_mem_nil
  | cons name names ih =>
    cases xs with
    | nil => exact absurd h List.not_mem_nil
    | cons x xs =>
      rcases List.mem_cons.1 h with rfl | h
      · exact ⟨name, List.mem_cons_self, x, List.mem_cons_self, rfl⟩
      · obtain ⟨name', hname, x', hx, rfl⟩ := ih h
        exact ⟨name', List.mem_cons_of_mem _ hname, x', List.mem_cons_of_mem _ hx, rfl⟩

theorem Passes.isRow (h : Passes n pass) (hxs : ∀ x ∈ xs, IsRow x) : ∀ a ∈ pass xs, IsRow a := by
  cases h with
  | plain => exact hxs
  | named length no_comma rows =>
    intro a ha
    obtain ⟨name, hname, x, hx, rfl⟩ := mem_named ha
    rw [isRow_append, isRow_append]
    exact ⟨⟨rows name hname, by decide⟩, hxs x hx⟩
  | fixed none rows => exact rows

/-- A call is the call of its arguments only, if none of them has a comma. -/
theorem call_inj {function : String} (hlength : xs.length = ys.length)
    (hxs : ∀ x ∈ xs, ',' ∉ x.toList) (hys : ∀ y ∈ ys, ',' ∉ y.toList)
    (h : call function xs = call function ys) : xs = ys := by
  rw [call, call, String.append_left_inj, String.append_right_inj] at h
  exact Text.commaSeparated_inj hlength hxs hys h

theorem named_inj {names : List String} (hxs : xs.length = names.length)
    (hys : ys.length = names.length) (h : Perceval.named names xs = Perceval.named names ys) :
    xs = ys := by
  induction names generalizing xs ys with
  | nil => rw [List.length_eq_zero_iff.1 hxs, List.length_eq_zero_iff.1 hys]
  | cons name names ih =>
    obtain ⟨x, xs, rfl⟩ := List.exists_cons_of_length_eq_add_one hxs
    obtain ⟨y, ys, rfl⟩ := List.exists_cons_of_length_eq_add_one hys
    obtain ⟨hhead, htail⟩ := List.cons.inj h
    rw [String.append_right_inj] at hhead
    rw [hhead, ih (Nat.succ.inj hxs) (Nat.succ.inj hys) htail]

/-- Arguments that are passed in one of these ways can be read back from the call. -/
theorem Passes.inj (h : Passes n pass) {function : String} (hxs : xs.length = n)
    (hys : ys.length = n) (hcx : ∀ x ∈ xs, ',' ∉ x.toList) (hcy : ∀ y ∈ ys, ',' ∉ y.toList)
    (hcall : call function (pass xs) = call function (pass ys)) : xs = ys := by
  cases h with
  | plain => exact call_inj (hxs.trans hys.symm) hcx hcy hcall
  | named length no_comma rows =>
    rename_i names
    have hno_comma : ∀ zs : List String, (∀ z ∈ zs, ',' ∉ z.toList) →
        ∀ a ∈ Perceval.named names zs, ',' ∉ a.toList := by
      intro zs hzs a ha
      obtain ⟨name, hname, z, hz, rfl⟩ := mem_named ha
      simp [no_comma name hname, hzs z hz]
    have hlength : (Perceval.named names xs).length = (Perceval.named names ys).length := by
      rw [Perceval.named, Perceval.named, List.length_zipWith, List.length_zipWith, hxs, hys]
    exact named_inj (hxs.trans length.symm) (hys.trans length.symm)
      (call_inj hlength (hno_comma xs hcx) (hno_comma ys hcy) hcall)
  | fixed none rows =>
    rw [List.length_eq_zero_iff.1 (hxs.trans none), List.length_eq_zero_iff.1 (hys.trans none)]

/-! ## Gates -/

/-- What the remark of an element on one mode says. -/
def singleRemark (f : Framework) (e : Element) : String :=
  ((singleGate? f e []).map Gate.remark).getD ""

/-- What the remark of an element on two modes says before it names them. -/
def dualRemark : Element → String
  | .beamSplitter => "Beam splitter between mode "
  | .permutation => "Swap mode "
  | .polarizingBeamSplitter => "Polarizing beam splitter between mode "
  | _ => "Unitary on mode "

/-- How an element on one mode is written. -/
structure SingleText (f : Framework) (e : Element) where
  function : String
  pass : List String → List String
  passes : Passes e.parameterKeys.length pass
  gate : ∀ xs, singleGate? f e xs = some ⟨singleRemark f e, call function (pass xs)⟩
  isRow_function : IsRow function

/-- How an element on two modes is written. Its remark names both of them. -/
structure DualText (f : Framework) (e : Element) where
  back : String
  function : String
  pass : List String → List String
  passes : Passes e.parameterKeys.length pass
  gate : ∀ xs mode next, dualGate? f e xs mode next =
    some ⟨dualRemark e ++ toString mode ++ " and " ++ toString next ++ back,
      call function (pass xs)⟩
  isRow_back : IsRow back
  isRow_function : IsRow function

/-- Every element that has a gate on one mode is written in such a way. -/
theorem exists_singleText {f : Framework} {e : Element} (supported : e.supportedBy f = true)
    (arity : e.arity = .single) (element : e ≠ .measure) : Nonempty (SingleText f e) := by
  have hphi : Passes 1 (Perceval.named ["phi"]) := .named rfl (by decide) (by decide)
  -- an element without a gate on one mode contradicts a hypothesis; the others pass what they have
  cases f <;> cases e <;>
    first
    | contradiction
    | exact ⟨_, _, .plain, fun _ => rfl, isRow_ofList (by decide)⟩
    | exact ⟨_, _, hphi, fun _ => rfl, isRow_ofList (by decide)⟩
    | exact ⟨_, _, .fixed rfl (by decide), fun _ => rfl, isRow_ofList (by decide)⟩

/-- Every element that has a gate on two modes is written in such a way. -/
theorem exists_dualText {f : Framework} {e : Element} (supported : e.supportedBy f = true)
    (arity : e.arity = .dual) : Nonempty (DualText f e) := by
  have hnames : Passes 2 (Perceval.named ["theta", "phi_bl"]) := .named rfl (by decide) (by decide)
  have hnone : ∀ a ∈ ([] : List String), IsRow a := nofun
  have hswap : ∀ a ∈ ["[1, 0]"], IsRow a := by decide
  have hmatrix : ∀ a ∈ [call "pcvl.Matrix" ["[[1, 0], [0, 1]]"]], IsRow a := by
    intro a ha
    obtain rfl := List.mem_singleton.1 ha
    exact isRow_call (by decide) (by decide)
  cases f with
  | strawberryFields =>
    cases e with
    | beamSplitter =>
      refine ⟨"", "BSgate", _, .plain, fun xs mode next => ?_, by decide, by decide⟩
      simp [dualGate?, StrawberryFields.dualGate?, dualRemark]
    | _ => contradiction
  | perceval =>
    cases e with
    | beamSplitter =>
      refine ⟨"", "pcvl.BS", _, hnames, fun xs mode next => ?_, by decide, by decide⟩
      simp [dualGate?, Perceval.dualGate?, dualRemark, String.append_assoc]
    | permutation =>
      refine ⟨"", "pcvl.PERM", _, .fixed rfl hswap, fun xs mode next => ?_, by decide, by decide⟩
      simp [dualGate?, Perceval.dualGate?, dualRemark, String.append_assoc]
    | polarizingBeamSplitter =>
      refine ⟨"", "pcvl.PBS", _, .fixed rfl hnone, fun xs mode next => ?_, by decide, by decide⟩
      simp [dualGate?, Perceval.dualGate?, dualRemark, String.append_assoc]
    | unitary =>
      refine ⟨" (identity placeholder)", "pcvl.Unitary", _, .fixed rfl hmatrix,
        fun xs mode next => ?_, by decide, by decide⟩
      simp [dualGate?, Perceval.dualGate?, dualRemark, String.append_assoc]
    | _ => contradiction

/-! ## Statements -/

variable {f : Framework} {e : Element} {g g' : Gate} {m n next : Nat}

theorem SingleText.lines (t : SingleText f e) (arguments : List String) (mode : Nat) :
    single f e arguments mode = [.comment (singleRemark f e), .statement (singleStatement f
      ⟨singleRemark f e, call t.function (t.pass arguments)⟩ mode)] := by
  rw [single, t.gate]

theorem DualText.lines (t : DualText f e) (arguments : List String) (mode next : Nat) :
    dual f e arguments mode next =
      [.comment (dualRemark e ++ toString mode ++ " and " ++ toString next ++ t.back),
        .statement (dualStatement f
          ⟨dualRemark e ++ toString mode ++ " and " ++ toString next ++ t.back,
            call t.function (t.pass arguments)⟩ mode next)] := by
  rw [dual, t.gate]

/-- The statement of a gate on one mode names the mode and contains the call. -/
theorem singleStatement_inj (h : singleStatement f g m = singleStatement f g' n) :
    m = n ∧ g.call = g'.call := by
  cases f with
  | strawberryFields =>
    have hstatement : g.call ++ " | " ++ ("q[" ++ toString m ++ "]") =
        g'.call ++ " | " ++ ("q[" ++ toString n ++ "]") := h
    -- the call may contain any character, so the mode is read from the end
    have hend : g.call ++ " | " ++ "q[" ++ toString m ++ "]" =
        g'.call ++ " | " ++ "q[" ++ toString n ++ "]" := by
      simpa only [String.append_assoc] using hstatement
    rw [String.append_left_inj] at hend
    obtain ⟨hcall, hmode⟩ := Text.append_toString_inj (by decide) hend
    exact ⟨hmode, (String.append_left_inj _).1 hcall⟩
  | perceval =>
    have hstatement : "circuit.add((" ++ toString m ++ ",), " ++ g.call ++ ")" =
        "circuit.add((" ++ toString n ++ ",), " ++ g'.call ++ ")" := h
    rw [String.append_left_inj, String.append_assoc, String.append_assoc, String.append_assoc,
      String.append_assoc, String.append_right_inj] at hstatement
    obtain ⟨hmode, hcall⟩ := Text.toString_append_inj (by decide) hstatement
    exact ⟨hmode, hcall⟩

/-- The statement of a gate on two modes contains the call. -/
theorem dualStatement_inj (h : dualStatement f g m next = dualStatement f g' m next) :
    g.call = g'.call := by
  cases f with
  | strawberryFields =>
    have hstatement : g.call ++ " | (" ++ StrawberryFields.wire m ++ ", " ++
        StrawberryFields.wire next ++ ")" = g'.call ++ " | (" ++ StrawberryFields.wire m ++ ", " ++
        StrawberryFields.wire next ++ ")" := h
    rw [String.append_left_inj, String.append_left_inj, String.append_left_inj,
      String.append_left_inj, String.append_left_inj] at hstatement
    exact hstatement
  | perceval => exact (String.append_right_inj _).1 ((String.append_left_inj _).1 h)

end OpticalBench.Program
