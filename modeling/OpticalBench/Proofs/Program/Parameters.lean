import OpticalBench.Proofs.Program.Meaning

/-!
# The parameters of an operation

An operation stores values under any names. Three views say what they come to: a single look-up, all
declared parameters resolved, and the list of the names without effect. Here the views are shown to
agree, whatever is stored.

- `withResolved`, `withoutUndeclared`: two operations that store less or more and come to the same.
- `AgreesOn`: operations that cannot be told apart by their declared parameters.
- `parameterViews_agree`: the views agree, and resolving a second time changes nothing.
-/

namespace OpticalBench

namespace TextMap

variable {α : Type} {m : TextMap α} {key : String}

theorem get?_eq_none_iff : m.get? key = none ↔ key ∉ m.keys := lookup?_eq_none_iff

theorem keys_ascending (m : TextMap α) : m.keys.Pairwise (· < ·) := List.pairwise_map.2 m.ascending

end TextMap

namespace Operation

/-- The operation that stores every declared parameter with its value, and nothing else. -/
def withResolved (op : Operation) : Operation := { op with parameters := op.resolved }

/-- The operation without the stored values that have no effect. -/
def withoutUndeclared (op : Operation) : Operation :=
  { op with parameters := op.parameters.filterMap fun key x =>
      if key ∈ op.undeclared then none else some x }

/-- Operations with the same declared parameters, looked up one by one or resolved. -/
structure AgreesOn (a b : Operation) : Prop where
  parameter : ∀ key, a.parameter? key = b.parameter? key
  resolved : a.resolved = b.resolved

variable {op : Operation} {key : String}

/-- What is resolved is what can be looked up. -/
theorem AgreesOn.of_parameter {a b : Operation} (h : ∀ key, a.parameter? key = b.parameter? key) :
    a.AgreesOn b := by
  refine ⟨h, TextMap.eq_of_get?_eq fun key => ?_⟩
  rw [get?_resolved, get?_resolved, h]

theorem parameter?_eq_none_iff : op.parameter? key = none ↔ op.element.default? key = none :=
  Option.map_eq_none_iff

theorem mem_undeclared_iff :
    key ∈ op.undeclared ↔ key ∈ op.parameters.keys ∧ op.parameter? key = none := by
  rw [undeclared, List.mem_filter, Option.isNone_iff_eq_none, parameter?_eq_none_iff]

theorem undeclared_ascending (op : Operation) : op.undeclared.Pairwise (· < ·) :=
  op.parameters.keys_ascending.filter _

theorem mem_keys_resolved : key ∈ op.resolved.keys ↔ key ∈ op.element.parameterKeys := by
  have hresolved : op.resolved.get? key = none ↔ key ∉ op.resolved.keys := TextMap.get?_eq_none_iff
  have hdeclared : op.element.default? key = none ↔ key ∉ op.element.parameterKeys :=
    TextMap.lookup?_eq_none_iff
  rw [← not_iff_not, ← hresolved, ← hdeclared, get?_resolved, parameter?_eq_none_iff]

/-- Every declared parameter is resolved, once, and no other name is. -/
theorem keys_resolved_perm (op : Operation) : op.resolved.keys.Perm op.element.parameterKeys :=
  (List.perm_ext_iff_of_nodup op.resolved.nodup_keys (nodup_parameterKeys op.element)).2
    fun _ => mem_keys_resolved

/-! ## Storing other values that come to the same -/

theorem withResolved_agreesOn (op : Operation) : op.withResolved.AgreesOn op := by
  refine .of_parameter fun key => ?_
  show (op.element.default? key).map (fun d => (op.resolved.get? key).getD d) = op.parameter? key
  rw [get?_resolved, parameter?]
  cases op.element.default? key <;> rfl

theorem withoutUndeclared_agreesOn (op : Operation) : op.withoutUndeclared.AgreesOn op := by
  refine .of_parameter fun key => ?_
  show (op.element.default? key).map (fun d => ((TextMap.filterMap _ _).get? key).getD d) = _
  rw [TextMap.get?_filterMap, parameter?]
  cases hdefault : op.element.default? key with
  | none => rfl
  | some d =>
    -- a declared name is not among those that are dropped
    have hkept : key ∉ op.undeclared := by
      rw [mem_undeclared_iff, parameter?_eq_none_iff, hdefault]
      rintro ⟨-, hnone⟩
      exact Option.some_ne_none d hnone
    simp only [if_neg hkept, Option.map_some, Option.bind_fun_some]

theorem undeclared_withResolved (op : Operation) : op.withResolved.undeclared = [] := by
  refine List.eq_nil_iff_forall_not_mem.2 fun key hkey => ?_
  obtain ⟨hstored, hnone⟩ := mem_undeclared_iff.1 hkey
  -- a name that is stored now has been resolved, and so it has a value
  rw [op.withResolved_agreesOn.parameter, ← get?_resolved, TextMap.get?_eq_none_iff] at hnone
  exact hnone hstored

theorem undeclared_withoutUndeclared (op : Operation) : op.withoutUndeclared.undeclared = [] := by
  refine List.eq_nil_iff_forall_not_mem.2 fun key hkey => ?_
  obtain ⟨hstored, hnone⟩ := mem_undeclared_iff.1 hkey
  rw [op.withoutUndeclared_agreesOn.parameter] at hnone
  have hdropped : op.withoutUndeclared.parameters.get? key = none := by
    refine (TextMap.get?_filterMap _ _ _).trans ?_
    cases hget : op.parameters.get? key with
    | none => rfl
    | some x =>
      have hlisted : key ∈ op.undeclared := by
        refine mem_undeclared_iff.2 ⟨?_, hnone⟩
        by_contra hkeys
        rw [TextMap.get?_eq_none_iff.2 hkeys] at hget
        exact nomatch hget
      rw [Option.bind_some, if_pos hlisted]
  exact TextMap.get?_eq_none_iff.1 hdropped hstored

/-- **The views of an operation's parameters agree.** A look-up finds what is resolved; the names
without effect are the stored names that a look-up does not find, in ascending order, each once; the
resolved names are the declared ones. Storing what was resolved, or dropping the names without
effect, changes no view of the declared parameters, so resolving twice is resolving once; and the
arguments of a statement are read off what is resolved. -/
theorem parameterViews_agree (op : Operation) :
    (∀ key, op.parameter? key = op.resolved.get? key) ∧
    (∀ key, key ∈ op.undeclared ↔ key ∈ op.parameters.keys ∧ op.parameter? key = none) ∧
    op.undeclared.Pairwise (· < ·) ∧
    op.resolved.keys.Perm op.element.parameterKeys ∧
    (op.withResolved.AgreesOn op ∧ op.withResolved.undeclared = []) ∧
    (op.withoutUndeclared.AgreesOn op ∧ op.withoutUndeclared.undeclared = []) ∧
    op.arguments = op.element.parameterKeys.map fun key =>
      Literal.number ((op.resolved.get? key).getD (.zero false)) := by
  refine ⟨fun key => (op.get?_resolved key).symm, fun _ => mem_undeclared_iff,
    op.undeclared_ascending, op.keys_resolved_perm,
    ⟨op.withResolved_agreesOn, op.undeclared_withResolved⟩,
    ⟨op.withoutUndeclared_agreesOn, op.undeclared_withoutUndeclared⟩, ?_⟩
  refine List.map_congr_left fun key _ => ?_
  rw [get?_resolved]

end Operation

end OpticalBench
