import OpticalBench.Config.Load

/-!
# What has the last word on a configuration

Variables of the environment override what a file says, and a file overrides the defaults. So the values
of a loaded configuration do not depend on what a variable overrides. Whether there is a configuration
does: a file must make sense by itself, before any variable is looked at.

- `IsSound`: what validation asks of a configuration; `fault?_eq_none_iff` shows that it asks no more.
- `IsAcceptable`: variables of which each that is set makes sense.
- `isSound_merge_iff`: over a sound configuration, only the variables decide.
- `merge_congr`: what a variable overrides makes no difference to the values.
- `load_of_base`: validation stands before the variables and after them.
- `load_under_environment`: when there is a configuration, and which.
- `not_forall_load_eq_ok`: a variable does not save a file with an invalid value.
-/

namespace OpticalBench.Config

/-! ## Sound configurations -/

/-- A text that can be the address of a service. -/
def IsAddress (url : String) : Prop :=
  "http://".toList <+: url.toList ∨ "https://".toList <+: url.toList

/-- A service that nothing is wrong with. -/
structure IsSoundEndpoint (e : Endpoint) : Prop where
  url : IsAddress e.url
  token : ∀ token ∈ e.token, token ≠ ""

/-- A configuration that nothing is wrong with. -/
structure IsSound (c : Config) : Prop where
  endpoint : ∀ f, IsSoundEndpoint (c.endpoint f)
  timeout : c.timeoutSeconds ≠ 0
  shots : c.shots ≠ 0
  logLevel : c.logLevel ∈ logLevels

variable {base c d : Config} {e : Endpoint} {env : Environment} {f : Framework}

theorem endpointFault?_eq_none_iff : endpointFault? f e = none ↔ IsSoundEndpoint e := by
  have haddress : ("http://".toList.isPrefixOf e.url.toList ||
      "https://".toList.isPrefixOf e.url.toList) = true ↔ IsAddress e.url := by
    rw [Bool.or_eq_true, List.isPrefixOf_iff_prefix, List.isPrefixOf_iff_prefix]
    rfl
  rw [endpointFault?]
  by_cases hurl : IsAddress e.url
  · rw [haddress.2 hurl, if_neg (by decide)]
    by_cases htoken : e.token = some ""
    · rw [if_pos htoken]
      exact ⟨nofun, fun h => absurd rfl (h.token "" htoken)⟩
    · rw [if_neg htoken]
      refine ⟨fun _ => ⟨hurl, ?_⟩, fun _ => rfl⟩
      rintro token hmem rfl
      exact htoken hmem
  · rw [Bool.eq_false_iff.2 (mt haddress.1 hurl), if_pos (by decide)]
    exact ⟨nofun, fun h => absurd h.url hurl⟩

/-- Validation asks for a sound configuration, and for no more. -/
theorem fault?_eq_none_iff : c.fault? = none ↔ c.IsSound := by
  simp only [fault?, Option.orElse_eq_orElse, Option.orElse_eq_or, Option.or_eq_none_iff,
    endpointFault?_eq_none_iff, ite_eq_right_iff, ite_eq_left_iff, reduceCtorEq, imp_false,
    Decidable.not_not]
  constructor
  · rintro ⟨strawberryFields, perceval, timeout, shots, logLevel⟩
    refine ⟨fun f => ?_, timeout, shots, logLevel⟩
    cases f
    · exact strawberryFields
    · exact perceval
  · rintro ⟨endpoint, timeout, shots, logLevel⟩
    exact ⟨endpoint .strawberryFields, endpoint .perceval, timeout, shots, logLevel⟩

theorem validate_eq_ok_iff : c.validate = .ok d ↔ c.IsSound ∧ d = c := by
  rw [← fault?_eq_none_iff, validate]
  cases c.fault? with
  | none => simp [eq_comm]
  | some detail => simp

theorem isSound_default : default.IsSound := fault?_eq_none_iff.1 (by decide +kernel)

/-! ## Variables -/

/-- The variable that says where the service of a framework is. -/
def urlName : Framework → String
  | .strawberryFields => "LUMEN_STRAWBERRY_FIELDS_ENDPOINT"
  | .perceval => "LUMEN_PERCEVAL_ENDPOINT"

/-- The variable that holds the token for the service of a framework. -/
def tokenName : Framework → String
  | .strawberryFields => "LUMEN_STRAWBERRY_FIELDS_TOKEN"
  | .perceval => "LUMEN_PERCEVAL_TOKEN"

/-- The timeout that the variables say. A number that cannot be read is none. -/
def timeout? (env : Environment) : Option UInt64 :=
  ((env "LUMEN_TIMEOUT_SECS").bind (Text.readNatural? Text.max64)).map UInt64.ofNat

/-- The shots that the variables say. -/
def shots? (env : Environment) : Option UInt32 :=
  ((env "LUMEN_SHOTS").bind (Text.readNatural? Text.max32)).map UInt32.ofNat

/-- Variables of which each that says something makes sense. -/
structure IsAcceptable (env : Environment) : Prop where
  url : ∀ f, ∀ url ∈ env (urlName f), IsAddress url
  token : ∀ f, ∀ token ∈ env (tokenName f), token ≠ ""
  timeout : ∀ seconds ∈ timeout? env, seconds ≠ 0
  shots : ∀ shots ∈ shots? env, shots ≠ 0
  logLevel : ∀ level ∈ env "LUMEN_LOG_LEVEL", level ∈ logLevels

/-- Configurations that differ at most in what the variables override. -/
structure AgreeUnlessSet (env : Environment) (c d : Config) : Prop where
  url : ∀ f, env (urlName f) = none → (c.endpoint f).url = (d.endpoint f).url
  token : ∀ f, env (tokenName f) = none → (c.endpoint f).token = (d.endpoint f).token
  timeout : timeout? env = none → c.timeoutSeconds = d.timeoutSeconds
  shots : shots? env = none → c.shots = d.shots
  logLevel : env "LUMEN_LOG_LEVEL" = none → c.logLevel = d.logLevel

theorem endpoint_merge (c : Config) (env : Environment) (f : Framework) :
    (c.merge env).endpoint f = mergeEndpoint env (urlName f) (tokenName f) (c.endpoint f) := by
  cases f <;> rfl

/-- What holds of a known value holds of the value that overrides it if it holds of the latter wherever
there is one. -/
theorem getD_iff {α : Type} {P : α → Prop} {known : α} (hknown : P known) (o : Option α) :
    P (o.getD known) ↔ ∀ a ∈ o, P a := by
  cases o with
  | none => exact ⟨nofun, fun _ => hknown⟩
  | some a => exact ⟨fun h b hb => Option.some.inj hb ▸ h, fun h => h a rfl⟩

theorem isSoundEndpoint_merge_iff (he : IsSoundEndpoint e) (urlName tokenName : String) :
    IsSoundEndpoint (mergeEndpoint env urlName tokenName e) ↔
      (∀ url ∈ env urlName, IsAddress url) ∧ ∀ token ∈ env tokenName, token ≠ "" := by
  have htoken : (∀ token ∈ (env tokenName <|> e.token), token ≠ "") ↔
      ∀ token ∈ env tokenName, token ≠ "" := by
    cases env tokenName with
    | none => exact ⟨fun _ => nofun, fun _ => he.token⟩
    | some token => rfl
  rw [← getD_iff he.url, ← htoken]
  exact ⟨fun h => ⟨h.url, h.token⟩, fun h => ⟨h.1, h.2⟩⟩

/-- Over a sound configuration, only the variables decide. -/
theorem isSound_merge_iff (hbase : base.IsSound) : (base.merge env).IsSound ↔ IsAcceptable env := by
  have hendpoint : ∀ f, IsSoundEndpoint ((base.merge env).endpoint f) ↔
      (∀ url ∈ env (urlName f), IsAddress url) ∧ ∀ token ∈ env (tokenName f), token ≠ "" := by
    intro f
    rw [endpoint_merge]
    exact isSoundEndpoint_merge_iff (hbase.endpoint f) _ _
  have htimeout := getD_iff (P := (· ≠ 0)) hbase.timeout (timeout? env)
  have hshots := getD_iff (P := (· ≠ 0)) hbase.shots (shots? env)
  have hlevel := getD_iff (P := (· ∈ logLevels)) hbase.logLevel (env "LUMEN_LOG_LEVEL")
  constructor
  · rintro ⟨endpoint, timeout, shots, logLevel⟩
    exact ⟨fun f => ((hendpoint f).1 (endpoint f)).1, fun f => ((hendpoint f).1 (endpoint f)).2,
      htimeout.1 timeout, hshots.1 shots, hlevel.1 logLevel⟩
  · rintro ⟨url, token, timeout, shots, logLevel⟩
    exact ⟨fun f => (hendpoint f).2 ⟨url f, token f⟩, htimeout.2 timeout, hshots.2 shots,
      hlevel.2 logLevel⟩

/-- What a variable overrides makes no difference. -/
theorem merge_congr (h : AgreeUnlessSet env c d) : c.merge env = d.merge env := by
  have hgetD : ∀ {α : Type} {x y : α} (o : Option α), (o = none → x = y) → o.getD x = o.getD y := by
    intro α x y o hxy
    cases o with
    | none => exact hxy rfl
    | some a => rfl
  have horElse : ∀ {x y : Option String} (o : Option String), (o = none → x = y) →
      (o <|> x) = (o <|> y) := by
    intro x y o hxy
    cases o with
    | none => exact hxy rfl
    | some a => rfl
  have hendpoint : ∀ f, mergeEndpoint env (urlName f) (tokenName f) (c.endpoint f) =
      mergeEndpoint env (urlName f) (tokenName f) (d.endpoint f) := by
    intro f
    rw [mergeEndpoint, mergeEndpoint, hgetD _ (h.url f), horElse _ (h.token f)]
  rw [merge, merge, Config.mk.injEq]
  exact ⟨hendpoint .strawberryFields, hendpoint .perceval, hgetD _ h.timeout, hgetD _ h.shots,
    hgetD _ h.logLevel⟩

/-! ## Loading -/

/-- What the variables are laid over: the configuration that a file says, or the default without any
file. -/
def base? : Option String → Option Config
  | none => some default
  | some s => readYaml? s

/-- What is laid over it is validated with it, but not before it passed by itself. -/
theorem load_of_base [Diagnosis] {file : Option String} (parses : base? file = some base) (env : Environment) :
    load (file.map .ok) env = base.validate.bind fun c => (c.merge env).validate := by
  cases file with
  | none =>
    obtain rfl : default = base := Option.some.inj parses
    have hvalidate : (default : Config).validate = .ok default :=
      validate_eq_ok_iff.2 ⟨isSound_default, rfl⟩
    rw [Option.map_none, load, hvalidate, Except.bind]
  | some s =>
    have hfile : ofFile (.ok s) = base.validate := by
      have hread : readYaml? s = some base := parses
      rw [ofFile, ofYaml, hread]
    rw [Option.map_some, load, hfile]
    cases base.validate with
    | ok c => rfl
    | error e => rfl

theorem load_of_sound [Diagnosis] {file : Option String} (parses : base? file = some base)
    (sound : base.IsSound) (env : Environment) : load (file.map .ok) env = (base.merge env).validate := by
  rw [load_of_base parses, validate_eq_ok_iff.2 ⟨sound, rfl⟩, Except.bind]

theorem load_of_fault [Diagnosis] {file : Option String} {detail : String}
    (parses : base? file = some base) (fault : base.fault? = some detail) (env : Environment) :
    load (file.map .ok) env = .error (.validation detail) := by
  rw [load_of_base parses, validate, fault, Except.bind]

/-- **Variables have the last word on the values of a configuration, but not on whether there is one.**
There is a configuration if and only if what they are laid over is sound by itself and the variables
that are set make sense, and then it is what they make together. A file that is not sound is
refused with what is wrong with it, whatever the variables are. What they override makes no other
difference. -/
theorem load_under_environment [Diagnosis] (file : Option String) (env : Environment)
    {base : Config} (parses : base? file = some base) :
    (∀ c, load (file.map .ok) env = .ok c ↔
      base.IsSound ∧ IsAcceptable env ∧ c = base.merge env) ∧
    (∀ detail, base.fault? = some detail →
      load (file.map .ok) env = .error (.validation detail)) ∧
    (file = none → base.IsSound) ∧
    ∀ other, AgreeUnlessSet env base other → other.merge env = base.merge env := by
  refine ⟨fun c => ?_, fun detail hfault => load_of_fault parses hfault env, ?_,
    fun other h => (merge_congr h).symm⟩
  · cases hfault : base.fault? with
    | none =>
      have hbase := fault?_eq_none_iff.1 hfault
      rw [load_of_sound parses hbase, validate_eq_ok_iff, isSound_merge_iff hbase,
        and_iff_right hbase]
    | some detail =>
      have hbase : ¬ base.IsSound := fun hbase =>
        nomatch hfault.symm.trans (fault?_eq_none_iff.2 hbase)
      rw [load_of_fault parses hfault]
      exact ⟨nofun, fun h => absurd h.1 hbase⟩
  · rintro rfl
    obtain rfl : default = base := Option.some.inj parses
    exact isSound_default

/-- A file that says where one of the services is, and nothing else. -/
def partialFile : String := "gateways:\n  perceval:\n    endpoint: http://sim.internal:9000\n"

/-- The configuration in it. -/
def partialConfig : Config := { default with perceval := ⟨"http://sim.internal:9000", none⟩ }

theorem load_under_environment_partialFile :
    let _ : Diagnosis := ⟨fun _ => "invalid type"⟩
    base? (some partialFile) = some partialConfig ∧
      load (some (.ok partialFile)) (fun name => if name = "LUMEN_SHOTS" then some "9" else none) =
        .ok { partialConfig with shots := 9 } := by
  intro words
  have parses : base? (some partialFile) = some partialConfig := by decide +kernel
  have hsound : partialConfig.IsSound := fault?_eq_none_iff.1 (by decide +kernel)
  have hvariables : IsAcceptable fun name => if name = "LUMEN_SHOTS" then some "9" else none :=
    (isSound_merge_iff hsound).1 (fault?_eq_none_iff.1 (by decide +kernel))
  refine ⟨parses, ?_⟩
  refine ((load_under_environment (some partialFile) _ parses).1 _).2 ⟨hsound, hvariables, ?_⟩
  decide +kernel

/-- A variable does not save a file with an invalid value, though it overrides it: no shots in the file
are refused, whatever `LUMEN_SHOTS` says. -/
theorem not_forall_load_eq_ok :
    ¬ ∀ (_ : Diagnosis) (file : Option String) (env : Environment) (base : Config),
      base? file = some base →
      (base.merge env).validate = .ok (base.merge env) →
      load (file.map .ok) env = .ok (base.merge env) := by
  intro h
  let words : Diagnosis := ⟨fun _ => "invalid type"⟩
  have parses : base? (some "execution:\n  shots: 0\n") = some { default with shots := 0 } := by
    decide +kernel
  have hload := h words (some "execution:\n  shots: 0\n")
    (fun name => if name = "LUMEN_SHOTS" then some "9" else none) _ parses
    (validate_eq_ok_iff.2 ⟨fault?_eq_none_iff.1 (by decide +kernel), rfl⟩)
  have hfault : ({ default with shots := 0 } : Config).fault? =
      some "shots must be greater than 0" := by
    decide +kernel
  exact nomatch (load_of_fault parses hfault _).symm.trans hload

end OpticalBench.Config
