import OpticalBench.Proofs.Config.Precedence

/-!
# Where the values of a configuration come from

The variables, a file and the defaults each say something about a configuration, and what one of them
says is laid over what is known. So every value of a loaded configuration comes from the first source
that speaks of it, and what is said about the service of one framework reaches no other.

- `Entries`: what one source says; `ofVariables`, `Format.entries` and `ofFile` for the sources.
- `merge_eq_laidOver`, `decode?_eq_laidOver`: merging lays what the variables say over a configuration,
  and decoding lays what a text says over the defaults.
- `exists_base_of_load`: loading does both, and what comes out is sound.
- `merge_unset`: a number that cannot be read is as good as not set.
- `merge_merge`: merging twice is merging once.
- `load_provenance`: the settings of each gateway, the shots and the log level of what was loaded.
-/

namespace OpticalBench

/-- A field with a default is decoded if it is there, and takes its default if it is not. -/
theorem Record.orElse?_eq_some {α δ : Type} {r : Record δ} {field : String}
    {decode : δ → Option α} {default a : α} (h : r.orElse? field decode default = some a) :
    (r.get? field = none → a = default) ∧ ∀ d, r.get? field = some d → decode d = some a := by
  rw [Record.orElse?] at h
  cases hget : r.get? field with
  | none =>
    rw [hget] at h
    exact ⟨fun _ => (Option.some.inj h).symm, nofun⟩
  | some d =>
    rw [hget] at h
    exact ⟨nofun, fun _ hd => Option.some.inj hd ▸ h⟩

namespace Config

/-! ## Sources -/

/-- What one source says about a configuration. It may leave every value open. -/
structure Entries where
  url : Framework → Option String
  token : Framework → Option String
  timeout : Option UInt64
  shots : Option UInt32
  logLevel : Option String

namespace Entries

/-- A source that leaves everything open. -/
def silent : Entries := ⟨fun _ => none, fun _ => none, none, none, none⟩

/-- The service of a framework according to a source, over what is known. -/
def endpoint (s : Entries) (f : Framework) (known : Endpoint) : Endpoint where
  url := (s.url f).getD known.url
  token := s.token f <|> known.token

/-- What a source says, laid over what is known. -/
def laidOver (s : Entries) (c : Config) : Config where
  strawberryFields := s.endpoint .strawberryFields c.strawberryFields
  perceval := s.endpoint .perceval c.perceval
  timeoutSeconds := s.timeout.getD c.timeoutSeconds
  shots := s.shots.getD c.shots
  logLevel := s.logLevel.getD c.logLevel

/-- Sources that say the same as far as the gateway of a framework is concerned. -/
structure AgreeFor (f : Framework) (a b : Entries) : Prop where
  url_eq : a.url f = b.url f
  token_eq : a.token f = b.token f
  timeout_eq : a.timeout = b.timeout

/-- What the variables say. -/
def ofVariables (env : Environment) : Entries where
  url f := env (urlName f)
  token f := env (tokenName f)
  timeout := timeout? env
  shots := shots? env
  logLevel := env "LUMEN_LOG_LEVEL"

end Entries

/-! ## Texts -/

/-- The key under which a text speaks of the service of a framework. -/
def serviceKey : Framework → String
  | .strawberryFields => "strawberry_fields"
  | .perceval => "perceval"

namespace Format

variable {δ : Type} (fmt : Format δ)

/-- What a record says under a key. -/
def field? (declared : List String) (key : String) (d : δ) : Option δ :=
  (fmt.record? declared d).bind (·.get? key)

/-- A section of a configuration. -/
def section? (key : String) (d : δ) : Option δ :=
  fmt.field? ["gateways", "execution", "logging"] key d

/-- What a configuration says about the service of a framework. -/
def service? (f : Framework) (d : δ) : Option δ :=
  (fmt.section? "gateways" d).bind (fmt.field? ["strawberry_fields", "perceval"] (serviceKey f))

/-- The address of a service. -/
def url? (d : δ) : Option String := (fmt.field? ["endpoint", "token"] "endpoint" d).bind fmt.text?

/-- The token for a service. -/
def token? (d : δ) : Option String :=
  ((fmt.field? ["endpoint", "token"] "token" d).bind fmt.optionalText?).join

/-- A number of an execution section. -/
def executionNumber? (key : String) (limit : Nat) (d : δ) : Option Nat :=
  (fmt.field? ["timeout_seconds", "shots"] key d).bind (fmt.natural? limit)

/-- What a text says. -/
def entries (d : δ) : Entries where
  url f := (fmt.service? f d).bind fmt.url?
  token f := (fmt.service? f d).bind fmt.token?
  timeout := ((fmt.section? "execution" d).bind
    (fmt.executionNumber? "timeout_seconds" Text.max64)).map UInt64.ofNat
  shots := ((fmt.section? "execution" d).bind
    (fmt.executionNumber? "shots" Text.max32)).map UInt32.ofNat
  logLevel := (fmt.section? "logging" d).bind fun l => (fmt.field? ["level"] "level" l).bind fmt.text?

end Format

/-- What a file says. Without a file, or without a document in it, nothing is said. -/
def Entries.ofFile : Option FileContent → Entries
  | some (.ok s) =>
    match Yaml.Content.read? s with
    | some d => Format.yaml.entries d
    | none => .silent
  | _ => .silent

/-! ## Decoding lays a text over the defaults -/

section Decoding

variable {δ : Type} {fmt : Format δ} {d : δ} {c : Config} {e : Endpoint} {f : Framework}

theorem decodeEndpoint?_eq_some (h : decodeEndpoint? fmt d = some e) :
    fmt.url? d = some e.url ∧ fmt.token? d = e.token := by
  obtain ⟨r, hrecord, h⟩ := Option.bind_eq_some_iff.1 h
  obtain ⟨url, hurl, h⟩ := Option.bind_eq_some_iff.1 h
  obtain ⟨token, htoken, h⟩ := Option.bind_eq_some_iff.1 h
  obtain rfl := Option.some.inj h
  have hfield : ∀ key, fmt.field? ["endpoint", "token"] key d = r.get? key := by
    intro key
    rw [Format.field?, hrecord, Option.bind_some]
  refine ⟨?_, ?_⟩
  · rw [Format.url?, hfield]
    exact hurl
  · rw [Format.token?, hfield]
    obtain ⟨habsent, hpresent⟩ := Record.orElse?_eq_some htoken
    cases hget : r.get? "token" with
    | none => exact (habsent hget).symm
    | some t => rw [Option.bind_some, hpresent t hget, Option.join_some]

/-- A service is as the text says, or the default one if the text does not say anything about it. -/
theorem endpoint_eq_of_decoded {service : Option δ}
    (absent : service = none → e = .default f)
    (present : ∀ s, service = some s → decodeEndpoint? fmt s = some e) :
    e = ⟨(service.bind fmt.url?).getD f.defaultEndpoint, service.bind fmt.token?⟩ := by
  cases service with
  | none => exact absent rfl
  | some s =>
    obtain ⟨hurl, htoken⟩ := decodeEndpoint?_eq_some (present s rfl)
    rw [Option.bind_some, Option.bind_some, hurl, htoken, Option.getD_some]

/-- One of two services. -/
def serviceOf (services : Endpoint × Endpoint) : Framework → Endpoint
  | .strawberryFields => services.1
  | .perceval => services.2

/-- Both services are decoded alike, each under its own key. -/
theorem serviceOf_eq {services : Endpoint × Endpoint} (gateways : Option δ)
    (absent : gateways = none → ∀ f, serviceOf services f = .default f)
    (present : ∀ g, gateways = some g → decodeEndpoints? fmt g = some services) (f : Framework) :
    let service := gateways.bind (fmt.field? ["strawberry_fields", "perceval"] (serviceKey f))
    serviceOf services f =
      ⟨(service.bind fmt.url?).getD f.defaultEndpoint, service.bind fmt.token?⟩ := by
  cases gateways with
  | none => exact absent rfl f
  | some g =>
    obtain ⟨r, hrecord, h⟩ := Option.bind_eq_some_iff.1 (present g rfl)
    obtain ⟨strawberryFields, hstrawberry, h⟩ := Option.bind_eq_some_iff.1 h
    obtain ⟨perceval, hperceval, h⟩ := Option.bind_eq_some_iff.1 h
    obtain rfl := Option.some.inj h
    have hfield : fmt.field? ["strawberry_fields", "perceval"] (serviceKey f) g =
        r.get? (serviceKey f) := by
      rw [Format.field?, hrecord, Option.bind_some]
    show serviceOf _ f = _
    rw [Option.bind_some, hfield]
    cases f with
    | strawberryFields =>
      obtain ⟨habsent, hpresent⟩ := Record.orElse?_eq_some hstrawberry
      exact endpoint_eq_of_decoded habsent hpresent
    | perceval =>
      obtain ⟨habsent, hpresent⟩ := Record.orElse?_eq_some hperceval
      exact endpoint_eq_of_decoded habsent hpresent

/-- A decoded number or text is the one in the text, or the default. -/
theorem eq_getD_of_orElse? {α : Type} {r : Record δ} {key : String} {decode : δ → Option α}
    {default a : α} (h : r.orElse? key decode default = some a) :
    a = ((r.get? key).bind decode).getD default := by
  obtain ⟨habsent, hpresent⟩ := Record.orElse?_eq_some h
  cases hget : r.get? key with
  | none => exact habsent hget
  | some d => rw [Option.bind_some, hpresent d hget, Option.getD_some]

theorem decodeExecution?_eq_some {timeout : UInt64} {shots : UInt32}
    (h : decodeExecution? fmt d = some (timeout, shots)) :
    timeout = ((fmt.executionNumber? "timeout_seconds" Text.max64 d).map UInt64.ofNat).getD
        default.timeoutSeconds ∧
      shots = ((fmt.executionNumber? "shots" Text.max32 d).map UInt32.ofNat).getD
        default.shots := by
  obtain ⟨r, hrecord, h⟩ := Option.bind_eq_some_iff.1 h
  obtain ⟨timeout', htimeout, h⟩ := Option.bind_eq_some_iff.1 h
  obtain ⟨shots', hshots, h⟩ := Option.bind_eq_some_iff.1 h
  obtain ⟨rfl, rfl⟩ := Prod.mk.inj (Option.some.inj h)
  have hnumber : ∀ key limit, fmt.executionNumber? key limit d =
      (r.get? key).bind (fmt.natural? limit) := by
    intro key limit
    rw [Format.executionNumber?, Format.field?, hrecord, Option.bind_some]
  rw [hnumber, hnumber, Option.map_bind, Option.map_bind]
  exact ⟨eq_getD_of_orElse? htimeout, eq_getD_of_orElse? hshots⟩

theorem decodeLogging?_eq_some {level : String} (h : decodeLogging? fmt d = some level) :
    level = ((fmt.field? ["level"] "level" d).bind fmt.text?).getD default.logLevel := by
  obtain ⟨r, hrecord, h⟩ := Option.bind_eq_some_iff.1 h
  rw [Format.field?, hrecord, Option.bind_some]
  exact eq_getD_of_orElse? h

/-- Decoding lays what a text says over the defaults. -/
theorem decode?_eq_laidOver (h : decode? fmt d = some c) :
    c = (fmt.entries d).laidOver default := by
  obtain ⟨r, hrecord, h⟩ := Option.bind_eq_some_iff.1 h
  obtain ⟨services, hservices, h⟩ := Option.bind_eq_some_iff.1 h
  obtain ⟨⟨timeout, shots⟩, hexecution, h⟩ := Option.bind_eq_some_iff.1 h
  obtain ⟨level, hlogging, h⟩ := Option.bind_eq_some_iff.1 h
  obtain rfl := Option.some.inj h
  have hsection : ∀ key, fmt.section? key d = r.get? key := by
    intro key
    rw [Format.section?, Format.field?, hrecord, Option.bind_some]
  have hendpoint : ∀ f, serviceOf services f =
      ⟨((fmt.entries d).url f).getD f.defaultEndpoint, (fmt.entries d).token f⟩ := by
    intro f
    obtain ⟨habsent, hpresent⟩ := Record.orElse?_eq_some hservices
    have hservice := serviceOf_eq (r.get? "gateways")
      (fun hnone f => by cases f <;> rw [habsent hnone] <;> rfl) hpresent f
    rw [← hsection] at hservice
    exact hservice
  have hnumbers : timeout = (fmt.entries d).timeout.getD default.timeoutSeconds ∧
      shots = (fmt.entries d).shots.getD default.shots := by
    obtain ⟨habsent, hpresent⟩ := Record.orElse?_eq_some hexecution
    show timeout = (((fmt.section? "execution" d).bind _).map _).getD _ ∧
      shots = (((fmt.section? "execution" d).bind _).map _).getD _
    rw [hsection]
    cases hget : r.get? "execution" with
    | none => exact Prod.mk.inj (habsent hget)
    | some e => exact decodeExecution?_eq_some (hpresent e hget)
  have hlevel : level = (fmt.entries d).logLevel.getD default.logLevel := by
    obtain ⟨habsent, hpresent⟩ := Record.orElse?_eq_some hlogging
    show level = ((fmt.section? "logging" d).bind _).getD _
    rw [hsection]
    cases hget : r.get? "logging" with
    | none => exact habsent hget
    | some l => exact decodeLogging?_eq_some (hpresent l hget)
  have hlaid : ∀ f, serviceOf services f = (fmt.entries d).endpoint f (.default f) := by
    intro f
    rw [hendpoint f, Entries.endpoint, Endpoint.default]
    cases (fmt.entries d).token f <;> rfl
  rw [Entries.laidOver, Config.mk.injEq]
  exact ⟨hlaid .strawberryFields, hlaid .perceval, hnumbers.1, hnumbers.2, hlevel⟩

end Decoding

/-! ## Merging lays the variables over a configuration -/

variable {c base : Config} {env : Environment} {file : Option FileContent}

theorem merge_eq_laidOver (c : Config) (env : Environment) :
    c.merge env = (Entries.ofVariables env).laidOver c := rfl

theorem endpoint_laidOver (s : Entries) (c : Config) (f : Framework) :
    (s.laidOver c).endpoint f = s.endpoint f (c.endpoint f) := by
  cases f <;> rfl

/-- Saying the same again changes nothing. -/
theorem laidOver_laidOver (s : Entries) (c : Config) :
    s.laidOver (s.laidOver c) = s.laidOver c := by
  have hgetD : ∀ {α : Type} (o : Option α) (known : α), o.getD (o.getD known) = o.getD known := by
    intro α o known
    cases o <;> rfl
  have horElse : ∀ o known : Option String, (o <|> (o <|> known)) = (o <|> known) := by
    intro o known
    cases o <;> rfl
  simp only [Entries.laidOver, Entries.endpoint, hgetD, horElse]

/-- The variables without one of them. -/
def Environment.unset (env : Environment) (name : String) : Environment :=
  fun other => if other = name then none else env other

/-- The variables that hold a number, and the largest number that each may hold. -/
def numberVariables : List (String × Nat) :=
  [("LUMEN_TIMEOUT_SECS", Text.max64), ("LUMEN_SHOTS", Text.max32)]

/-- The variables that hold texts are others. -/
theorem textVariable_ne {name : String} {limit : Nat} (hname : (name, limit) ∈ numberVariables)
    (f : Framework) : urlName f ≠ name ∧ tokenName f ≠ name ∧ "LUMEN_LOG_LEVEL" ≠ name := by
  have hdistinct : ∀ v ∈ numberVariables,
      urlName f ≠ v.1 ∧ tokenName f ≠ v.1 ∧ "LUMEN_LOG_LEVEL" ≠ v.1 := by
    cases f <;> decide
  exact hdistinct _ hname

/-- A number that cannot be read is as good as not set. -/
theorem ofVariables_unset {name : String} {limit : Nat} (hname : (name, limit) ∈ numberVariables)
    (unreadable : (env name).bind (Text.readNatural? limit) = none) :
    Entries.ofVariables (env.unset name) = Entries.ofVariables env := by
  have hother : ∀ other, other ≠ name → env.unset name other = env other := fun _ h => if_neg h
  have hnumber : ∀ other bound, (other, bound) ∈ numberVariables →
      (env.unset name other).bind (Text.readNatural? bound) =
        (env other).bind (Text.readNatural? bound) := by
    intro other bound hmem
    by_cases h : other = name
    · obtain rfl : bound = limit := by
        have hlimit : ∀ v ∈ numberVariables, ∀ w ∈ numberVariables, v.1 = w.1 → v.2 = w.2 := by
          decide
        exact hlimit _ hmem _ hname h
      rw [h, unreadable, Environment.unset, if_pos rfl, Option.bind_none]
    · rw [hother other h]
  rw [Entries.ofVariables, Entries.ofVariables, Entries.mk.injEq]
  refine ⟨funext fun f => hother _ (textVariable_ne hname f).1,
    funext fun f => hother _ (textVariable_ne hname f).2.1, ?_, ?_,
    hother _ (textVariable_ne hname .perceval).2.2⟩
  · rw [timeout?, timeout?, hnumber _ _ List.mem_cons_self]
  · rw [shots?, shots?, hnumber _ _ (List.mem_cons_of_mem _ List.mem_cons_self)]

theorem merge_unset {name : String} {limit : Nat} (hname : (name, limit) ∈ numberVariables)
    (unreadable : (env name).bind (Text.readNatural? limit) = none) (c : Config) :
    c.merge (env.unset name) = c.merge env := by
  rw [merge_eq_laidOver, merge_eq_laidOver, ofVariables_unset hname unreadable]

/-! ## Loading -/

/-- Loading depends on the variables only through what they are merged to. -/
theorem load_congr [Diagnosis] {other : Environment} (h : ∀ c : Config, c.merge other = c.merge env)
    (file : Option FileContent) : load file other = load file env := by
  cases file with
  | none => rw [load, load, h]
  | some content =>
    rw [load, load]
    cases ofFile content with
    | ok c => exact congrArg validate (h c)
    | error e => rfl

/-- What a file is decoded to is what it says, laid over the defaults. -/
theorem eq_laidOver_of_ofFile [Diagnosis] {content : FileContent} (h : ofFile content = .ok c) :
    c = (Entries.ofFile (some content)).laidOver default := by
  cases content with
  | error e => cases h
  | ok s =>
    have hread : readYaml? s = some c := by
      rw [ofFile, ofYaml] at h
      cases hread : readYaml? s with
      | none =>
        rw [hread] at h
        cases h
      | some base =>
        rw [hread] at h
        rw [(validate_eq_ok_iff.1 h).2]
    obtain ⟨d, hd, hdecode⟩ := Option.bind_eq_some_iff.1 hread
    rw [Entries.ofFile, hd]
    exact decode?_eq_laidOver hdecode

/-- What was loaded is sound, and it is what the variables say, laid over what the file says, laid over
the defaults. -/
theorem eq_laidOver_of_load [Diagnosis] (h : load file env = .ok c) :
    c.IsSound ∧
      c = (Entries.ofVariables env).laidOver ((Entries.ofFile file).laidOver default) := by
  cases file with
  | none =>
    obtain ⟨hsound, rfl⟩ := validate_eq_ok_iff.1 h
    exact ⟨hsound, rfl⟩
  | some content =>
    rw [load] at h
    cases hfile : ofFile content with
    | error e =>
      rw [hfile] at h
      cases h
    | ok base =>
      rw [hfile] at h
      obtain ⟨hsound, rfl⟩ := validate_eq_ok_iff.1 h
      rw [← eq_laidOver_of_ofFile hfile]
      exact ⟨hsound, rfl⟩

/-- A value comes from the first source that has one. -/
theorem getD_getD {α : Type} (o p : Option α) (known : α) :
    o.getD (p.getD known) = (o <|> p).getD known := by
  cases o <;> rfl

/-- The settings of a gateway, each from the first source that speaks of it. -/
theorem settings_laidOver (overrides text : Entries) (f : Framework) :
    (overrides.laidOver (text.laidOver default)).settings f =
      { name := f.identifier
        framework := f
        endpoint := (overrides.url f <|> text.url f).getD f.defaultEndpoint
        token := overrides.token f <|> text.token f
        timeout := .ofSeconds ((overrides.timeout <|> text.timeout).getD 30).toNat
        extra := .empty } := by
  have hendpoint : (overrides.laidOver (text.laidOver default)).endpoint f =
      ⟨(overrides.url f <|> text.url f).getD f.defaultEndpoint,
        overrides.token f <|> text.token f⟩ := by
    have hdefault : (default : Config).endpoint f = ⟨f.defaultEndpoint, none⟩ := by cases f <;> rfl
    have hnone : (text.token f <|> none) = text.token f := by cases text.token f <;> rfl
    rw [endpoint_laidOver, endpoint_laidOver, hdefault, Entries.endpoint, Entries.endpoint, getD_getD,
      hnone]
  have htimeout : (overrides.laidOver (text.laidOver default)).timeoutSeconds =
      (overrides.timeout <|> text.timeout).getD 30 := getD_getD _ _ _
  rw [settings, timeout, hendpoint, htimeout]
  rfl

/-- **Every value of a loaded configuration comes from the first source that speaks of it**: the
variables, then the file, then the defaults. The configuration is sound, and each gateway gets the
settings of its own framework: whatever else the sources say about the other framework, two loaded
configurations whose sources agree for a framework have the same settings for it. A number that cannot
be read is as good as not set, and merging the same variables again changes nothing. -/
theorem load_provenance [Diagnosis] (file : Option FileContent) (env : Environment) (c : Config)
    (loaded : load file env = .ok c) :
    c.validate = .ok c ∧
    (∀ f, c.settings f =
      { name := f.identifier
        framework := f
        endpoint := (env (urlName f) <|> (Entries.ofFile file).url f).getD f.defaultEndpoint
        token := env (tokenName f) <|> (Entries.ofFile file).token f
        timeout := .ofSeconds ((timeout? env <|> (Entries.ofFile file).timeout).getD 30).toNat
        extra := .empty }) ∧
    c.shots = (shots? env <|> (Entries.ofFile file).shots).getD 1000 ∧
    c.logLevel = (env "LUMEN_LOG_LEVEL" <|> (Entries.ofFile file).logLevel).getD "info" ∧
    (∀ (f : Framework) (file' : Option FileContent) (env' : Environment) (c' : Config),
      load file' env' = .ok c' →
      (Entries.ofVariables env').AgreeFor f (Entries.ofVariables env) →
      (Entries.ofFile file').AgreeFor f (Entries.ofFile file) → c'.settings f = c.settings f) ∧
    (∀ name limit, (name, limit) ∈ numberVariables →
      (env name).bind (Text.readNatural? limit) = none →
      load file (env.unset name) = load file env) ∧
    c.merge env = c ∧ ∀ d : Config, (d.merge env).merge env = d.merge env := by
  obtain ⟨hsound, hc⟩ := eq_laidOver_of_load loaded
  have hmerge : ∀ d : Config, (d.merge env).merge env = d.merge env := fun d =>
    laidOver_laidOver (Entries.ofVariables env) d
  refine ⟨validate_eq_ok_iff.2 ⟨hsound, rfl⟩, fun f => ?_, ?_, ?_, ?_, ?_, ?_, hmerge⟩
  · rw [hc]
    exact settings_laidOver _ _ f
  · rw [hc]
    exact getD_getD _ _ _
  · rw [hc]
    exact getD_getD _ _ _
  · intro f file' env' c' loaded' hvariables hfile
    rw [hc, (eq_laidOver_of_load loaded').2, settings_laidOver, settings_laidOver,
      hvariables.url_eq, hvariables.token_eq, hvariables.timeout_eq, hfile.url_eq, hfile.token_eq,
      hfile.timeout_eq]
  · intro name limit hname unreadable
    exact load_congr (merge_unset hname unreadable) file
  · rw [hc]
    exact hmerge _

/-- A file that speaks of one service, and more that it may say about the other. -/
def servicesFile (more : String) : String := "gateways:\n  perceval:\n    endpoint: http://b\n" ++ more

/-- The service of the other framework. -/
def otherService : String := "  strawberry_fields:\n    endpoint: http://a\n    token: k3y\n"

/-- The configuration in such a file. -/
def servicesConfig (e : Endpoint) : Config := { default with
  strawberryFields := e
  perceval := ⟨"http://b", none⟩ }

/-- Variables with a token for one service, perhaps one for the other, and no readable timeout. -/
def tokenVariables (token : Option String) : Environment := fun name =>
  if name = "LUMEN_PERCEVAL_TOKEN" then some "t0k3n"
  else if name = "LUMEN_STRAWBERRY_FIELDS_TOKEN" then token
  else if name = "LUMEN_TIMEOUT_SECS" then some "soon"
  else none

/-- A file is loaded if what it says is sound before and after merging. -/
theorem load_eq_ok [Diagnosis] (s : String) (base : Config) (env : Environment)
    (parses : readYaml? s = some base) (alone : base.fault? = none)
    (merged : (base.merge env).fault? = none) : load (some (.ok s)) env = .ok (base.merge env) := by
  have hbase : base? (some s) = some base := parses
  exact (load_of_sound hbase (fault?_eq_none_iff.1 alone) env).trans
    (validate_eq_ok_iff.2 ⟨fault?_eq_none_iff.1 merged, rfl⟩)

theorem load_provenance_services :
    let _ : Diagnosis := ⟨fun _ => "invalid type"⟩
    ∃ c d, load (some (.ok (servicesFile otherService))) (tokenVariables none) = .ok c ∧
      load (some (.ok (servicesFile ""))) (tokenVariables (some "0ther")) = .ok d ∧
      (c.settings .strawberryFields).token = some "k3y" ∧
      (d.settings .strawberryFields).token = some "0ther" ∧
      (c.settings .perceval).token = some "t0k3n" ∧ d.settings .perceval = c.settings .perceval ∧
      load (some (.ok (servicesFile otherService)))
        ((tokenVariables none).unset "LUMEN_TIMEOUT_SECS") = .ok c := by
  intro words
  have hc := load_eq_ok (servicesFile otherService) (servicesConfig ⟨"http://a", some "k3y"⟩)
    (tokenVariables none) (by decide +kernel) (by decide +kernel) (by decide +kernel)
  have hd := load_eq_ok (servicesFile "") (servicesConfig (.default .strawberryFields))
    (tokenVariables (some "0ther")) (by decide +kernel) (by decide +kernel) (by decide +kernel)
  have hsaid : ∀ more ∈ [otherService, ""],
      (Entries.ofFile (some (.ok (servicesFile more)))).url .perceval = some "http://b" ∧
        (Entries.ofFile (some (.ok (servicesFile more)))).token .perceval = none ∧
        (Entries.ofFile (some (.ok (servicesFile more)))).timeout = none := by
    decide +kernel
  obtain ⟨hurl, htoken, htimeout⟩ := hsaid otherService List.mem_cons_self
  obtain ⟨hurl', htoken', htimeout'⟩ := hsaid "" (List.mem_cons_of_mem _ List.mem_cons_self)
  obtain ⟨-, -, -, -, hother, hunset, -⟩ := load_provenance _ _ _ hc
  refine ⟨_, _, hc, hd, rfl, rfl, rfl, ?_, ?_⟩
  · exact hother .perceval _ _ _ hd ⟨rfl, rfl, rfl⟩
      ⟨hurl'.trans hurl.symm, htoken'.trans htoken.symm, htimeout'.trans htimeout.symm⟩
  · exact (hunset _ Text.max64 (by decide) (by decide +kernel)).trans hc

end Config

end OpticalBench
