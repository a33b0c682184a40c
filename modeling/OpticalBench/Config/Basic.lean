import OpticalBench.Gateway.Settings
import OpticalBench.Program.Generate

/-!
# Configuration

The configuration says where the services of the two frameworks are, how long they may take, how many
shots programs scale their counts to, and how much is logged.

- `Config.default`: the configuration without any file.
- `Config.merge`: variables of the environment override what they name. A number that cannot be read
  overrides nothing.
- `Config.validate`: the first thing that is wrong, if anything is.
- `Config.settings`: the settings of the gateway of a framework.
-/

namespace OpticalBench

/-- Where a service is. -/
structure Endpoint where
  url : String
  token : Option String
  deriving DecidableEq, Inhabited, Repr

/-- The configuration. -/
structure Config where
  strawberryFields : Endpoint
  perceval : Endpoint
  timeoutSeconds : UInt64
  shots : UInt32
  logLevel : String
  deriving DecidableEq, Repr

/-- Why there is no configuration. -/
inductive ConfigError
  /-- The file cannot be read. -/
  | io (detail : String)
  /-- The file is not a configuration. -/
  | parse (detail : String)
  /-- The configuration makes no sense. -/
  | validation (detail : String)
  deriving DecidableEq, Inhabited, Repr

namespace ConfigError

/-- The sentence that reports an error. -/
def message : ConfigError → String
  | io detail => "IO error: " ++ detail
  | parse detail => "Parse error: " ++ detail
  | validation detail => "Validation error: " ++ detail

end ConfigError

/-- The local service of a framework, without a token. -/
def Endpoint.default (f : Framework) : Endpoint := ⟨f.defaultEndpoint, none⟩

namespace Config

/-- The configuration without any file. -/
def default : Config where
  strawberryFields := .default .strawberryFields
  perceval := .default .perceval
  timeoutSeconds := 30
  shots := .ofNat Program.defaultShots
  logLevel := "info"

instance : Inhabited Config := ⟨default⟩

/-- The service of a framework. -/
def endpoint (c : Config) : Framework → Endpoint
  | .strawberryFields => c.strawberryFields
  | .perceval => c.perceval

/-- How long a service may take. -/
def timeout (c : Config) : Duration := .ofSeconds c.timeoutSeconds.toNat

/-- The settings of the gateway of a framework. -/
def settings (c : Config) (f : Framework) : GatewaySettings :=
  { GatewaySettings.default f with
    endpoint := (c.endpoint f).url
    timeout := c.timeout
    token := (c.endpoint f).token }

/-! ## The environment -/

/-- The variables that are set. -/
abbrev Environment := String → Option String

/-- The variables that a configuration looks at. -/
def variableNames : List String :=
  ["LUMEN_STRAWBERRY_FIELDS_ENDPOINT", "LUMEN_STRAWBERRY_FIELDS_TOKEN", "LUMEN_PERCEVAL_ENDPOINT",
    "LUMEN_PERCEVAL_TOKEN", "LUMEN_TIMEOUT_SECS", "LUMEN_SHOTS", "LUMEN_LOG_LEVEL"]

/-- What an environment says about a service, over what is known. -/
def mergeEndpoint (env : Environment) (urlName tokenName : String) (e : Endpoint) : Endpoint where
  url := (env urlName).getD e.url
  token := env tokenName <|> e.token

/-- What an environment says, over what is known. -/
def merge (c : Config) (env : Environment) : Config where
  strawberryFields := mergeEndpoint env "LUMEN_STRAWBERRY_FIELDS_ENDPOINT"
    "LUMEN_STRAWBERRY_FIELDS_TOKEN" c.strawberryFields
  perceval := mergeEndpoint env "LUMEN_PERCEVAL_ENDPOINT" "LUMEN_PERCEVAL_TOKEN" c.perceval
  timeoutSeconds := (((env "LUMEN_TIMEOUT_SECS").bind (Text.readNatural? Text.max64)).map
    UInt64.ofNat).getD c.timeoutSeconds
  shots := (((env "LUMEN_SHOTS").bind (Text.readNatural? Text.max32)).map UInt32.ofNat).getD c.shots
  logLevel := (env "LUMEN_LOG_LEVEL").getD c.logLevel

/-! ## Validation -/

/-- The words for how much is logged. -/
def logLevels : List String := ["trace", "debug", "info", "warn", "error"]

/-- What is wrong with a service, if anything is. -/
def endpointFault? (f : Framework) (e : Endpoint) : Option String :=
  if !("http://".toList.isPrefixOf e.url.toList || "https://".toList.isPrefixOf e.url.toList) then
    some ("Invalid " ++ f.displayName ++ " endpoint: " ++ e.url)
  else if e.token = some "" then
    some (f.displayName ++ " token must not be empty; omit the field to disable authentication")
  else none

/-- The first thing that is wrong with a configuration, if anything is. -/
def fault? (c : Config) : Option String :=
  endpointFault? .strawberryFields c.strawberryFields <|>
  endpointFault? .perceval c.perceval <|>
  (if c.timeoutSeconds = 0 then some "timeout_seconds must be greater than 0" else none) <|>
  (if c.shots = 0 then some "shots must be greater than 0" else none) <|>
  (if c.logLevel ∈ logLevels then none else some ("Invalid log level: " ++ c.logLevel))

/-- The configuration itself, if nothing is wrong with it. -/
def validate (c : Config) : Except ConfigError Config :=
  match c.fault? with
  | some detail => .error (.validation detail)
  | none => .ok c

/-! ## Debug text -/

/-- A service for debug views. -/
def endpointDebugText (e : Endpoint) : String :=
  "EndpointConfig \x7b endpoint: " ++ Text.quote e.url ++ ", token: " ++ Text.redacted ++ " \x7d"

/-- A configuration for debug views. -/
def debugText (c : Config) : String :=
  "Config \x7b gateways: GatewaysConfig \x7b strawberry_fields: " ++
    endpointDebugText c.strawberryFields ++ ", perceval: " ++ endpointDebugText c.perceval ++
    " \x7d, execution: ExecutionConfig \x7b timeout_seconds: " ++ toString c.timeoutSeconds.toNat ++
    ", shots: " ++ toString c.shots.toNat ++ " \x7d, logging: LoggingConfig \x7b level: " ++
    Text.quote c.logLevel ++ " \x7d \x7d"

end Config

end OpticalBench
