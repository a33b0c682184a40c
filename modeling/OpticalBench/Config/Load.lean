import OpticalBench.Config.Basic
import OpticalBench.FileContent
import OpticalBench.Yaml.Content

/-!
# Loading a configuration

A configuration is written as nested records, in YAML or in JSON. Everything has a default, except
the address of a service that is mentioned.

- `Config.Format`: what decoding needs to know about a format.
- `Config.decode?`: a configuration from a text in some format.
- `Config.Diagnosis`: what is said about a text that is no configuration.
- `Config.ofYaml`: the configuration in a file, which must make sense by itself.
- `Config.load`: file and environment together, which must make sense together.
-/

namespace OpticalBench

namespace Config

/-- A format in which records can be written; `δ` is its type of contents. -/
structure Format (δ : Type) where
  record? : List String → δ → Option (Record δ)
  text? : δ → Option String
  natural? : Nat → δ → Option Nat
  /-- The text that a content is, or nothing if it says so. -/
  optionalText? : δ → Option (Option String)

namespace Format

/-- JSON documents. -/
def json : Format Json.Document where
  record? := Json.Document.record?
  text? := Json.Document.text?
  natural? := Json.Document.natural?
  optionalText? := Json.Document.nullable? Json.Document.text?

/-- Contents of YAML documents. -/
def yaml : Format Yaml.Content where
  record? := Yaml.Content.record?
  text? := Yaml.Content.text?
  natural? := Yaml.Content.natural?
  optionalText? := Yaml.Content.nullable? Yaml.Content.text?

end Format

variable {δ : Type}

/-- A service. -/
def decodeEndpoint? (f : Format δ) (d : δ) : Option Endpoint := do
  let r ← f.record? ["endpoint", "token"] d
  let url ← r.required? "endpoint" f.text?
  let token ← r.orElse? "token" f.optionalText? none
  some { url, token }

/-- The services of both frameworks. -/
def decodeEndpoints? (f : Format δ) (d : δ) : Option (Endpoint × Endpoint) := do
  let r ← f.record? ["strawberry_fields", "perceval"] d
  let strawberryFields ← r.orElse? "strawberry_fields" (decodeEndpoint? f)
    (.default .strawberryFields)
  let perceval ← r.orElse? "perceval" (decodeEndpoint? f) (.default .perceval)
  some (strawberryFields, perceval)

/-- The timeout and the shots. -/
def decodeExecution? (f : Format δ) (d : δ) : Option (UInt64 × UInt32) := do
  let r ← f.record? ["timeout_seconds", "shots"] d
  let timeoutSeconds ← r.orElse? "timeout_seconds"
    (fun t => (f.natural? Text.max64 t).map UInt64.ofNat) default.timeoutSeconds
  let shots ← r.orElse? "shots" (fun s => (f.natural? Text.max32 s).map UInt32.ofNat) default.shots
  some (timeoutSeconds, shots)

/-- How much is logged. -/
def decodeLogging? (f : Format δ) (d : δ) : Option String := do
  let r ← f.record? ["level"] d
  r.orElse? "level" f.text? default.logLevel

/-- A configuration. -/
def decode? (f : Format δ) (d : δ) : Option Config := do
  let r ← f.record? ["gateways", "execution", "logging"] d
  let (strawberryFields, perceval) ← r.orElse? "gateways" (decodeEndpoints? f)
    (default.strawberryFields, default.perceval)
  let (timeoutSeconds, shots) ← r.orElse? "execution" (decodeExecution? f)
    (default.timeoutSeconds, default.shots)
  let logLevel ← r.orElse? "logging" (decodeLogging? f) default.logLevel
  some { strawberryFields, perceval, timeoutSeconds, shots, logLevel }

/-- The configuration that a JSON text is, whether it makes sense or not. -/
def readJson? (s : String) : Option Config := (Json.Document.read? s).bind (decode? .json)

/-- The configuration that a YAML text is, whether it makes sense or not. -/
def readYaml? (s : String) : Option Config := (Yaml.Content.read? s).bind (decode? .yaml)

/-- What is said about a text that is not a configuration. The words are those of the reader in use, so
they are given from outside. -/
class Diagnosis where
  describe : String → String

/-- The configuration in a YAML text. -/
def ofYaml [Diagnosis] (s : String) : Except ConfigError Config :=
  match readYaml? s with
  | some c => c.validate
  | none => .error (.parse (Diagnosis.describe s))

/-- The configuration in a file. -/
def ofFile [Diagnosis] : FileContent → Except ConfigError Config
  | .error e => .error (.io e.message)
  | .ok s => ofYaml s

/-- The configuration in a file, if there is to be one, under an environment. -/
def load [Diagnosis] (file : Option FileContent) (env : Environment) : Except ConfigError Config :=
  match file with
  | none => (default.merge env).validate
  | some content =>
    match ofFile content with
    | .ok c => (c.merge env).validate
    | .error e => .error e

end Config

end OpticalBench
