import OpticalBench.Binary64.Basic
import OpticalBench.Catalog.Framework
import OpticalBench.TextMap

/-!
# Elements

The catalog of optical elements. Every element has a complete entry, so look-ups do not fail.

- `label`, `symbol`, `description`: what people see.
- `identifier`: the name in files.
- `declared`: the parameters of an element with their defaults, in the order they are shown.
- `supportedBy`: whether a framework has a statement of its own for the element.
- `arity`: whether the element acts on its mode alone or also on the mode to the right.
-/

namespace OpticalBench

/-- Parameter values by name. -/
abbrev Parameters := TextMap Binary64

/-- How many modes an element binds. -/
inductive Arity
  | single
  | dual
  deriving DecidableEq, Inhabited, Repr

/-- An optical element. -/
inductive Element
  /-- A source of coherent states. -/
  | laser
  /-- A beam splitter on two modes. -/
  | beamSplitter
  /-- A phase rotation. -/
  | phaseShifter
  /-- Squeezing of one mode. -/
  | squeezeGate
  /-- A displacement in phase space. -/
  | displacementGate
  /-- A Kerr nonlinearity. -/
  | kerrGate
  /-- A measurement of photon numbers. -/
  | measure
  /-- A half wave plate. -/
  | halfWavePlate
  /-- A quarter wave plate. -/
  | quarterWavePlate
  /-- A swap of two modes. -/
  | permutation
  /-- A polarizing beam splitter. -/
  | polarizingBeamSplitter
  /-- A delay line. -/
  | timeDelay
  /-- An arbitrary unitary on two modes. -/
  | unitary
  deriving DecidableEq, Inhabited, Repr

namespace Element

/-- Every element, in the order of the catalog. -/
def all : List Element :=
  [laser, beamSplitter, phaseShifter, squeezeGate, displacementGate, kerrGate, measure,
    halfWavePlate, quarterWavePlate, permutation, polarizingBeamSplitter, timeDelay, unitary]

/-- The label that people see. -/
def label : Element → String
  | laser => "Laser"
  | beamSplitter => "Beam Splitter"
  | phaseShifter => "Phase Shifter"
  | squeezeGate => "Squeezing Gate"
  | displacementGate => "Displacement Gate"
  | kerrGate => "Kerr Gate"
  | measure => "Photonic Measurement"
  | halfWavePlate => "Half Wave Plate"
  | quarterWavePlate => "Quarter Wave Plate"
  | permutation => "Permutation"
  | polarizingBeamSplitter => "Polarizing Beam Splitter"
  | timeDelay => "Time Delay"
  | unitary => "Unitary"

/-- The glyph in diagrams. -/
def symbol : Element → String
  | laser => "💡"
  | beamSplitter => "🔀"
  | phaseShifter => "𝜙"
  | squeezeGate => "⇉"
  | displacementGate => "↗"
  | kerrGate => "🌀"
  | measure => "🔍"
  | halfWavePlate => "½λ"
  | quarterWavePlate => "¼λ"
  | permutation => "⇄"
  | polarizingBeamSplitter => "⊠"
  | timeDelay => "⏱"
  | unitary => "U"

/-- The description in one line. -/
def description : Element → String
  | laser => "Creates a coherent state (laser input)"
  | beamSplitter => "Splits or combines optical paths"
  | phaseShifter => "Applies a phase shift to a mode"
  | squeezeGate => "Applies squeezing operation"
  | displacementGate => "Displaces a state in phase space"
  | kerrGate => "Applies Kerr nonlinearity"
  | measure => "Measures photonic states"
  | halfWavePlate => "Rotates polarization by twice the plate angle"
  | quarterWavePlate => "Converts between linear and circular polarization"
  | permutation => "Swaps a mode with its right neighbour"
  | polarizingBeamSplitter => "Transmits one polarization and reflects the orthogonal one"
  | timeDelay => "Delays photons travelling in a mode"
  | unitary => "Applies an arbitrary unitary to two adjacent modes"

/-- The name in files. -/
def identifier : Element → String
  | laser => "laser"
  | beamSplitter => "beam_splitter"
  | phaseShifter => "phase_shifter"
  | squeezeGate => "squeeze_gate"
  | displacementGate => "displacement_gate"
  | kerrGate => "kerr_gate"
  | measure => "measure"
  | halfWavePlate => "half_wave_plate"
  | quarterWavePlate => "quarter_wave_plate"
  | permutation => "permutation"
  | polarizingBeamSplitter => "polarizing_beam_splitter"
  | timeDelay => "time_delay"
  | unitary => "unitary"

/-- The element with an identifier. -/
def ofIdentifier? (s : String) : Option Element := all.find? fun e => e.identifier == s

/-! ## Parameters -/

/-- One half. -/
def half : Binary64 := .ofDecimal false 5 (-1)

/-- A quarter of π, the closest number to it. -/
def quarterPi : Binary64 := .ofDecimal false 7853981633974483 (-16)

/-- The declared parameters with their defaults. -/
def declared : Element → List (String × Binary64)
  | phaseShifter => [("phi", half)]
  | squeezeGate => [("r", half), ("theta", .zero false)]
  | displacementGate => [("r", half), ("phi", .zero false)]
  | kerrGate => [("kappa", .ofDecimal false 1 (-1))]
  | beamSplitter => [("theta", half), ("phi", quarterPi)]
  | halfWavePlate | quarterWavePlate => [("theta", .zero false)]
  | timeDelay => [("delay", .one)]
  | laser | measure | permutation | polarizingBeamSplitter | unitary => []

/-- The declared parameter names, in the order they are shown. -/
def parameterKeys (e : Element) : List String := e.declared.map (·.1)

/-- The default of a declared parameter. -/
def default? (e : Element) (key : String) : Option Binary64 := TextMap.lookup? key e.declared

/-- The defaults of all declared parameters. -/
def defaults (e : Element) : Parameters := .ofList e.declared

/-- Whether any parameter is declared. -/
def hasParameters (e : Element) : Bool := !e.declared.isEmpty

/-- The name of a parameter for people; a name that is not known is shown as it is. -/
def parameterDisplayName (key : String) : String :=
  if key = "phi" then "Phase (φ)"
  else if key = "r" then "Amplitude (r)"
  else if key = "theta" then "Angle (θ)"
  else if key = "kappa" then "Kerr Parameter (κ)"
  else if key = "delay" then "Delay"
  else key

/-! ## Support and arity -/

/-- Whether a framework has a statement of its own for the element. -/
def supportedBy (e : Element) : Framework → Bool
  | .strawberryFields =>
    match e with
    | laser | beamSplitter | phaseShifter | squeezeGate | displacementGate | kerrGate | measure =>
      true
    | _ => false
  | .perceval =>
    match e with
    | laser | squeezeGate | displacementGate | kerrGate => false
    | _ => true

/-- How many modes the element binds. -/
def arity : Element → Arity
  | beamSplitter | permutation | polarizingBeamSplitter | unitary => .dual
  | _ => .single

/-- Whether the element also acts on the mode to the right. -/
def isDual (e : Element) : Bool := e.arity == .dual

/-- Whether the element is the measurement, which is deferred to the end of a program. -/
def isMeasurement (e : Element) : Bool := e == measure

/-! ## Names -/

/-- The common form of names: no surrounding blanks, lower case, underscores between words. -/
def canonicalName (s : String) : String :=
  String.ofList <| (Text.trimCharacters s.toList).map fun c =>
    let lower := c.toLower
    if lower = ' ' ∨ lower = '-' then '_' else lower

/-- Names that are known besides the labels. -/
def alias? (name : String) : Option Element :=
  if name = "squeeze_gate" then some squeezeGate
  else if name = "measure" ∨ name = "measurement" then some measure
  else none

/-- The element that a person names, by label or by identifier. An unknown name is reported as it was
given. -/
def parse (s : String) : Except UnknownName Element :=
  let name := canonicalName s
  match all.find? (fun e => canonicalName e.label == name) <|> alias? name with
  | some e => .ok e
  | none => .error (.element s)

end Element

end OpticalBench
