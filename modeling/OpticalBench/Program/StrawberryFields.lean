import OpticalBench.Catalog.Element
import OpticalBench.Program.Extraction

/-!
# Programs for Strawberry Fields

Operations stand inside a block that binds the modes to `q`. The engine is Gaussian unless a Kerr
gate takes part, which needs the Fock basis.
-/

namespace OpticalBench.Program

/-- A statement of a framework: a remark, and the call that stands for the element. -/
structure Gate where
  remark : String
  call : String
  deriving DecidableEq, Inhabited, Repr

/-- A call with its arguments. -/
def call (function : String) (arguments : List String) : String :=
  function ++ "(" ++ String.intercalate ", " arguments ++ ")"

namespace StrawberryFields

open Line

/-- How many Fock states per mode the Fock engine keeps. -/
def cutoffDimension : Nat := 5

/-- How many photons per mode are looked at when probabilities are collected. -/
def probabilityCutoff : Nat := 3

/-- The engine, and the remark that goes with it. -/
def engine (fock : Bool) : List Line :=
  if fock then
    [comment "Create engine (Kerr gates are non-Gaussian, use the Fock backend)",
      statement ("eng = sf.Engine(\"fock\", backend_options=\x7b\"cutoff_dim\": " ++
        toString cutoffDimension ++ "\x7d)")]
  else [comment "Create engine", statement "eng = sf.Engine(\"gaussian\")"]

/-- What stands before the operations; the last line opens the block they are in. -/
def preamble (count : Nat) (fock : Bool) : List Line :=
  [statement "import strawberryfields as sf",
    statement "from strawberryfields.ops import *",
    statement "import numpy as np",
    statement "import json",
    statement "import time",
    blank,
    comment ("Initialize program with " ++ toString count ++ " modes"),
    statement ("prog = sf.Program(" ++ toString count ++ ")"),
    blank] ++
  engine fock ++
  [blank,
    comment "Circuit definition",
    statement "with prog.context as q:"]

/-- The gate of an element on one mode. -/
def singleGate? (e : Element) (arguments : List String) : Option Gate :=
  match e with
  | .laser => some ⟨"Coherent state (laser input)", call "Coherent" ["1.0"]⟩
  | .phaseShifter => some ⟨"Phase shift", call "Rgate" arguments⟩
  | .squeezeGate => some ⟨"Squeezing operation", call "Sgate" arguments⟩
  | .displacementGate => some ⟨"Displacement operation", call "Dgate" arguments⟩
  | .kerrGate => some ⟨"Kerr nonlinearity", call "Kgate" arguments⟩
  | _ => none

/-- The gate of an element on two modes. -/
def dualGate? (e : Element) (arguments : List String) (mode next : Nat) : Option Gate :=
  match e with
  | .beamSplitter =>
    some ⟨"Beam splitter between mode " ++ toString mode ++ " and " ++ toString next,
      call "BSgate" arguments⟩
  | _ => none

/-- A mode. -/
def wire (mode : Nat) : String := "q[" ++ toString mode ++ "]"

/-- A gate on one mode. -/
def singleStatement (g : Gate) (mode : Nat) : String := g.call ++ " | " ++ wire mode

/-- A gate on two modes. -/
def dualStatement (g : Gate) (mode next : Nat) : String :=
  g.call ++ " | (" ++ wire mode ++ ", " ++ wire next ++ ")"

/-- The measurement of a mode. -/
def measurement (mode : Nat) : String := "MeasureFock() | " ++ wire mode

/-- What stands after the operations. -/
def epilogue (count shots : Nat) : List Line :=
  [blank,
    comment "Run the simulation",
    statement "start_time = time.time()",
    statement "result = eng.run(prog)",
    blank,
    comment "Extract outcome probabilities from the final state",
    statement "probabilities_fallback = False"] ++
  block "try:"
    ([statement "state = result.state",
        statement "probabilities = \x7b\x7d"] ++
      block ("for index in np.ndindex(*([" ++ toString probabilityCutoff ++ "] * " ++
          toString count ++ ")):")
        (statement "prob = float(np.real(state.fock_prob(list(index))))" ::
          block "if prob > 1e-12:"
            [statement "probabilities[\"\".join(str(n) for n in index)] = prob"]) ++
      block "if not probabilities:"
        [statement "raise ValueError(\"no Fock probabilities below the cutoff\")"]) ++
  extraction count shots

end StrawberryFields

end OpticalBench.Program
