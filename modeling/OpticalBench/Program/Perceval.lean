import OpticalBench.Program.StrawberryFields

/-!
# Programs for Perceval

Components are added to a flat circuit. Detectors are collected and attached to the processor before
sampling. The input is a single photon in the first mode.
-/

namespace OpticalBench.Program.Perceval

open Line

/-- What stands before the operations. -/
def preamble (count : Nat) : List Line :=
  [statement "import perceval as pcvl",
    statement "import numpy as np",
    statement "import json",
    statement "import time",
    blank,
    comment ("Initialize circuit with " ++ toString count ++ " modes"),
    statement ("circuit = pcvl.Circuit(" ++ toString count ++ ")"),
    statement "detectors = \x7b\x7d",
    blank]

/-- Arguments with the names they are passed by. -/
def named (names arguments : List String) : List String :=
  List.zipWith (fun name argument => name ++ "=" ++ argument) names arguments

/-- The component of an element on one mode. -/
def singleGate? (e : Element) (arguments : List String) : Option Gate :=
  match e with
  | .phaseShifter => some ⟨"Phase shift", call "pcvl.PS" (named ["phi"] arguments)⟩
  | .halfWavePlate => some ⟨"Half wave plate", call "pcvl.HWP" arguments⟩
  | .quarterWavePlate => some ⟨"Quarter wave plate", call "pcvl.QWP" arguments⟩
  | .timeDelay => some ⟨"Time delay", call "pcvl.TD" arguments⟩
  | _ => none

/-- The component of an element on two modes. -/
def dualGate? (e : Element) (arguments : List String) (mode next : Nat) : Option Gate :=
  let between := toString mode ++ " and " ++ toString next
  match e with
  | .beamSplitter =>
    some ⟨"Beam splitter between mode " ++ between,
      call "pcvl.BS" (named ["theta", "phi_bl"] arguments)⟩
  | .permutation => some ⟨"Swap mode " ++ between, call "pcvl.PERM" ["[1, 0]"]⟩
  | .polarizingBeamSplitter =>
    some ⟨"Polarizing beam splitter between mode " ++ between, call "pcvl.PBS" []⟩
  | .unitary =>
    some ⟨"Unitary on mode " ++ between ++ " (identity placeholder)",
      call "pcvl.Unitary" [call "pcvl.Matrix" ["[[1, 0], [0, 1]]"]]⟩
  | _ => none

/-- A component on one mode. -/
def singleStatement (g : Gate) (mode : Nat) : String :=
  "circuit.add((" ++ toString mode ++ ",), " ++ g.call ++ ")"

/-- A component on two modes. -/
def dualStatement (g : Gate) (mode next : Nat) : String :=
  "circuit.add((" ++ toString mode ++ ", " ++ toString next ++ "), " ++ g.call ++ ")"

/-- The detector of a mode. -/
def measurement (mode : Nat) : String :=
  "detectors[" ++ toString mode ++ "] = pcvl.Detector.pnr()"

/-- What stands after the operations. -/
def epilogue (count shots : Nat) : List Line :=
  [blank,
    comment "Input state: single photon in mode 0, vacuum in the others",
    statement ("input_state = pcvl.BasicState([1] + [0] * (" ++ toString count ++ " - 1))"),
    blank,
    comment "Create processor and attach detectors",
    statement "processor = pcvl.Processor(\"SLOS\", circuit)"] ++
  block "for mode, detector in detectors.items():" [
    statement "processor.add(mode, detector)"] ++
  [statement "processor.with_input(input_state)",
    blank,
    comment "Run the simulation",
    statement "start_time = time.time()",
    statement "sampler = pcvl.algorithm.Sampler(processor)",
    blank,
    comment "Extract outcome probabilities",
    statement "probabilities_fallback = False"] ++
  block "try:"
    ([statement "sample_result = sampler.probs()",
        statement "probabilities = \x7b\x7d"] ++
      block "for state, prob in sample_result[\"results\"].items():"
        [statement "probabilities[\"\".join(str(n) for n in state)] = float(prob)"] ++
      block "if not probabilities:"
        [statement "raise ValueError(\"sampler returned no outcomes\")"]) ++
  extraction count shots

end OpticalBench.Program.Perceval
