import OpticalBench.Program.Line
import OpticalBench.Program.Literal

/-!
# The end of every program

Both frameworks end alike: if the probabilities cannot be had, the uniform distribution over the
binary outcomes stands in for them; counts, detection probabilities and the run time are derived, and
the results are printed.
-/

namespace OpticalBench.Program

open Line

/-- What follows the block that assigns the probabilities. -/
def extraction (count shots : Nat) : List Line :=
  block "except Exception as probs_error:" [
    statement "print(\"Error computing probabilities:\", str(probs_error))",
    comment "Uniform distribution over the binary outcomes",
    statement ("probabilities = " ++ Literal.uniform count),
    statement "probabilities_fallback = True"] ++
  [blank,
    comment ("Scale probabilities to " ++ toString shots ++ " shots"),
    statement ("shots = " ++ toString shots),
    statement "counts = \x7b\x7d"] ++
  block "for label, prob in probabilities.items():"
    (statement "count = int(prob * shots)" ::
      block "if count > 0:" [statement "counts[label] = count"]) ++
  [blank,
    comment "Probability of detecting at least one photon in each mode",
    statement "photon_detections = \x7b\x7d"] ++
  block ("for i in range(" ++ toString count ++ "):") [
    statement ("photon_detections[f\"mode_\x7bi\x7d\"] = sum(prob for label, prob in " ++
      "probabilities.items() if len(label) > i and label[i] != \"0\")")] ++
  [blank,
    statement "simulation_time = time.time() - start_time",
    statement "success = True",
    blank,
    statement "print(\"Probabilities:\", json.dumps(probabilities))",
    statement "print(\"Counts:\", json.dumps(counts))",
    statement "print(\"Simulation time:\", round(simulation_time, 4))"]

end OpticalBench.Program
