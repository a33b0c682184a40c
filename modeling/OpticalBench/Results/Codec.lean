import OpticalBench.Json.Record
import OpticalBench.Results.Basic

/-!
# Results in files

Results are written with all their fields in order; the simulation time and the error only if there
is one. Reading needs every other field.
-/

namespace OpticalBench.Results

/-- The fields of results in their order. -/
def fieldNames : List String :=
  ["success", "probabilities", "counts", "photon_detections", "simulation_time",
    "probabilities_fallback", "counts_synthesized", "error"]

/-- Results as a value. -/
def encode (r : Results) : Json.Value :=
  .object <|
    [("success", .boolean r.success),
      ("probabilities", .ofTextMap Json.Value.ofBinary64 r.probabilities),
      ("counts", .ofTextMap (fun c => .ofNat c.toNat) r.counts),
      ("photon_detections", .ofTextMap Json.Value.ofBinary64 r.photonDetections)] ++
    (r.simulationTime.toList.map fun t => ("simulation_time", Json.Value.ofBinary64 t)) ++
    [("probabilities_fallback", .boolean r.probabilitiesFallback),
      ("counts_synthesized", .boolean r.countsSynthesized)] ++
    r.error.toList.map fun e => ("error", Json.Value.text e)

/-- A count as it is written. -/
def decodeCount? (d : Json.Document) : Option UInt64 :=
  (d.natural? Text.max64).map UInt64.ofNat

/-- The results that a document is. -/
def decode? (d : Json.Document) : Option Results := do
  let r ← d.record? fieldNames
  let numbers := Json.Document.textMap? Json.Document.binary64?
  let success ← r.required? "success" Json.Document.boolean?
  let probabilities ← r.required? "probabilities" numbers
  let counts ← r.required? "counts" (Json.Document.textMap? decodeCount?)
  let photonDetections ← r.required? "photon_detections" numbers
  let simulationTime ← r.optional? "simulation_time" (Json.Document.nullable? Json.Document.binary64?)
  let probabilitiesFallback ← r.required? "probabilities_fallback" Json.Document.boolean?
  let countsSynthesized ← r.required? "counts_synthesized" Json.Document.boolean?
  let error ← r.optional? "error" (Json.Document.nullable? Json.Document.text?)
  some { success, probabilities, counts, photonDetections, simulationTime, probabilitiesFallback,
         countsSynthesized, error }

/-- The text of results. -/
def render (r : Results) : String := r.encode.render

/-- The results that a text is. -/
def read? (s : String) : Option Results := (Json.Document.read? s).bind decode?

end OpticalBench.Results
