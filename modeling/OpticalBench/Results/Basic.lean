import OpticalBench.Results.DictLiteral

/-!
# Results

Services report results in several shapes: as fields of the payload, one level deeper under
`"results"`, or as dictionary literals. `Results.interpret` accepts all of them and never fails; what
cannot be read is left out.

- `field?`: where a field is looked for.
- `numberMap?`: a map of numbers in any shape.
- `interpret`: the results that a payload reports.
- `mostProbable?`, `totalCounts?`: two summaries.
-/

namespace OpticalBench

/-- The outcome of one simulation. -/
structure Results where
  success : Bool
  /-- The probability of each outcome. -/
  probabilities : TextMap Binary64
  /-- How often each outcome was sampled. -/
  counts : TextMap UInt64
  /-- The probability of detecting a photon, for each mode. -/
  photonDetections : TextMap Binary64
  /-- How long the simulation took, in seconds. -/
  simulationTime : Option Binary64
  /-- Whether the program put in a uniform distribution for the real one. -/
  probabilitiesFallback : Bool
  /-- Whether the counts were derived here from the probabilities. -/
  countsSynthesized : Bool
  /-- What the service reported as an error. -/
  error : Option String
  deriving DecidableEq, Inhabited

namespace Results

/-! ## Fields of a payload -/

/-- A field at the top level, or else one level under `"results"`. -/
def field? (raw : Json.Value) (key : String) : Option Json.Value :=
  raw.get? key <|> (raw.get? "results").bind (·.get? key)

/-- A number, or a text that is one. -/
def number? : Json.Value → Option Binary64
  | .number n => some n.toBinary64
  | .text s => Binary64.readCharacters? (Text.trimCharacters s.toList)
  | _ => none

/-- A truth value, or a text that is one. -/
def truth? : Json.Value → Option Bool
  | .boolean b => some b
  | .text s =>
    let word := Text.trim s
    if word = "True" ∨ word = "true" then some true
    else if word = "False" ∨ word = "false" then some false
    else none
  | _ => none

/-- A map of numbers; a literal may contain a literal again, `fuel` levels deep. -/
def numberMapWithin? : Nat → Json.Value → Option (TextMap Binary64)
  | _, .object fields => some ((TextMap.ofList fields).filterMap fun _ v => number? v)
  | fuel + 1, .text s => (DictLiteral.read? s).bind (numberMapWithin? fuel)
  | _, _ => none

/-- A map of numbers, from an object or a literal; values that are no numbers are left out. A text
inside a literal is shorter than the literal, so its length bounds the levels. -/
def numberMap? (v : Json.Value) : Option (TextMap Binary64) :=
  match v with
  | .text s => numberMapWithin? (s.utf8ByteSize + 1) v
  | _ => numberMapWithin? 0 v

/-- A count: the whole part of a number that is finite and not negative, at most the largest 64-bit
number. -/
def count? (x : Binary64) : Option UInt64 :=
  if x.isFinite && decide (0 ≤ x.numericRank) then
    some (.ofNat (min x.wholePart Text.max64))
  else none

/-- How many shots counts are derived for. -/
def syntheticShots : Binary64 := .ofNat 1000

/-- Counts derived from probabilities; outcomes without a count are left out. -/
def synthesize (probabilities : TextMap Binary64) : TextMap UInt64 :=
  probabilities.filterMap fun _ p => (count? (p.mul syntheticShots)).filter (0 < ·)

/-- A text that is not empty. -/
def errorText? : Json.Value → Option String
  | .text s => if s.isEmpty then none else some s
  | _ => none

/-- The results that a payload reports. Without a readable word on success, a run has succeeded if no
error was reported. -/
def interpret (raw : Json.Value) : Results :=
  let probabilities := ((field? raw "probabilities").bind numberMap?).getD .empty
  let reported := ((field? raw "counts").bind numberMap?).map
    (TextMap.filterMap fun _ x => count? x)
  let error := (field? raw "error").bind errorText?
  { success := ((field? raw "success").bind truth?).getD error.isNone
    probabilities
    counts := reported.getD (synthesize probabilities)
    photonDetections := ((field? raw "photon_detections").bind numberMap?).getD .empty
    simulationTime := (field? raw "simulation_time").bind number?
    probabilitiesFallback := ((field? raw "probabilities_fallback").bind truth?).getD false
    countsSynthesized := reported.isNone && !probabilities.isEmpty
    error }

/-! ## Summaries -/

/-- The later of two outcomes unless the earlier one is more probable. -/
def moreProbable (best : Option (String × Binary64)) (e : String × Binary64) :
    Option (String × Binary64) :=
  match best with
  | none => some e
  | some b => if b.2.totalLe e.2 then some e else some b

/-- The most probable outcome; of equally probable ones the last. -/
def mostProbable? (r : Results) : Option (String × Binary64) :=
  r.probabilities.entries.foldl moreProbable none

/-- The sum of the counts. -/
def countSum (r : Results) : Nat := r.counts.values.foldr (fun n sum => n.toNat + sum) 0

/-- The sum of the counts, if it fits 64 bits. -/
def totalCounts? (r : Results) : Option UInt64 :=
  if r.countSum ≤ Text.max64 then some (.ofNat r.countSum) else none

/-- Whether there is no outcome at all. -/
def isEmpty (r : Results) : Bool := r.probabilities.isEmpty && r.counts.isEmpty

end Results

end OpticalBench
