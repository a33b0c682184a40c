import OpticalBench.Report.Distribution
import OpticalBench.Report.Page

/-!
# Summaries of results

A summary shows results on a page: the totals, the most probable outcomes as a table, and the photon
detections. It cannot be completed if the counts add up to more than 64 bits can hold.
-/

namespace OpticalBench.Summary

/-- How many outcomes are shown. -/
def rowLimit : Nat := 16

/-- The facts above the totals. -/
def facts (r : Results) : Page :=
  Page.heading "Results" ++
  Page.result "Success" (if r.success then "true" else "false") ++
  (r.simulationTime.toList.flatMap fun t =>
    Page.result "Simulation time" ((t.mul (.ofNat 1000)).fixed 3 ++ " ms")) ++
  (r.mostProbable?.toList.flatMap fun (label, p) =>
    Page.result "Most probable" ("|" ++ label ++ "⟩ (" ++ (p.mul (.ofNat 100)).fixed 1 ++ "%)"))

/-- How the results came about. -/
def remarks (r : Results) : Page :=
  (if r.probabilitiesFallback then
    Page.warning "Probabilities are a uniform placeholder; the backend reported none" else []) ++
  (if r.countsSynthesized then Page.info "Counts were derived from probabilities" else [])

/-- The photon detections of the modes. -/
def detections (r : Results) : Page :=
  if r.photonDetections.isEmpty then []
  else "" :: r.photonDetections.entries.flatMap fun (mode, p) => Page.result mode (p.fixed 4)

/-- The summary of results, or how far it gets. -/
def page (r : Results) : Except Page Page :=
  match r.totalCounts? with
  | none => .error (facts r)
  | some total =>
    .ok (facts r ++ Page.result "Total counts" (toString total.toNat) ++ remarks r ++
      "" :: (Distribution.rows r rowLimit).map ("  " ++ ·) ++ detections r)

end OpticalBench.Summary
