import OpticalBench.Binary64.Layout
import OpticalBench.Results.Basic
import OpticalBench.StableSort

/-!
# Tables of outcomes

`Distribution.rows` is a table of the most probable outcomes: one line for each, with its probability,
its count and a bar. More probable outcomes come first, equally probable ones in the order of their
labels.
-/

namespace OpticalBench.Distribution

/-- At or before another outcome in the table. -/
def outcomeLe (a b : String × Binary64) : Bool :=
  if a.2.rank = b.2.rank then decide (a.1 ≤ b.1) else b.2.totalLe a.2

/-- The outcomes in the order of the table. -/
def ranked (r : Results) : List (String × Binary64) := stableSort outcomeLe r.probabilities.entries

/-- The count of an outcome. -/
def countOf (r : Results) (label : String) : UInt64 := (r.counts.get? label).getD 0

/-- How many blocks a bar has: thirty for certainty, none where there is no finite probability. A half
block counts as a block. -/
def barWidth (p : Binary64) : Nat :=
  if !p.isFinite || p.numericLt (.zero false) then 0
  else if Binary64.one.numericLt p then 30
  else (2 * (p.mul (.ofNat 30)).magnitude + Binary64.unitsPerOne) / (2 * Binary64.unitsPerOne)

/-- A text with spaces in front, so that it is at least so wide. -/
def padLeft (width : Nat) (s : String) : String :=
  String.ofList (List.replicate (width - s.length) ' ') ++ s

/-- The row of an outcome. -/
def row (r : Results) (outcome : String × Binary64) : String :=
  "|" ++ outcome.1 ++ "⟩ " ++ padLeft 8 (outcome.2.fixed 4) ++ " " ++
    padLeft 6 (toString (countOf r outcome.1).toNat) ++ "  " ++
    String.ofList (List.replicate (barWidth outcome.2) '█')

/-- The rows of the first `limit` outcomes. -/
def rows (r : Results) (limit : Nat) : List String := ((ranked r).take limit).map (row r)

end OpticalBench.Distribution
