import OpticalBench.Circuit.Operation
import OpticalBench.StableSort

/-!
# Circuits

A circuit is a number of modes and a list of operations, in the order in which they were placed.
Editing never fails. An operation whose mode is out of range is kept but dormant, until the number of
modes grows again. A circuit remembers the source that was last generated from it; every edit that
changes something forgets it.

- `add`, `addAt`, `remove`, `updateParameters`, `move`, `setModeCount`, `clear`: the edits.
- `byMode`: for each mode its operations in the order of their positions, equal positions in the
  order in which they were placed.
- `dormant`: the operations on no mode of the circuit.
-/

namespace OpticalBench

/-- A photonic circuit. -/
structure Circuit where
  modeCount : ModeCount
  operations : List Operation
  /-- The remembered source; empty when there is none. -/
  source : String
  deriving DecidableEq, Inhabited

namespace Circuit

/-- An empty circuit with the number of modes closest to `n`. -/
def withModes (n : Nat) : Circuit := ⟨.clamp n, [], ""⟩

/-- A fresh circuit. -/
def fresh : Circuit := ⟨.default, [], ""⟩

/-! ## Queries -/

/-- Whether an operation has this identifier. -/
def holds (c : Circuit) (id : Uuid) : Bool := c.operations.any fun op => op.id == id

/-- The first operation with an identifier. -/
def operation? (c : Circuit) (id : Uuid) : Option Operation :=
  c.operations.find? fun op => op.id == id

/-- Whether a mode is in range. -/
def containsMode (c : Circuit) (m : Mode) : Bool := decide (m.index < c.modeCount.toNat)

/-- The operations whose mode is out of range. -/
def dormant (c : Circuit) : List Operation := c.operations.filter fun op => !c.containsMode op.mode

/-- The operations on one mode, in the order of their positions. -/
def onMode (c : Circuit) (m : Nat) : List Operation :=
  stableSort Operation.positionLe (c.operations.filter fun op => op.mode.index == m)

/-- The operations of each mode, from left to right. -/
def byMode (c : Circuit) : List (List Operation) := c.modeCount.modes.map c.onMode

/-- The largest finite position, if there is one. -/
def lastPosition? (c : Circuit) : Option Binary64 :=
  ((c.operations.map (·.position)).filter Binary64.isFinite).foldl
    (fun best p => some (match best with
      | none => p
      | some b => b.numericMax p)) none

/-- Where the next operation is placed: one after the last, or at zero. -/
def nextPosition (c : Circuit) : Binary64 :=
  match c.lastPosition? with
  | none => .zero false
  | some p => p.add .one

/-- Equality of circuits, with numbers compared as values. -/
def agrees (c d : Circuit) : Bool :=
  c.modeCount == d.modeCount && c.operations.length == d.operations.length &&
    (c.operations.zip d.operations).all (fun (a, b) => a.agrees b) && c.source == d.source

/-! ## Edits -/

/-- Place an operation at a position. Without parameters it gets the defaults. -/
def addAt (c : Circuit) (id : Uuid) (element : Element) (mode : Mode) (position : Binary64)
    (parameters : Option Parameters) : Circuit :=
  { c with
    operations := c.operations ++ [⟨id, element, mode, position, parameters.getD element.defaults⟩]
    source := "" }

/-- Place an operation after all others. -/
def add (c : Circuit) (id : Uuid) (element : Element) (mode : Mode)
    (parameters : Option Parameters) : Circuit :=
  c.addAt id element mode c.nextPosition parameters

/-- Remove every operation with an identifier. -/
def remove (c : Circuit) (id : Uuid) : Circuit :=
  if c.holds id then
    { c with operations := c.operations.filter fun op => op.id != id, source := "" }
  else c

/-- Change the first element that satisfies a condition. -/
def changeFirst {α : Type} (p : α → Bool) (f : α → α) : List α → List α
  | [] => []
  | x :: xs => if p x then f x :: xs else x :: changeFirst p f xs

/-- Change the first operation with an identifier. -/
def change (c : Circuit) (id : Uuid) (f : Operation → Operation) : Circuit :=
  if c.holds id then
    { c with operations := changeFirst (fun op => op.id == id) f c.operations, source := "" }
  else c

/-- Replace the parameters of an operation. -/
def updateParameters (c : Circuit) (id : Uuid) (parameters : Parameters) : Circuit :=
  c.change id fun op => { op with parameters }

/-- Move an operation to a mode and a position. -/
def move (c : Circuit) (id : Uuid) (mode : Mode) (position : Binary64) : Circuit :=
  c.change id fun op => { op with mode, position }

/-- Set the number of modes to the closest one allowed. Operations stay as they are. -/
def setModeCount (c : Circuit) (n : Nat) : Circuit :=
  if c.modeCount = .clamp n then c else { c with modeCount := .clamp n, source := "" }

/-- One mode more, if there can be. -/
def addMode (c : Circuit) : Circuit := c.setModeCount (c.modeCount.toNat + 1)

/-- One mode less, if there can be. -/
def removeMode (c : Circuit) : Circuit := c.setModeCount (c.modeCount.toNat - 1)

/-- Remove every operation. -/
def clear (c : Circuit) : Circuit := { c with operations := [], source := "" }

/-- Remember a source generated from the circuit. -/
def remember (c : Circuit) (source : String) : Circuit := { c with source }

/-! ## Ready-made circuits -/

/-- A laser into a beam splitter. -/
def interferometer (laser splitter : Uuid) : Circuit :=
  ((withModes 2).add laser .laser .first none).add splitter .beamSplitter .first none

/-- A phase shift between two beam splitters, fed by a laser. -/
def machZehnder (laser first shifter second : Uuid) (phase : Binary64) : Circuit :=
  let c := (withModes 2).add laser .laser .first none
  let c := c.add first .beamSplitter .first none
  let c := c.add shifter .phaseShifter .first (some (.ofList [("phi", phase)]))
  c.add second .beamSplitter .first none

end Circuit

end OpticalBench
