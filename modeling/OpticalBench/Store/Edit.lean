import OpticalBench.Circuit.Basic

/-!
# Edits and events

An `Edit` is one thing that can be done to the circuit of a store. `Edit.run` does it, and
`Edit.event?` is the event that announces it: none when nothing changes.
-/

namespace OpticalBench

/-- A change of a circuit. -/
inductive Event
  /-- An operation was placed. -/
  | added (id : Uuid) (element : Element) (mode : Mode)
  /-- The operations with an identifier were removed. -/
  | removed (id : Uuid)
  /-- The parameters, the mode or the position of an operation changed. -/
  | updated (id : Uuid)
  /-- The number of modes changed. -/
  | modeCountChanged (count : ModeCount)
  /-- All operations were removed. -/
  | cleared
  /-- Source was generated. -/
  | sourceGenerated (framework : Framework)
  deriving DecidableEq, Repr

/-- Something to be done to a circuit. -/
inductive Edit
  | add (id : Uuid) (element : Element) (mode : Mode) (parameters : Option Parameters)
  | addAt (id : Uuid) (element : Element) (mode : Mode) (position : Binary64)
      (parameters : Option Parameters)
  | remove (id : Uuid)
  | updateParameters (id : Uuid) (parameters : Parameters)
  | move (id : Uuid) (mode : Mode) (position : Binary64)
  | setModeCount (count : Nat)
  | addMode
  | removeMode
  | clear
  | remember (framework : Framework) (source : String)
  deriving DecidableEq

namespace Edit

/-- The circuit after an edit. -/
def run (e : Edit) (c : Circuit) : Circuit :=
  match e with
  | add id element mode parameters => c.add id element mode parameters
  | addAt id element mode position parameters => c.addAt id element mode position parameters
  | remove id => c.remove id
  | updateParameters id parameters => c.updateParameters id parameters
  | move id mode position => c.move id mode position
  | setModeCount count => c.setModeCount count
  | addMode => c.addMode
  | removeMode => c.removeMode
  | clear => c.clear
  | remember _ source => c.remember source

/-- The event of a new number of modes, if it is new. -/
def modeCountEvent? (before after : Circuit) : Option Event :=
  if before.modeCount = after.modeCount then none else some (.modeCountChanged after.modeCount)

/-- The event that announces an edit of a circuit. Remembering a source is always announced. -/
def event? (e : Edit) (c : Circuit) : Option Event :=
  match e with
  | add id element mode _ | addAt id element mode _ _ => some (.added id element mode)
  | remove id => if c.holds id then some (.removed id) else none
  | updateParameters id _ | move id _ _ => if c.holds id then some (.updated id) else none
  | setModeCount count => modeCountEvent? c (c.setModeCount count)
  | addMode => modeCountEvent? c c.addMode
  | removeMode => modeCountEvent? c c.removeMode
  | clear => if c.operations.isEmpty && c.source.isEmpty then none else some .cleared
  | remember framework _ => some (.sourceGenerated framework)

end Edit

end OpticalBench
