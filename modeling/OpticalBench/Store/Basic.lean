import OpticalBench.Store.Edit
import OpticalBench.Store.Feed

/-!
# The circuit store

A store owns the circuit that is being worked on and announces every effective change on its feed.
Applying an edit to the store is running it on the circuit and publishing its event, if it has one.
-/

namespace OpticalBench

/-- The working circuit and the feed of its changes. -/
structure Store where
  circuit : Circuit
  feed : Feed Event
  deriving Inhabited

namespace Store

/-- A store that holds a circuit; nothing has been announced yet. -/
def ofCircuit (c : Circuit) : Store := ⟨c, .fresh⟩

/-- A store that holds a fresh circuit. -/
def fresh : Store := ofCircuit .fresh

/-- Apply an edit. -/
def apply (s : Store) (e : Edit) : Store where
  circuit := e.run s.circuit
  feed := match e.event? s.circuit with
    | some event => s.feed.publish event
    | none => s.feed

/-- Apply edits in order. -/
def applyAll (s : Store) (edits : List Edit) : Store := edits.foldl apply s

/-- Open a circuit, and set its number of modes if one is given. -/
def openCircuit (c : Circuit) (modes : Option Nat) : Store :=
  match modes with
  | none => ofCircuit c
  | some n => (ofCircuit c).apply (.setModeCount n)

@[simp] theorem circuit_apply (s : Store) (e : Edit) : (s.apply e).circuit = e.run s.circuit := rfl

end Store

end OpticalBench
