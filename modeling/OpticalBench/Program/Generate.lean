import OpticalBench.Program.Item
import OpticalBench.Program.Perceval

/-!
# Generating programs

`generate` turns a circuit into the source of a program for a framework. It never fails: an operation
that the framework cannot express stays in the program as a comment.

- `Item.lines`: the lines of one item.
- `body`: the items and the measurements, at the depth where the framework wants them.
- `lines`, `generate`: the whole program, as lines and as text.
-/

namespace OpticalBench

namespace Program

/-- How many shots counts are scaled to if nothing else is said. -/
def defaultShots : Nat := 1000

/-- The levels that operations are nested in a program. -/
def bodyDepth : Framework → Nat
  | .strawberryFields => 1
  | .perceval => 0

/-- What stands before the operations. Only Strawberry Fields looks at whether a Kerr gate takes
part. -/
def preamble (f : Framework) (count : Nat) (kerr : Bool) : List Line :=
  match f with
  | .strawberryFields => StrawberryFields.preamble count kerr
  | .perceval => Perceval.preamble count

/-- What stands after the operations. -/
def epilogue (f : Framework) (count shots : Nat) : List Line :=
  match f with
  | .strawberryFields => StrawberryFields.epilogue count shots
  | .perceval => Perceval.epilogue count shots

/-- The measurement of a mode. -/
def measurement (f : Framework) (mode : Nat) : Line :=
  .statement <| match f with
    | .strawberryFields => StrawberryFields.measurement mode
    | .perceval => Perceval.measurement mode

/-- The comment for an element without a statement of its own. -/
def unsupported (f : Framework) (e : Element) (mode : Nat) : Line :=
  .comment (e.label ++ " on mode " ++ toString mode ++ ": unsupported in " ++ f.displayName ++
    " (no native statement)")

/-- The comment for an element on two modes that stands on the last one. -/
def dangling (e : Element) (mode : Nat) : Line :=
  .comment (e.label ++ " at mode " ++ toString mode ++ " has no adjacent mode to connect to")

/-- The gate of an element on one mode. -/
def singleGate? (f : Framework) (e : Element) (arguments : List String) : Option Gate :=
  match f with
  | .strawberryFields => StrawberryFields.singleGate? e arguments
  | .perceval => Perceval.singleGate? e arguments

/-- The gate of an element on two modes. -/
def dualGate? (f : Framework) (e : Element) (arguments : List String) (mode next : Nat) :
    Option Gate :=
  match f with
  | .strawberryFields => StrawberryFields.dualGate? e arguments mode next
  | .perceval => Perceval.dualGate? e arguments mode next

/-- A gate on one mode. -/
def singleStatement (f : Framework) (g : Gate) (mode : Nat) : String :=
  match f with
  | .strawberryFields => StrawberryFields.singleStatement g mode
  | .perceval => Perceval.singleStatement g mode

/-- A gate on two modes. -/
def dualStatement (f : Framework) (g : Gate) (mode next : Nat) : String :=
  match f with
  | .strawberryFields => StrawberryFields.dualStatement g mode next
  | .perceval => Perceval.dualStatement g mode next

/-- The lines of an element on one mode. An element that has no such gate is a comment. -/
def single (f : Framework) (e : Element) (arguments : List String) (mode : Nat) : List Line :=
  match singleGate? f e arguments with
  | some g => [.comment g.remark, .statement (singleStatement f g mode)]
  | none => [unsupported f e mode]

/-- The lines of an element on two modes. An element that has no such gate is a comment. -/
def dual (f : Framework) (e : Element) (arguments : List String) (mode next : Nat) : List Line :=
  match dualGate? f e arguments mode next with
  | some g => [.comment g.remark, .statement (dualStatement f g mode next)]
  | none => [unsupported f e mode]

end Program

/-- The lines of an item. -/
def Item.lines (f : Framework) : Item → List Line
  | .unsupported e mode => [Program.unsupported f e mode]
  | .single e mode arguments => Program.single f e arguments mode
  | .dual e mode arguments => Program.dual f e arguments mode (mode + 1)
  | .dangling e mode => [Program.dangling e mode]

namespace Program

/-- The measurements of all modes, under their heading. -/
def measurements (f : Framework) (count : ModeCount) : List Line :=
  .comment "Measurements" :: count.modes.map (measurement f)

/-- The items and the measurements. -/
def body (f : Framework) (count : ModeCount) (items : List Item) : List Line :=
  (items.flatMap (Item.lines f) ++ measurements f count).map (Line.indentBy (bodyDepth f))

/-- A program with given items. -/
def ofItems (f : Framework) (count : ModeCount) (kerr : Bool) (items : List Item) (shots : Nat) :
    List Line :=
  preamble f count.toNat kerr ++ body f count items ++ epilogue f count.toNat shots

/-- Whether a Kerr gate is on a mode of the circuit. -/
def hasKerr (c : Circuit) : Bool := c.byMode.flatten.any fun op => op.element == .kerrGate

/-- The lines of the program of a circuit. -/
def lines (c : Circuit) (f : Framework) (shots : Nat) : List Line :=
  ofItems f c.modeCount (hasKerr c) (Item.plan f c) shots

/-- The source of the program of a circuit. -/
def generate (c : Circuit) (f : Framework) (shots : Nat) : String := Line.render (lines c f shots)

end Program

end OpticalBench
