import OpticalBench.Circuit.Basic
import OpticalBench.Program.Literal

/-!
# The plan of a program

Before any text is written, a circuit is turned into a plan: the list of what its live operations
become, in order. The plan has two passes over the modes. The first handles the elements that act on
one mode, and those that the framework has no statement for. The second handles the supported
elements on two modes. Measurements are in no pass, because every mode is measured at the end.

- `Item`: what one operation becomes.
- `firstPass?`, `secondPass?`: the item of an operation in each pass.
- `plan`: all items in order.
-/

namespace OpticalBench

/-- What an operation becomes in a program. The arguments are literals. -/
inductive Item
  /-- A comment: the framework has no statement for the element. -/
  | unsupported (element : Element) (mode : Nat)
  /-- A statement on one mode. -/
  | single (element : Element) (mode : Nat) (arguments : List String)
  /-- A statement on a mode and the one to its right. -/
  | dual (element : Element) (mode : Nat) (arguments : List String)
  /-- A comment: there is no mode to the right. -/
  | dangling (element : Element) (mode : Nat)
  deriving DecidableEq, Inhabited, Repr

namespace Operation

/-- The declared parameters as literals, in order of declaration. -/
def arguments (op : Operation) : List String :=
  op.element.parameterKeys.map fun key => Literal.number ((op.parameter? key).getD (.zero false))

end Operation

namespace Item

/-- What an operation on a mode becomes in the first pass. -/
def firstPass? (f : Framework) (mode : Nat) (op : Operation) : Option Item :=
  if op.element.supportedBy f then
    if op.element.isMeasurement || op.element.isDual then none
    else some (.single op.element mode op.arguments)
  else some (.unsupported op.element mode)

/-- What an operation on a mode becomes in the second pass, in a circuit of `count` modes. -/
def secondPass? (f : Framework) (count mode : Nat) (op : Operation) : Option Item :=
  if op.element.isDual && op.element.supportedBy f then
    if mode + 1 < count then some (.dual op.element mode op.arguments)
    else some (.dangling op.element mode)
  else none

/-- The items of a circuit. -/
def plan (f : Framework) (c : Circuit) : List Item :=
  c.modeCount.modes.flatMap (fun m => (c.onMode m).filterMap (firstPass? f m)) ++
    c.modeCount.modes.flatMap fun m => (c.onMode m).filterMap (secondPass? f c.modeCount.toNat m)

end Item

end OpticalBench
