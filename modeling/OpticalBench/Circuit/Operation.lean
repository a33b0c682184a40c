import OpticalBench.Catalog.Element
import OpticalBench.Mode
import OpticalBench.Text.Uuid

/-!
# Operations

An operation is an element placed on a mode. Its position orders it among the operations on the same
mode and means nothing across modes. It may hold values for any parameter names; only those that its
element declares have an effect.

- `parameter?`: the value of one declared parameter, stored or default.
- `resolved`: all declared parameters with their values.
- `undeclared`: the stored names that have no effect.
-/

namespace OpticalBench

/-- An element placed on a mode. -/
structure Operation where
  id : Uuid
  element : Element
  mode : Mode
  position : Binary64
  parameters : Parameters
  deriving DecidableEq, Inhabited

namespace Operation

/-- The value of a declared parameter: the stored one, else the default. -/
def parameter? (op : Operation) (key : String) : Option Binary64 :=
  (op.element.default? key).map fun d => (op.parameters.get? key).getD d

/-- The declared parameters with their values. -/
def resolved (op : Operation) : Parameters :=
  .ofList (op.element.declared.map fun e => (e.1, (op.parameters.get? e.1).getD e.2))

/-- The stored names that the element does not declare, in ascending order. -/
def undeclared (op : Operation) : List String :=
  op.parameters.keys.filter fun key => (op.element.default? key).isNone

/-- At or before another operation, by position. -/
def positionLe (a b : Operation) : Bool := a.position.totalLe b.position

/-- Equality of operations, with numbers compared as values. -/
def agrees (a b : Operation) : Bool :=
  a.id == b.id && a.element == b.element && a.mode == b.mode &&
    a.position.numericEq b.position && a.parameters.allRelated Binary64.numericEq b.parameters

end Operation

end OpticalBench
