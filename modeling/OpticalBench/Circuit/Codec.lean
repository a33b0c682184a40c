import OpticalBench.Circuit.Basic
import OpticalBench.Json.Record

/-!
# Circuits in files

A circuit is written as its number of modes and its operations; the remembered source is not. Reading
takes the number of modes into the range, and both fields have defaults. An operation needs all of
its fields.

- `Circuit.encode`, `Circuit.decode?`: between circuits and JSON.
- `Circuit.render`, `Circuit.read?`: between circuits and text.
-/

namespace OpticalBench

namespace Mode

/-- The mode that a document is. -/
def decode? (d : Json.Document) : Option Mode := (d.natural? Text.max32).bind ofNat?

end Mode

namespace Parameters

/-- Parameters as an object of numbers. -/
def encode (p : Parameters) : Json.Value := .ofTextMap Json.Value.ofBinary64 p

end Parameters

namespace Operation

/-- The fields of an operation in their order. -/
def fieldNames : List String := ["id", "kind", "mode", "position", "parameters"]

/-- An operation as a value. -/
def encode (op : Operation) : Json.Value :=
  .object [("id", .text op.id.text), ("kind", .text op.element.identifier),
    ("mode", .ofNat op.mode.index), ("position", .ofBinary64 op.position),
    ("parameters", Parameters.encode op.parameters)]

/-- The operation that a document is. -/
def decode? (d : Json.Document) : Option Operation := do
  let r ← d.record? fieldNames
  let id ← r.required? "id" fun f => f.text?.bind Uuid.read?
  let element ← r.required? "kind" fun f => f.name?.bind Element.ofIdentifier?
  let mode ← r.required? "mode" Mode.decode?
  let position ← r.required? "position" Json.Document.binary64?
  let parameters ← r.required? "parameters" (Json.Document.textMap? Json.Document.binary64?)
  some ⟨id, element, mode, position, parameters⟩

end Operation

namespace Circuit

/-- The fields of a circuit in their order. -/
def fieldNames : List String := ["mode_count", "operations"]

/-- A circuit as a value. -/
def encode (c : Circuit) : Json.Value :=
  .object [("mode_count", .ofNat c.modeCount.toNat),
    ("operations", .array (c.operations.map Operation.encode))]

/-- The circuit that a document is. -/
def decode? (d : Json.Document) : Option Circuit := do
  let r ← d.record? fieldNames
  let modes ← r.orElse? "mode_count" (Json.Document.natural? Text.max32) ModeCount.default.toNat
  let operations ← r.orElse? "operations" (Json.Document.items? Operation.decode?) []
  some ⟨.clamp modes, operations, ""⟩

/-- The text of a circuit. -/
def render (c : Circuit) : String := c.encode.render

/-- The circuit that a text is. -/
def read? (s : String) : Option Circuit := (Json.Document.read? s).bind decode?

end Circuit

end OpticalBench
