/-!
# Modes

A mode is one of the parallel wires of a circuit. A circuit has between one and eight of them, but
an operation may be placed on any mode whose index fits 32 bits.

- `Mode`: the index of a wire; `next` is the wire to the right, the last index being its own next.
- `ModeCount`: how many wires a circuit has; `clamp` takes any number into the range.
-/

namespace OpticalBench

/-- The index of a wire. -/
structure Mode where
  index : Nat
  index_lt : index < 0x100000000
  deriving DecidableEq, Repr

namespace Mode

instance : Inhabited Mode := ⟨0, by decide⟩

/-- The mode with an index. -/
def ofNat? (n : Nat) : Option Mode := if h : n < 0x100000000 then some ⟨n, h⟩ else none

/-- The first mode. -/
def first : Mode := ⟨0, by decide⟩

/-- The mode to the right. -/
def next (m : Mode) : Mode :=
  if h : m.index + 1 < 0x100000000 then ⟨m.index + 1, h⟩ else m

/-- The index in decimal digits. -/
def text (m : Mode) : String := toString m.index

end Mode

/-- How many modes a circuit has. -/
structure ModeCount where
  toNat : Nat
  one_le : 1 ≤ toNat
  le_eight : toNat ≤ 8
  deriving DecidableEq, Repr

namespace ModeCount

/-- The number of modes nearest to `n` that a circuit can have. -/
def clamp (n : Nat) : ModeCount := ⟨max 1 (min n 8), by omega, by omega⟩

/-- A fresh circuit has two modes. -/
def default : ModeCount := ⟨2, by decide, by decide⟩

instance : Inhabited ModeCount := ⟨default⟩

@[simp] theorem toNat_clamp (n : Nat) : (clamp n).toNat = max 1 (min n 8) := rfl

theorem ext {m n : ModeCount} (h : m.toNat = n.toNat) : m = n := by
  cases m; cases n; simp_all

@[simp] theorem clamp_toNat (n : ModeCount) : clamp n.toNat = n := by
  have := n.one_le; have := n.le_eight
  exact ext (by rw [toNat_clamp]; omega)

/-- The modes of a circuit, from left to right. -/
def modes (n : ModeCount) : List Nat := List.range n.toNat

end ModeCount

end OpticalBench
