import OpticalBench.Binary64.Layout

/-!
# Durations

A duration is a number of whole seconds and the nanoseconds beyond them.

- `ofSeconds`: so many whole seconds.
- `seconds`: as a number of seconds, for sentences.
- `debugText`: in the largest unit that it reaches, without needless zeros.
-/

namespace OpticalBench

/-- A span of time. -/
structure Duration where
  /-- The whole seconds. -/
  whole : UInt64
  /-- The nanoseconds beyond the whole seconds. -/
  subsecond : Nat
  subsecond_lt : subsecond < 1000000000
  deriving DecidableEq, Repr

namespace Duration

/-- So many seconds. -/
def ofSeconds (n : Nat) : Duration := ⟨.ofNat n, 0, by decide⟩

instance : Inhabited Duration := ⟨ofSeconds 0⟩

/-- The whole seconds. -/
def wholeSeconds (d : Duration) : Nat := d.whole.toNat

/-- The duration in seconds: the whole seconds and the rest are rounded apart, then added. -/
def seconds (d : Duration) : Binary64 :=
  (Binary64.ofNat d.wholeSeconds).add ((Binary64.ofNat d.subsecond).div (.ofNat 1000000000))

/-- The duration in seconds, for sentences. -/
def text (d : Duration) : String := d.seconds.text .plain

/-- The digits after the point, `width` of them without the zeros at the end. -/
def fractionDigits (width rest : Nat) : List Char :=
  let padded := (Numeral.digits (Nat.pow 10 width + rest)).drop 1
  (padded.reverse.dropWhile (· == '0')).reverse

/-- So many units, and the rest as digits after the point. -/
def decimalText (unit : String) (width whole rest : Nat) : String :=
  toString whole ++ (if rest = 0 then "" else "." ++ String.ofList (fractionDigits width rest)) ++
    unit

/-- The duration for debug views. -/
def debugText (d : Duration) : String :=
  if d.wholeSeconds ≠ 0 then decimalText "s" 9 d.wholeSeconds d.subsecond
  else if 1000000 ≤ d.subsecond then
    decimalText "ms" 6 (d.subsecond / 1000000) (d.subsecond % 1000000)
  else if 1000 ≤ d.subsecond then decimalText "µs" 3 (d.subsecond / 1000) (d.subsecond % 1000)
  else decimalText "ns" 0 d.subsecond 0

end Duration

end OpticalBench
