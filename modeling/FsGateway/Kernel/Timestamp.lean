/-!
# Timestamps

A timestamp is an exact signed number of nanoseconds since the epoch. On the wire it is a word of
64 bits, which holds about 292 years to either side.

* `ofNs`, `toNs`: the timestamp of a word, and the word nearest to a timestamp.
-/

namespace FsGateway.Kernel

/-- A point in time. -/
structure Timestamp where
  sinceEpoch : Int
  deriving DecidableEq, Repr

namespace Timestamp

/-- Nanoseconds in a second. -/
def nanosPerSecond : Nat := 1000000000

/-- The timestamp of a word. -/
def ofNs (ns : Int64) : Timestamp := ⟨ns.toInt⟩

/-- The word nearest to a timestamp: what lies beyond either end becomes that end. -/
def toNs (t : Timestamp) : Int64 :=
  if t.sinceEpoch < Int64.minValue.toInt then Int64.minValue
  else if Int64.maxValue.toInt < t.sinceEpoch then Int64.maxValue
  else Int64.ofInt t.sinceEpoch

/-- The timestamp at a distance from the epoch, to one of its sides. -/
def ofDistance (before : Bool) (seconds nanos : Nat) : Timestamp :=
  let d : Int := seconds * nanosPerSecond + nanos
  ⟨if before then -d else d⟩

/-- Whether a timestamp lies before the epoch. -/
def isBefore (t : Timestamp) : Bool := t.sinceEpoch < 0

/-- The whole seconds between a timestamp and the epoch. -/
def seconds (t : Timestamp) : Nat := t.sinceEpoch.natAbs / nanosPerSecond

/-- The nanoseconds beyond the whole seconds between a timestamp and the epoch. -/
def nanos (t : Timestamp) : Nat := t.sinceEpoch.natAbs % nanosPerSecond

end Timestamp

end FsGateway.Kernel
