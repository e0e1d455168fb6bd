/-
  Spans of time, to the nanosecond. A duration holds its whole seconds and the nanoseconds beyond
  them; the seconds fit 64 bits.
-/

namespace Sluice

/-- Nanoseconds in a second. -/
abbrev nanosPerSecond : Nat := 1000000000

/-- A span of time. -/
structure Duration where
  seconds : Nat
  nanos : Nat
  seconds_lt : seconds < UInt64.size := by decide
  nanos_lt : nanos < nanosPerSecond := by decide
  deriving DecidableEq, Repr

namespace Duration

/-- The length in nanoseconds. -/
def toNanos (d : Duration) : Nat :=
  d.seconds * nanosPerSecond + d.nanos

/-- The span of so many nanoseconds, if its seconds fit. -/
def ofNanos? (n : Nat) : Option Duration :=
  if h : n / nanosPerSecond < UInt64.size then
    some ⟨n / nanosPerSecond, n % nanosPerSecond, h, Nat.mod_lt _ (by decide)⟩
  else none

/-- The span of so many seconds, which wrap at 64 bits. -/
def ofSeconds (n : Nat) : Duration :=
  ⟨n % UInt64.size, 0, Nat.mod_lt _ (by decide), by decide⟩

/-- The span of so many milliseconds, whose seconds wrap at 64 bits. -/
def ofMillis (n : Nat) : Duration :=
  ⟨n / 1000 % UInt64.size, n % 1000 * 1000000, Nat.mod_lt _ (by decide), by
    have : n % 1000 < 1000 := Nat.mod_lt _ (by decide)
    simp only [nanosPerSecond]; omega⟩

def zero : Duration :=
  ⟨0, 0, by decide, by decide⟩

/-- No time at all. -/
def isZero (d : Duration) : Bool :=
  d.seconds == 0 && d.nanos == 0

end Duration

end Sluice
