/-!
Lengths of time as they are given from outside, to the nanosecond, and the clock that everything
inside runs on, which ticks in whole milliseconds.
-/

namespace Metasearch

/-- A point in time: whole milliseconds after the origin of the clock. -/
abbrev Instant := Nat

/-- A length of time on the clock, in whole milliseconds. -/
abbrev Millis := Nat

/-- A length of time in whole seconds and the nanoseconds of the last, incomplete one. -/
structure Duration where
  secs : UInt64
  nanos : Fin 1000000000
deriving DecidableEq, Repr

namespace Duration

/-- The number of nanoseconds in a second. -/
def nanosPerSec : Nat := 1000000000

/-- The number of nanoseconds in a millisecond. -/
def nanosPerMilli : Nat := 1000000

/-- The whole length in nanoseconds. -/
def inNanos (d : Duration) : Nat :=
  d.secs.toNat * nanosPerSec + d.nanos

/-- The duration of a number of nanoseconds, if its seconds fit into 64 bits. -/
def ofNanos? (n : Nat) : Option Duration :=
  if n / nanosPerSec < UInt64.size then
    some ⟨UInt64.ofNat (n / nanosPerSec), ⟨n % nanosPerSec, Nat.mod_lt _ (by decide)⟩⟩
  else none

/-- The duration of a number of milliseconds. -/
def ofMillis (ms : Millis) : Duration :=
  ⟨UInt64.ofNat (ms / 1000), Fin.ofNat 1000000000 (ms % 1000 * nanosPerMilli)⟩

def ofSecs (secs : UInt64) : Duration :=
  ⟨secs, 0⟩

def isZero (d : Duration) : Bool :=
  d.secs == 0 && d.nanos == 0

/-- The whole milliseconds of a duration; a rest is dropped. -/
def wholeMillis (d : Duration) : Nat :=
  d.inNanos / nanosPerMilli

/-- The number of clock ticks after which a duration is over: a rest counts as a whole tick. -/
def ticks (d : Duration) : Millis :=
  (d.inNanos + (nanosPerMilli - 1)) / nanosPerMilli

/-- The shorter of two durations. -/
def min (a b : Duration) : Duration :=
  if a.inNanos ≤ b.inNanos then a else b

/-- The longer of two durations. -/
def max (a b : Duration) : Duration :=
  if a.inNanos ≤ b.inNanos then b else a

/-- A duration in seconds as a double: the whole seconds and the fraction are rounded apart. -/
def inSeconds (d : Duration) : Float :=
  d.secs.toFloat + d.nanos.val.toUInt64.toFloat / 1000000000.0

end Duration

end Metasearch
