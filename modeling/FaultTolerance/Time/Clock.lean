import FaultTolerance.Text.Layout
import FaultTolerance.Time.Span

/-!
# Clocks

A clock is read as a 64-bit count of nanoseconds since its origin.  A hand-driven clock moves only
when told to, and wraps around at the end of its counter.

## Main definitions

* `HandClock`: a clock that is set and advanced by hand.
* `Timer`: a scheduler's timeline, which wakes sleepers at whole milliseconds.
-/

namespace FaultTolerance
namespace Time

/-- Whole seconds of a clock reading. -/
def secondsOf (nanos : Nat) : Nat :=
  nanos / nanosPerSecond

/-- A clock driven by hand. -/
structure HandClock where
  nanos : Nat
deriving DecidableEq

namespace HandClock

/-- Put the clock at a span after its origin. -/
def set
    (_ : HandClock)
    (span : Span) : HandClock :=
  ⟨span.ticks⟩

/-- Move the clock on; the counter wraps around. -/
def advance
    (c : HandClock)
    (d : Span) : HandClock :=
  ⟨(c.nanos + d.ticks) % (maxTicks + 1)⟩

/-- The clock as text. -/
def inspect (c : HandClock) : String :=
  Text.Layout.record "ManualClock" [("nanos", toString c.nanos)]

end HandClock

/-- A scheduler's timeline: nanoseconds since it started. -/
structure Timer where
  nanos : Nat
deriving DecidableEq

namespace Timer

/-- The last whole millisecond reached. -/
def milli (t : Timer) : Nat :=
  t.nanos / nanosPerMilli

/-- The millisecond of a deadline this span from now: the first one not before its instant. -/
def deadlineMilli
    (t : Timer)
    (d : Span) : Nat :=
  (t.nanos + d.nanos + (nanosPerMilli - 1)) / nanosPerMilli

/-- The longest sleep, thirty years of 365 days; a longer one ends with it. -/
def longest : Span :=
  Span.ofSeconds (30 * 365 * 86400)

/-- The millisecond at which a sleeper of this span wakes. -/
def wakeMilli
    (t : Timer)
    (d : Span) : Nat :=
  t.deadlineMilli (d.least longest)

/-- The millisecond at which a stretch of work is over; an empty one is over at once. -/
def doneMilli
    (t : Timer)
    (d : Span) : Nat :=
  if d.nanos = 0 then t.milli else t.wakeMilli d

/-- The timeline when the sleeper of a millisecond wakes: it moves on by whole milliseconds, and
not at all when that millisecond has been reached. -/
def arrive
    (t : Timer)
    (milli : Nat) : Timer :=
  ⟨t.nanos + (milli - t.milli) * nanosPerMilli⟩

/-- Let a span pass. -/
def advance
    (t : Timer)
    (d : Span) : Timer :=
  ⟨t.nanos + d.nanos⟩

end Timer

end Time
end FaultTolerance
