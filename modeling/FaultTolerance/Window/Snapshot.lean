import FaultTolerance.Numeric.Decimal
import FaultTolerance.Text.Layout
import FaultTolerance.Window.Outcome

/-!
# Tallies and snapshots

A tally counts the calls of a window, or of one of its parts, and adds up their durations.  A
snapshot is a tally as a reader sees it: with the minimum number of calls below which its rates
mean nothing, and with the total duration saturated.

Counts are added up here as they ought to be, beyond what a counter of 32 bits holds; a tally that
the counters hold `Fits`.  What is said of a window that may hold calls without bound therefore comes
with the condition that they are counted within the counters (`AddsWithin`).

## Main definitions

* `Tally`, `Tally.add`, `Tally.remove`: running counts.
* `Snapshot`: the reader's view.
* `Snapshot.failureRate`, `Snapshot.slowRate`: percentages in single precision, `-1` below the
  minimum.
-/

namespace FaultTolerance
namespace Window

open Time Numeric Text

/-- Counts of calls and the sum of their durations in nanoseconds.  The counters have 32 bits and the
sum has 128; these are the counts that they ought to show. -/
structure Tally where
  calls : Nat
  failed : Nat
  slow : Nat
  slowFailed : Nat
  nanos : Nat
deriving DecidableEq, Repr

namespace Tally

/-- No calls. -/
def empty : Tally :=
  ⟨0, 0, 0, 0, 0⟩

/-- One more call, as long as the counters hold it. -/
def add
    (t : Tally)
    (duration : Span)
    (outcome : Outcome) : Tally :=
  { calls := t.calls + 1
    failed := t.failed + outcome.isFailure.toNat
    slow := t.slow + outcome.isSlow.toNat
    slowFailed := t.slowFailed + (outcome.isFailure && outcome.isSlow).toNat
    nanos := t.nanos + duration.nanos }

/-- The tally without a part that leaves it. -/
def remove (t part : Tally) : Tally :=
  { calls := t.calls - part.calls
    failed := t.failed - part.failed
    slow := t.slow - part.slow
    slowFailed := t.slowFailed - part.slowFailed
    nanos := t.nanos - part.nanos }

/-- The tally of a single call. -/
def single
    (duration : Span)
    (outcome : Outcome) : Tally :=
  empty.add duration outcome

/-- The tally as text. -/
def inspect (t : Tally) : String :=
  Layout.record "Totals"
    [("calls", toString t.calls), ("failed", toString t.failed), ("slow", toString t.slow),
      ("slow_failed", toString t.slowFailed), ("duration_nanos", toString t.nanos)]

end Tally

/-- A window's counts at one moment. -/
structure Snapshot where
  total : Nat
  failed : Nat
  slow : Nat
  slowFailed : Nat
  duration : Span
  minimum : Nat
deriving DecidableEq

/-- The snapshot of a tally; the total duration saturates at `2 ^ 64 - 1` nanoseconds. -/
def Tally.snapshot
    (t : Tally)
    (minimum : Nat) : Snapshot :=
  { total := t.calls
    failed := t.failed
    slow := t.slow
    slowFailed := t.slowFailed
    duration := Span.clip (min t.nanos maxTicks)
    minimum := minimum }

namespace Snapshot

/-- Calls that did not fail. -/
def successful (s : Snapshot) : Nat :=
  s.total - s.failed

/-- Slow calls that did not fail. -/
def slowSuccessful (s : Snapshot) : Nat :=
  s.slow - s.slowFailed

/-- The mean duration, zero for an empty window. -/
def average (s : Snapshot) : Span :=
  if s.total = 0 then Span.zero else s.duration.share s.total

/-- Whether enough calls are counted for the rates to mean anything. -/
def hasMinimum (s : Snapshot) : Bool :=
  decide (0 < s.total) && decide (s.minimum ≤ s.total)

/-- A share of the calls as a percentage; every step rounds to single precision. -/
def percentage (count total : Nat) : Binary32 :=
  ((Binary.ofNat count).mul (Binary.ofNat 100)).div (Binary.ofNat total)

/-- The percentage of a count, or `-1` below the minimum number of calls. -/
def rateOf
    (s : Snapshot)
    (count : Nat) : Binary32 :=
  if s.hasMinimum then percentage count s.total else Binary.ofInt (-1)

/-- The percentage of failed calls. -/
def failureRate (s : Snapshot) : Binary32 :=
  s.rateOf s.failed

/-- The percentage of slow calls. -/
def slowRate (s : Snapshot) : Binary32 :=
  s.rateOf s.slow

end Snapshot

end Window
end FaultTolerance
