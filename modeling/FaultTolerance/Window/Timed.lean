import FaultTolerance.Time.Clock
import FaultTolerance.Window.Snapshot

/-!
# Windows over the last seconds

A timed window keeps one bucket for each of the last seconds in a ring, with a running tally.  The
bucket at the head stands for the latest second the window has seen; when time moves on, the
buckets that fell out leave the tally and stand for the new seconds.  A clock that steps back
leaves the head where it is.
-/

namespace FaultTolerance
namespace Window

open Time Text

/-- The calls of one second. -/
structure Bucket where
  second : Nat
  tally : Tally
deriving DecidableEq, Repr

namespace Bucket

/-- A second without calls. -/
def empty (second : Nat) : Bucket :=
  ⟨second, Tally.empty⟩

end Bucket

/-- A ring of the last seconds. -/
structure Timed where
  ring : Array Bucket
  head : Nat
  totals : Tally
  minimum : Nat

namespace Timed

/-- An empty window over the last `size` seconds, at least one, that starts at a second. -/
def ofSize (size minimum second : Nat) : Timed :=
  { ring := Array.replicate (max size 1) (Bucket.empty second)
    head := 0
    totals := Tally.empty
    minimum := minimum }

/-- The bucket at the head. -/
def headBucket (w : Timed) : Bucket :=
  w.ring.getD w.head (Bucket.empty 0)

/-- Move the head one place on, to a bucket that stands for `second`; what it held leaves the
window. -/
def retireNext
    (w : Timed)
    (second : Nat) : Timed :=
  let next := (w.head + 1) % w.ring.size
  let leaving := (w.ring.getD next (Bucket.empty 0)).tally
  { ring := w.ring.setIfInBounds next (Bucket.empty second)
    head := next
    totals := w.totals.remove leaving
    minimum := w.minimum }

/-- Move the head on by `steps` places, the last of which stands for `second`. -/
def retire
    (second : Nat) : (steps : Nat) → Timed → Timed
  | 0, w => w
  | steps + 1, w => retire second steps (w.retireNext (second - steps))

@[simp]
theorem retire_zero
    (second : Nat)
    (w : Timed) : retire second 0 w = w :=
  rfl

/-- Bring the window to a second; a second not after the head's changes nothing. -/
def moveTo
    (w : Timed)
    (second : Nat) : Timed :=
  let latest := w.headBucket.second
  if second ≤ latest then w
  else retire second (min (second - latest) w.ring.size) w

/-- The aggregate of the calls in the window. -/
def snapshot (w : Timed) : Snapshot :=
  w.totals.snapshot w.minimum

/-- Record a call in the bucket at the head. -/
def recordHere
    (w : Timed)
    (duration : Span)
    (outcome : Outcome) : Timed :=
  let bucket := w.headBucket
  { ring := w.ring.setIfInBounds w.head ⟨bucket.second, bucket.tally.add duration outcome⟩
    head := w.head
    totals := w.totals.add duration outcome
    minimum := w.minimum }

/-- Record a call at a second. -/
def record
    (w : Timed)
    (second : Nat)
    (duration : Span)
    (outcome : Outcome) : Timed :=
  (w.moveTo second).recordHere duration outcome

/-- Forget every call and start again at a second. -/
def reset
    (w : Timed)
    (second : Nat) : Timed :=
  { ring := Array.replicate w.ring.size (Bucket.empty second)
    head := 0
    totals := Tally.empty
    minimum := w.minimum }

/-- The window as text. -/
def inspect (w : Timed) : String :=
  Layout.record "TimeWindow"
    [("size_in_seconds", toString w.ring.size), ("totals", w.totals.inspect),
      ("minimum_number_of_calls", toString w.minimum)]

end Timed

end Window
end FaultTolerance
