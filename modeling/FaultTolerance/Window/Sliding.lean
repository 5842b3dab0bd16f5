import FaultTolerance.Window.Counted
import FaultTolerance.Window.Timed

/-!
# Sliding windows of either shape

A sliding window is counted or timed.  Every operation is handed the clock reading; a counted
window ignores it.
-/

namespace FaultTolerance
namespace Window

open Time

/-- The shape of a window. -/
inductive Shape where
  | countBased
  | timeBased
deriving DecidableEq, Repr

namespace Shape

/-- The shape's name in settings. -/
def label : Shape → String
  | .countBased => "COUNT_BASED"
  | .timeBased => "TIME_BASED"

/-- The shape's name in inspection texts. -/
def inspect : Shape → String
  | .countBased => "CountBased"
  | .timeBased => "TimeBased"

/-- Every shape. -/
def all : List Shape :=
  [.countBased, .timeBased]

end Shape

/-- A window of either shape. -/
inductive Sliding where
  | counted (window : Counted)
  | timed (window : Timed)

namespace Sliding

/-- An empty window of a shape; `size` counts calls or seconds. -/
def ofShape
    (shape : Shape)
    (size minimum now : Nat) : Sliding :=
  match shape with
  | .countBased => .counted (Counted.ofSize size minimum)
  | .timeBased => .timed (Timed.ofSize size minimum (secondsOf now))

/-- The window as it stands at a clock reading. -/
def catchUp
    (now : Nat) : Sliding → Sliding
  | .counted w => .counted w
  | .timed w => .timed (w.moveTo (secondsOf now))

/-- The aggregate of the calls in the window. -/
def snapshot : Sliding → Snapshot
  | .counted w => w.snapshot
  | .timed w => w.snapshot

/-- Record a call. -/
def record
    (now : Nat)
    (duration : Span)
    (outcome : Outcome) : Sliding → Sliding
  | .counted w => .counted (w.record duration outcome)
  | .timed w => .timed (w.record (secondsOf now) duration outcome)

/-- Forget every call. -/
def reset
    (now : Nat) : Sliding → Sliding
  | .counted w => .counted w.reset
  | .timed w => .timed (w.reset (secondsOf now))

/-- The window as text. -/
def inspect : Sliding → String
  | .counted w => w.inspect
  | .timed w => w.inspect

end Sliding

end Window
end FaultTolerance
