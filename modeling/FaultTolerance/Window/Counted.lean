import FaultTolerance.Window.Snapshot

/-!
# Windows over the last calls

A counted window keeps the last calls in a ring of slots, with a running tally: a call recorded
into a full ring takes the place of the oldest one, which leaves the tally.
-/

namespace FaultTolerance
namespace Window

open Time Text

/-- A ring of the last calls. -/
structure Counted where
  slots : Array (Option Tally)
  head : Nat
  totals : Tally
  minimum : Nat

namespace Counted

/-- An empty window over the last `size` calls, at least one.  The minimum number of calls is
capped at the size, since a full window could otherwise never be judged. -/
def ofSize (size minimum : Nat) : Counted :=
  { slots := Array.replicate (max size 1) none
    head := 0
    totals := Tally.empty
    minimum := min minimum (max size 1) }

/-- The number of calls the window holds when full. -/
def capacity (w : Counted) : Nat :=
  w.slots.size

/-- The aggregate of the calls in the window. -/
def snapshot (w : Counted) : Snapshot :=
  w.totals.snapshot w.minimum

/-- Record a call; the call in the slot it takes leaves the window. -/
def record
    (w : Counted)
    (duration : Span)
    (outcome : Outcome) : Counted :=
  let kept :=
    match w.slots[w.head]? with
    | some (some evicted) => w.totals.remove evicted
    | _ => w.totals
  let next := (w.head + 1) % w.slots.size
  { slots := w.slots.setIfInBounds w.head (some (Tally.single duration outcome))
    head := next
    totals := kept.add duration outcome
    minimum := w.minimum }

/-- Forget every call. -/
def reset (w : Counted) : Counted :=
  { slots := Array.replicate w.slots.size none
    head := 0
    totals := Tally.empty
    minimum := w.minimum }

/-- The window as text. -/
def inspect (w : Counted) : String :=
  let slots := w.slots.toList.map fun slot => Layout.optional (slot.map Tally.inspect)
  let ring := Layout.record "Ring"
    [("slots", Layout.listed slots), ("head", toString w.head), ("totals", w.totals.inspect)]
  Layout.record "CountWindow"
    [("ring", Layout.record "Mutex" [("data", ring)]),
      ("minimum_number_of_calls", toString w.minimum)]

end Counted

end Window
end FaultTolerance
