import FaultTolerance.Rehearsal.Run
import FaultTolerance.Window.Sliding

/-!
# Rehearsing a sliding window
-/

namespace FaultTolerance
namespace Rehearsal
namespace WindowScene

open Time Window

/-- What can be done to a window. -/
inductive Instruction where
  | record (duration : Span) (outcome : Outcome) (times : Nat)
  | snapshot
  | reset
  | capacity
  | inspect

/-- What it answers; a timed window has no capacity. -/
inductive Answer where
  | snapshot (s : Snapshot)
  | done
  | capacity (calls : Option Nat)
  | text (s : String)

/-- The world around a window; a window announces nothing. -/
abbrev Stage := World Sliding Empty Answer

/-- Record a call some number of times. -/
def recordTimes
    (now : Nat)
    (duration : Span)
    (outcome : Outcome) : (times : Nat) → Sliding → Sliding
  | 0, w => w
  | times + 1, w => recordTimes now duration outcome times (w.record now duration outcome)

/-- The number of calls a counted window holds. -/
def capacity : Sliding → Option Nat
  | .counted w => some w.capacity
  | .timed _ => none

/-- Play an instruction. -/
def player : Player Instruction Sliding Empty Answer := fun instruction _ => do
  let w ← get
  match instruction with
  | .record duration outcome times =>
    let window := recordTimes w.now duration outcome times w.subject
    set { w with subject := window }
    return .snapshot window.snapshot
  | .snapshot =>
    let window := w.subject.catchUp w.now
    set { w with subject := window }
    return .snapshot window.snapshot
  | .reset =>
    set { w with subject := w.subject.reset w.now }
    return .done
  | .capacity => return .capacity (capacity w.subject)
  | .inspect => return .text w.subject.inspect

/-- Rehearse an empty window of a shape. -/
def rehearse
    (dial : Dial)
    (shape : Shape)
    (size minimum : Nat)
    (script : List (Step Instruction)) : List (Report Sliding Empty Answer) :=
  let idle : World Unit Empty Answer := World.start dial 0 ()
  run player script (World.start dial 0 (Sliding.ofShape shape size minimum idle.now))

end WindowScene
end Rehearsal
end FaultTolerance
