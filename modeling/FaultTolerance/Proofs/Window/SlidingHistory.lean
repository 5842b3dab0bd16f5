import FaultTolerance.Proofs.Window.CountedHistory
import FaultTolerance.Proofs.Window.TimedHistory
import FaultTolerance.Window.Sliding

/-!
# What a window of either shape holds

A window is told of calls at clock readings.  Both shapes keep the same history, the calls with the
effective seconds they are filed under, latest first; a counted window holds the first of them, a
timed window those of the last seconds.

**Results.**
* `Shape.held`, `Shape.floor`: the calls held, and how many are needed for a judgement.
* `Sliding.Shows`: a window shows a history; kept by every operation.
* `Sliding.Shows.snapshot_eq`: a reader sees the counts of the calls held.
-/

namespace FaultTolerance
namespace Window

open Time

/-- The calls held by a window of a shape: the last `size` calls, or those of the last `size`
seconds. -/
def Shape.held
    (size latest : Nat)
    (filed : List Filed) : Shape → List Call
  | .countBased => (filed.map Filed.call).take size
  | .timeBased => Filed.within latest size filed

/-- The calls needed before a window of a shape is judged; a counted window needs no more than it
can hold. -/
def Shape.floor
    (size minimum : Nat) : Shape → Nat
  | .countBased => min minimum size
  | .timeBased => minimum

namespace Sliding

/-- A window of a shape shows the calls it was told of, latest first, up to an effective second. -/
inductive Shows
    (size floor latest : Nat)
    (filed : List Filed) :
    Shape → Sliding → Prop
  | counted
      (w : Counted)
      (hshows : w.Shows (filed.map Filed.call))
      (hsize : w.slots.size = size)
      (hfloor : w.minimum = floor) :
      Shows size floor latest filed .countBased (.counted w)
  | timed
      (w : Timed)
      (hshows : w.Shows ⟨latest, filed⟩)
      (hsize : w.ring.size = size)
      (hfloor : w.minimum = floor) :
      Shows size floor latest filed .timeBased (.timed w)

/-- A new window shows no calls. -/
theorem shows_ofShape
    {size : Nat}
    (hsize : 0 < size)
    (minimum now : Nat)
    (shape : Shape) :
    Shows size (shape.floor size minimum) (secondsOf now) [] shape
      (ofShape shape size minimum now) := by
  have hmax : max size 1 = size := by
    omega
  cases shape with
  | countBased =>
      refine .counted _ (Counted.shows_ofSize size minimum) ?_ ?_
      · rw [Counted.size_ofSize, hmax]
      · rw [Counted.minimum_ofSize, hmax]
        rfl
  | timeBased =>
      refine .timed _ (Timed.shows_ofSize size minimum _) ?_ rfl
      rw [Timed.size_ofSize, hmax]

section Operations

variable {size floor latest : Nat} {filed : List Filed} {shape : Shape} {w : Sliding}

/-- A recorded call is filed under the latest second that the clock has shown. -/
theorem Shows.record
    (h : Shows size floor latest filed shape w)
    (now : Nat)
    (c : Call) :
    Shows size floor (max latest (secondsOf now)) (⟨max latest (secondsOf now), c⟩ :: filed) shape
      (w.record now c.duration c.outcome) := by
  cases h with
  | counted w hshows hsize hfloor =>
      refine .counted _ (hshows.record c) ?_ ?_
      · rw [Counted.size_record, hsize]
      · rw [Counted.minimum_record, hfloor]
  | timed w hshows hsize hfloor =>
      refine .timed _ (hshows.record (secondsOf now) c) ?_ ?_
      · exact (Timed.size_step w (.record (secondsOf now) c)).trans hsize
      · exact (Timed.minimum_step w (.record (secondsOf now) c)).trans hfloor

/-- Reading the numbers makes the calls of a timed window so much older. -/
theorem Shows.catchUp
    (h : Shows size floor latest filed shape w)
    (now : Nat) :
    Shows size floor (max latest (secondsOf now)) filed shape (w.catchUp now) := by
  cases h with
  | counted w hshows hsize hfloor => exact .counted w hshows hsize hfloor
  | timed w hshows hsize hfloor =>
      refine .timed _ (hshows.moveTo (secondsOf now)) ?_ ?_
      · exact (Timed.size_step w (.read (secondsOf now))).trans hsize
      · exact (Timed.minimum_step w (.read (secondsOf now))).trans hfloor

/-- After a reset no call is shown. -/
theorem Shows.reset
    (h : Shows size floor latest filed shape w)
    (now : Nat) :
    Shows size floor (secondsOf now) [] shape (w.reset now) := by
  cases h with
  | counted w hshows hsize hfloor =>
      exact .counted _ hshows.reset (Array.size_replicate.trans hsize) hfloor
  | timed w hshows hsize hfloor =>
      exact .timed _ (hshows.reset _) (Array.size_replicate.trans hsize) hfloor

/-- A reader sees the counts of the calls held. -/
theorem Shows.snapshot_eq
    (h : Shows size floor latest filed shape w) :
    w.snapshot = Snapshot.ofCalls floor (shape.held size latest filed) := by
  cases h with
  | counted w hshows hsize hfloor =>
      have hsnapshot := hshows.snapshot_eq
      rwa [hsize, hfloor] at hsnapshot
  | timed w hshows hsize hfloor =>
      have hsnapshot := hshows.snapshot_eq
      rwa [hsize, hfloor] at hsnapshot

end Operations

end Sliding
end Window
end FaultTolerance
