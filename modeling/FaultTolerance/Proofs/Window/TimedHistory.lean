import FaultTolerance.Proofs.Window.TimedRing

/-!
# A timed window shows the calls of its last seconds

The history of a timed window is the list of the calls it was told of since its creation or last
reset, each filed under the effective second at which it was recorded: the latest second that the
window has seen.  A clock that steps back files a call under the second already reached.  What a
reader of the window is told is a filter over this history.

## Main definitions

* `Filed`, `Timed.History`: calls with their seconds, and the effective second.
* `Timed.Move`, `Timed.snapshots`: what is done to a window, and the snapshots it answers with.
* `Timed.History.snapshots`: the answers of a plain filter.

**Results.**
* `Timed.Shows`: the relation between a window and its history, kept by every operation.
* `Timed.Shows.snapshots_eq`: from there on a window answers as the filter does.

So a new window answers as the filter does in every run; a window of size zero keeps one second all
the same.
-/

namespace FaultTolerance
namespace Window

open Time

/-- A call with the second it is filed under. -/
structure Filed where
  second : Nat
  call : Call
deriving DecidableEq

/-- The calls filed in the last `size` seconds up to `latest`. -/
def Filed.within
    (latest size : Nat)
    (filed : List Filed) : List Call :=
  (filed.filter fun f => decide (latest < f.second + size ∧ f.second ≤ latest)).map Filed.call

/-- The calls filed exactly `age` seconds before `latest`. -/
def Filed.aged
    (latest age : Nat)
    (filed : List Filed) : List Call :=
  (filed.filter fun f => decide (f.second + age = latest)).map Filed.call

namespace Timed

/-- What a timed window has been told: its effective second, and the calls since its creation or
last reset, latest first. -/
structure History where
  latest : Nat
  filed : List Filed

/-- What may be done to a window at a clock second. -/
inductive Move where
  | record (second : Nat) (call : Call)
  | read (second : Nat)
  | reset (second : Nat)

namespace History

/-- The history after a move. -/
def step
    (h : History) : Move → History
  | .record second call =>
    ⟨max h.latest second, ⟨max h.latest second, call⟩ :: h.filed⟩
  | .read second => { h with latest := max h.latest second }
  | .reset second => ⟨second, []⟩

/-- The snapshot after a move, by filtering the history; a reset answers nothing. -/
def answer
    (size minimum : Nat)
    (h : History) : Move → Option Snapshot
  | .record _ _ | .read _ => some (Snapshot.ofCalls minimum (Filed.within h.latest size h.filed))
  | .reset _ => none

/-- The snapshots of a run. -/
def snapshots
    (size minimum : Nat)
    (h : History) : List Move → List (Option Snapshot)
  | [] => []
  | m :: moves => answer size minimum (h.step m) m :: snapshots size minimum (h.step m) moves

end History

/-- The window after a move. -/
def step
    (w : Timed) : Move → Timed
  | .record second call => w.record second call.duration call.outcome
  | .read second => w.moveTo second
  | .reset second => w.reset second

/-- The snapshot after a move; a reset answers nothing. -/
def answer
    (w : Timed) : Move → Option Snapshot
  | .record _ _ | .read _ => some w.snapshot
  | .reset _ => none

/-- The snapshots of a run. -/
def snapshots
    (w : Timed) : List Move → List (Option Snapshot)
  | [] => []
  | m :: moves => (w.step m).answer m :: (w.step m).snapshots moves

/-- The window shows a history: bucket by bucket, and in its running tally. -/
structure Shows
    (w : Timed)
    (h : History) : Prop where
  balanced : w.Balanced
  second : w.headBucket.second = h.latest
  bucket : ∀ age < w.ring.size, w.tallyAt age = Tally.ofCalls (Filed.aged h.latest age h.filed)
  past : ∀ f ∈ h.filed, f.second ≤ h.latest

/-! ### Each operation -/

/-- A ring of empty buckets shows an empty history. -/
theorem shows_replicate
    {size second minimum : Nat}
    (hsize : 0 < size) :
    Shows ⟨Array.replicate size (Bucket.empty second), 0, Tally.empty, minimum⟩
      ⟨second, []⟩ where
  balanced := (balanced_replicate hsize).1
  second := by
    unfold headBucket
    rw [Array.getD_eq_getD_getElem?, Array.getElem?_replicate, if_pos hsize]
    rfl
  bucket := by
    intro age hage
    rw [Array.size_replicate] at hage
    exact (balanced_replicate hsize).2 age hage
  past := by
    intro f hf
    cases hf

theorem shows_ofSize (size minimum second : Nat) :
    (ofSize size minimum second).Shows ⟨second, []⟩ :=
  shows_replicate (by omega)

@[simp]
theorem size_ofSize (size minimum second : Nat) :
    (ofSize size minimum second).ring.size = max size 1 :=
  Array.size_replicate

section Operations

variable {w : Timed} {h : History} (hw : w.Shows h)
include hw

theorem Shows.size_pos : 0 < w.ring.size :=
  Nat.lt_of_le_of_lt (Nat.zero_le _) hw.balanced.head_lt

theorem Shows.reset (second : Nat) : (w.reset second).Shows ⟨second, []⟩ :=
  shows_replicate hw.size_pos

/-- Bringing the window to a second makes the calls so much older. -/
theorem Shows.moveTo (second : Nat) :
    (w.moveTo second).Shows { h with latest := max h.latest second } where
  balanced := hw.balanced.moveTo second
  second := by rw [second_moveTo second hw.balanced.head_lt, hw.second]
  bucket := by
    intro age hage
    rw [size_moveTo] at hage
    rw [tallyAt_moveTo second hw.balanced.head_lt hage, hw.second]
    split_ifs with hnew
    · -- No call is filed after the second already reached.
      have hnone : Filed.aged (max h.latest second) age h.filed = [] := by
        unfold Filed.aged
        rw [List.map_eq_nil_iff, List.filter_eq_nil_iff]
        intro f hf
        have hpast := hw.past f hf
        simp only [decide_eq_true_eq]
        omega
      rw [hnone, Tally.ofCalls_nil]
    · rw [hw.bucket _ (by omega)]
      unfold Filed.aged
      congr 2
      refine List.filter_congr fun f _ => ?_
      simp only [decide_eq_decide]
      omega
  past := by
    intro f hf
    exact le_trans (hw.past f hf) (Nat.le_max_left _ _)

/-- A call recorded at the head is filed under the effective second. -/
theorem Shows.recordHere (c : Call) :
    (w.recordHere c.duration c.outcome).Shows ⟨h.latest, ⟨h.latest, c⟩ :: h.filed⟩ where
  balanced := hw.balanced.recordHere c.duration c.outcome
  second := by rw [second_recordHere _ _ hw.balanced.head_lt, hw.second]
  bucket := by
    intro age hage
    rw [size_recordHere] at hage
    rw [tallyAt_recordHere _ _ hw.balanced.head_lt hage]
    split_ifs with hzero
    · subst hzero
      rw [hw.bucket 0 hage]
      simp [Filed.aged]
    · rw [hw.bucket age hage]
      simp [Filed.aged, hzero]
  past := by
    intro f hf
    rcases List.mem_cons.mp hf with rfl | hold
    · exact le_rfl
    · exact hw.past f hold

/-- Recording brings the window to the clock second first. -/
theorem Shows.record
    (second : Nat)
    (c : Call) :
    (w.record second c.duration c.outcome).Shows
      ⟨max h.latest second, ⟨max h.latest second, c⟩ :: h.filed⟩ :=
  (hw.moveTo second).recordHere c

theorem Shows.step (m : Move) : (w.step m).Shows (h.step m) := by
  cases m with
  | record second call => exact hw.record second call
  | read second => exact hw.moveTo second
  | reset second => exact hw.reset second

end Operations

@[simp]
theorem size_step
    (w : Timed)
    (m : Move) :
    (w.step m).ring.size = w.ring.size := by
  cases m with
  | record second call => simp [step, Timed.record]
  | read second => simp [step]
  | reset second => simp [step, Timed.reset]

@[simp]
theorem minimum_step
    (w : Timed)
    (m : Move) :
    (w.step m).minimum = w.minimum := by
  cases m with
  | record second call => simp [step, Timed.record]
  | read second => simp [step]
  | reset second => rfl

/-! ### The filter -/

/-- The calls of the last seconds are those of each of these seconds together. -/
theorem sum_aged
    (latest : Nat)
    (filed : List Filed)
    (size : Nat) :
    ∑ age ∈ Finset.range size, Tally.ofCalls (Filed.aged latest age filed) =
      Tally.ofCalls (Filed.within latest size filed) := by
  induction size with
  | zero =>
      have hnone : Filed.within latest 0 filed = [] := by
        unfold Filed.within
        rw [List.map_eq_nil_iff, List.filter_eq_nil_iff]
        intro f _
        simp only [decide_eq_true_eq]
        omega
      rw [hnone, Finset.sum_range_zero, Tally.ofCalls_nil]
  | succ size ih =>
      have hsplit :
          Filed.within latest (size + 1) filed =
            (filed.filter fun f =>
              decide (latest < f.second + size ∧ f.second ≤ latest) ||
                decide (f.second + size = latest)).map Filed.call := by
        unfold Filed.within
        congr 1
        refine List.filter_congr fun f _ => ?_
        rw [Bool.eq_iff_iff, Bool.or_eq_true, decide_eq_true_eq, decide_eq_true_eq,
          decide_eq_true_eq]
        omega
      rw [Finset.sum_range_succ, ih, hsplit, Tally.ofCalls_filter_or]
      · rfl
      · intro f _ hrecent
        rw [decide_eq_true_eq] at hrecent
        rw [decide_eq_false_iff_not]
        omega

/-- The running tally is that of the calls filed in the last seconds. -/
theorem Shows.totals_eq
    {w : Timed}
    {h : History}
    (hw : w.Shows h) :
    w.totals = Tally.ofCalls (Filed.within h.latest w.ring.size h.filed) := by
  have hbuckets :
      ∑ age ∈ Finset.range w.ring.size, w.tallyAt age =
        ∑ age ∈ Finset.range w.ring.size, Tally.ofCalls (Filed.aged h.latest age h.filed) :=
    Finset.sum_congr rfl fun age hage => hw.bucket age (Finset.mem_range.mp hage)
  rw [hw.balanced.totals, hbuckets, sum_aged]

/-- A reader sees the counts of the calls filed in the last seconds. -/
theorem Shows.snapshot_eq
    {w : Timed}
    {h : History}
    (hw : w.Shows h) :
    w.snapshot =
      Snapshot.ofCalls w.minimum (Filed.within h.latest w.ring.size h.filed) := by
  unfold snapshot
  rw [hw.totals_eq, Tally.snapshot_ofCalls]

/-- From a window and a history it shows on, every answer is that of the filter. -/
theorem Shows.snapshots_eq
    {w : Timed}
    {h : History}
    (hw : w.Shows h)
    (moves : List Move) :
    w.snapshots moves = h.snapshots w.ring.size w.minimum moves := by
  induction moves generalizing w h with
  | nil => rfl
  | cons m moves ih =>
      have hstep := hw.step m
      have hrest := ih hstep
      rw [size_step, minimum_step] at hrest
      have hanswer : (w.step m).answer m = (h.step m).answer w.ring.size w.minimum m := by
        have hsnapshot := hstep.snapshot_eq
        rw [size_step, minimum_step] at hsnapshot
        cases m with
        | record second call => exact congrArg some hsnapshot
        | read second => exact congrArg some hsnapshot
        | reset second => rfl
      unfold snapshots History.snapshots
      rw [hanswer, hrest]

/-- **A timed window equals its definition.**  Whatever is done to a window of any size, at clock
seconds that may step back, each snapshot it answers with counts exactly the calls recorded since
the last reset whose filed second `s` satisfies `E - size < s ≤ E`, where `E` is the effective
second; a window of size zero keeps one second. -/
theorem snapshots_eq_filter
    (size minimum start : Nat)
    (moves : List Move) :
    (ofSize size minimum start).snapshots moves =
      History.snapshots (max size 1) minimum ⟨start, []⟩ moves := by
  have h := (shows_ofSize size minimum start).snapshots_eq moves
  rwa [size_ofSize] at h

/-- A window of size zero still shows the call just recorded, which no interval of zero seconds
contains. -/
theorem snapshots_ne_of_size_zero :
    (ofSize 0 0 0).snapshots [.record 0 ⟨Span.ofMillis 1, .error⟩] ≠
      History.snapshots 0 0 ⟨0, []⟩ [.record 0 ⟨Span.ofMillis 1, .error⟩] := by
  decide +kernel

end Timed
end Window
end FaultTolerance
