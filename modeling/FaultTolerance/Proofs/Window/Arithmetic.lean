import FaultTolerance.Proofs.Window.CountedAccount
import FaultTolerance.Proofs.Window.SlidingHistory

/-!
# What the counters of a window can hold

A window of either shape adds calls to tallies and takes the tallies of parts that leave from its
running one.  What leaves is always a part of the running tally, and a counted window holds no more
calls than it has slots.  A timed window holds as many calls as were made in its last seconds, and no
bound is set to these: the call that finds its counters full is one too many.

## Main definitions

* `Sliding.Move`, `Sliding.play`: runs of a window of either shape.
* `Sliding.SubtractsParts`: no subtraction of a step goes below zero.
* `Sliding.AddsWithin`: no addition of a step leaves its counter.
* `Shape.crowd`: how many calls a window holds, by what it was told.
* `Snapshot.Ordered`: how the counts of a snapshot are ordered.

**Results.**
* `Timed.Balanced.subtractsParts`: moving the head on subtracts parts of the running tally.
* `Timed.Shows.addsWithin_iff`: a timed window counts a call exactly as long as the calls of its last
  seconds can be counted.
* `Sliding.Shows.play`: a window goes on showing what it is told in a run.
-/

namespace FaultTolerance
namespace Window

open Time

/-! ### Counted windows -/

namespace Counted

/-- The tally that leaves, if any, is part of the running one. -/
def SubtractsParts (w : Counted) : Prop :=
  ∀ part, w.evicted = some part → part.PartOf w.totals

/-- The tally of a call and the running one with it are held by their counters. -/
structure AddsWithin
    (w : Counted)
    (c : Call) : Prop where
  single : (Tally.single c.duration c.outcome).Fits
  recorded : (w.record c.duration c.outcome).totals.Fits

end Counted

/-! ### Timed windows -/

namespace Timed

/-- The tally of the bucket that the next step of the head retires. -/
def leaving (w : Timed) : Tally :=
  (w.ring.getD ((w.head + 1) % w.ring.size) (Bucket.empty 0)).tally

/-- Every step of the head takes a part from the running tally. -/
def RetiresParts (second : Nat) : (steps : Nat) → Timed → Prop
  | 0, _ => True
  | steps + 1, w =>
    w.leaving.PartOf w.totals ∧ RetiresParts second steps (w.retireNext (second - steps))

/-- So does every step of bringing the window to a second. -/
def SubtractsParts
    (w : Timed)
    (second : Nat) : Prop :=
  w.headBucket.second < second →
    RetiresParts second (min (second - w.headBucket.second) w.ring.size) w

/-- The tally of the bucket that a call joins and the running one with it are held by their
counters. -/
structure AddsWithin
    (w : Timed)
    (second : Nat)
    (c : Call) : Prop where
  bucket : ((w.moveTo second).headBucket.tally.add c.duration c.outcome).Fits
  recorded : (w.record second c.duration c.outcome).totals.Fits

section Balanced

variable {w : Timed} (h : w.Balanced)
include h

/-- The bucket that leaves is one of those whose tallies make up the running tally. -/
theorem Balanced.leaving_partOf : w.leaving.PartOf w.totals := by
  obtain ⟨n, hn⟩ : ∃ n, w.ring.size = n + 1 :=
    ⟨w.ring.size - 1, by have := h.head_lt; omega⟩
  have htotals := h.totals
  rw [hn, Finset.sum_range_succ] at htotals
  have hleaving : w.leaving = w.tallyAt n := by
    rw [leaving, leaving_eq h.head_lt, hn, Nat.add_sub_cancel]
  rw [hleaving, htotals]
  exact Tally.partOf_add _ _

theorem Balanced.retiresParts
    (second steps : Nat) :
    RetiresParts second steps w := by
  induction steps generalizing w with
  | zero => trivial
  | succ steps ih => exact ⟨h.leaving_partOf, ih (h.retireNext _)⟩

theorem Balanced.subtractsParts (second : Nat) : w.SubtractsParts second :=
  fun _ => h.retiresParts second _

end Balanced

/-- The bucket at the head holds the calls of the effective second. -/
theorem Shows.headBucket_tally
    {w : Timed}
    {h : History}
    (hw : w.Shows h) :
    w.headBucket.tally = Tally.ofCalls (Filed.aged h.latest 0 h.filed) := by
  rw [← hw.bucket 0 hw.size_pos, tallyAt, look_head hw.balanced.head_lt]
  rfl

/-- The calls of the effective second are among those of the last seconds. -/
theorem length_aged_le
    {size : Nat}
    (hsize : 0 < size)
    (latest : Nat)
    (filed : List Filed) :
    (Filed.aged latest 0 filed).length ≤ (Filed.within latest size filed).length := by
  unfold Filed.aged Filed.within
  rw [List.length_map, List.length_map]
  refine (List.monotone_filter_right filed fun f hf => ?_).length_le
  rw [decide_eq_true_eq] at hf ⊢
  omega

/-- Recording a call stays within the counters exactly if the calls of the last seconds, it
included, can be counted. -/
theorem Shows.addsWithin_iff
    {w : Timed}
    {h : History}
    (hw : w.Shows h)
    (second : Nat)
    (c : Call) :
    let later := h.step (.record second c)
    w.AddsWithin second c ↔
      (Filed.within later.latest w.ring.size later.filed).length ≤ maxCount := by
  intro later
  have htotals :
      (w.record second c.duration c.outcome).totals =
        Tally.ofCalls (Filed.within later.latest w.ring.size later.filed) := by
    rw [← size_step w (.record second c)]
    exact (hw.record second c).totals_eq
  constructor
  · intro hadds
    have hcalls := hadds.recorded.calls
    rwa [htotals] at hcalls
  · intro hcount
    refine ⟨?_, ?_⟩
    · have hnewest :
          c :: Filed.aged (max h.latest second) 0 h.filed =
            Filed.aged later.latest 0 later.filed := by
        simp [Filed.aged, later, History.step]
      rw [(hw.moveTo second).headBucket_tally, ← Tally.ofCalls_cons, hnewest]
      exact Tally.fits_ofCalls ((length_aged_le hw.size_pos _ _).trans hcount)
    · rw [htotals]
      exact Tally.fits_ofCalls hcount

end Timed

/-! ### Windows of either shape -/

/-- How many calls a window of a shape holds that was told of them. -/
def Shape.crowd
    (size : Nat)
    (told : Timed.History)
    (shape : Shape) : Nat :=
  (shape.held size told.latest told.filed).length

/-- The calls held are some of those told of. -/
theorem Shape.crowd_le
    (shape : Shape)
    (size : Nat)
    (told : Timed.History) :
    shape.crowd size told ≤ told.filed.length := by
  cases shape with
  | countBased =>
      show ((told.filed.map Filed.call).take size).length ≤ told.filed.length
      rw [List.length_take, List.length_map]
      exact Nat.min_le_right _ _
  | timeBased =>
      show (Filed.within told.latest size told.filed).length ≤ told.filed.length
      unfold Filed.within
      rw [List.length_map]
      exact List.length_filter_le _ _

/-- A counted window holds no more calls than it has slots. -/
theorem Shape.crowd_countBased_le
    (size : Nat)
    (told : Timed.History) :
    Shape.countBased.crowd size told ≤ size :=
  List.length_take_le _ _

namespace Sliding

/-- What may be done to a window at a clock reading. -/
inductive Move where
  | record (now : Nat) (call : Call)
  | read (now : Nat)
  | reset (now : Nat)

/-- The move as it is filed, by the clock second. -/
def Move.filing : Move → Timed.Move
  | .record now call => .record (secondsOf now) call
  | .read now => .read (secondsOf now)
  | .reset now => .reset (secondsOf now)

/-- The window after a move. -/
def step
    (w : Sliding) : Move → Sliding
  | .record now call => w.record now call.duration call.outcome
  | .read now => w.catchUp now
  | .reset now => w.reset now

/-- The window after a run. -/
def play
    (w : Sliding)
    (moves : List Move) : Sliding :=
  moves.foldl step w

/-- What a window was told in a run since its start. -/
def told
    (start : Nat)
    (moves : List Move) : Timed.History :=
  moves.foldl (fun h m => h.step m.filing) ⟨secondsOf start, []⟩

/-- Every tally that a move subtracts from the running one is part of it; a reset subtracts
nothing, and neither does reading the numbers of a counted window. -/
def SubtractsParts : Sliding → Move → Prop
  | .counted w, .record _ _ => w.SubtractsParts
  | .timed w, .record now _ | .timed w, .read now => w.SubtractsParts (secondsOf now)
  | .counted _, .read _ | .counted _, .reset _ | .timed _, .reset _ => True

/-- No addition of recording a call at a clock reading leaves its counter; nothing else adds. -/
def AddsWithin
    (now : Nat)
    (c : Call) : Sliding → Prop
  | .counted w => w.AddsWithin c
  | .timed w => w.AddsWithin (secondsOf now) c

/-- A window of size zero is one of size one. -/
theorem ofShape_max_one
    (shape : Shape)
    (size minimum now : Nat) :
    ofShape shape (max size 1) minimum now = ofShape shape size minimum now := by
  have hmax : max (max size 1) 1 = max size 1 := by
    omega
  cases shape with
  | countBased => simp only [ofShape, Counted.ofSize, hmax]
  | timeBased => simp only [ofShape, Timed.ofSize, hmax]

section Shows

variable {size floor latest : Nat} {filed : List Filed} {shape : Shape} {w : Sliding}

/-- What a move subtracts is part of the running tally. -/
theorem Shows.subtractsParts
    (h : Shows size floor latest filed shape w)
    (m : Move) :
    w.SubtractsParts m := by
  cases h with
  | counted w hshows hsize hfloor =>
      cases m with
      | record now c => exact fun part => hshows.evicted_partOf
      | read now => trivial
      | reset now => trivial
  | timed w hshows hsize hfloor =>
      cases m with
      | record now c => exact hshows.balanced.subtractsParts _
      | read now => exact hshows.balanced.subtractsParts _
      | reset now => trivial

end Shows

section Histories

variable {size floor : Nat} {h : Timed.History} {shape : Shape} {w : Sliding}

/-- A window goes on showing what it is told. -/
theorem Shows.step
    (hw : Shows size floor h.latest h.filed shape w)
    (m : Move) :
    Shows size floor (h.step m.filing).latest (h.step m.filing).filed shape (w.step m) := by
  cases m with
  | record now c => exact hw.record now c
  | read now => exact hw.catchUp now
  | reset now => exact hw.reset now

theorem Shows.play
    (hw : Shows size floor h.latest h.filed shape w)
    (moves : List Move) :
    let later := moves.foldl (fun h m => h.step m.filing) h
    Shows size floor later.latest later.filed shape (w.play moves) := by
  induction moves generalizing h w with
  | nil => exact hw
  | cons m moves ih => exact ih (hw.step m)

/-- A call is counted exactly as long as the calls held, it included, can be counted.  A counted
window never holds more than it has slots. -/
theorem Shows.addsWithin_iff
    (hw : Shows size floor h.latest h.filed shape w)
    (hwidth : size ≤ maxCount)
    (now : Nat)
    (c : Call) :
    w.AddsWithin now c ↔ shape.crowd size (h.step (.record (secondsOf now) c)) ≤ maxCount := by
  cases hw with
  | counted w hshows hsize hfloor =>
      have hsafe : w.Safe c := hshows.safe (hsize.trans_le hwidth) c
      refine iff_of_true ⟨hsafe.single, hsafe.recorded⟩ ?_
      exact (Shape.crowd_countBased_le size _).trans hwidth
  | timed w hshows hsize hfloor =>
      have hadds := hshows.addsWithin_iff (secondsOf now) c
      rwa [hsize] at hadds

end Histories

/-- In a run a window is told of no more calls than there are moves. -/
theorem length_told_le
    (start : Nat)
    (moves : List Move) :
    (told start moves).filed.length ≤ moves.length := by
  induction moves using List.reverseRecOn with
  | nil => exact le_rfl
  | append_singleton moves m ih =>
      have hstep : told start (moves ++ [m]) = (told start moves).step m.filing :=
        List.foldl_concat ..
      rw [hstep, List.length_append, List.length_singleton]
      cases m with
      | record now c => exact Nat.succ_le_succ ih
      | read now => exact ih.trans (Nat.le_add_right _ _)
      | reset now => exact Nat.zero_le _

end Sliding

/-! ### Snapshots -/

namespace Snapshot

/-- The counts of a snapshot are ordered, so that no difference of them is cut off. -/
structure Ordered (s : Snapshot) : Prop where
  slowFailed : s.slowFailed ≤ min s.failed s.slow
  failed : s.failed ≤ s.total
  slow : s.slow ≤ s.total
  successful : s.successful + s.failed = s.total
  slowSuccessful : s.slowSuccessful + s.slowFailed = s.slow

/-- The counts of a list of calls are ordered. -/
theorem ordered_ofCalls
    (minimum : Nat)
    (calls : List Call) :
    (ofCalls minimum calls).Ordered := by
  have hfailed : (ofCalls minimum calls).failed ≤ (ofCalls minimum calls).total :=
    List.countP_le_length
  have hslow : (ofCalls minimum calls).slow ≤ (ofCalls minimum calls).total :=
    List.countP_le_length
  have hboth :
      (ofCalls minimum calls).slowFailed ≤
        min (ofCalls minimum calls).failed (ofCalls minimum calls).slow := by
    refine Nat.le_min.mpr ⟨?_, ?_⟩
    · exact List.countP_mono_left fun c _ hc => (Bool.and_eq_true_iff.mp hc).1
    · exact List.countP_mono_left fun c _ hc => (Bool.and_eq_true_iff.mp hc).2
  exact
    { slowFailed := hboth
      failed := hfailed
      slow := hslow
      successful := Nat.sub_add_cancel hfailed
      slowSuccessful := Nat.sub_add_cancel (hboth.trans (Nat.min_le_right _ _)) }

end Snapshot

/-! ### Every run -/

namespace Sliding

/-- Calls made at one reading are all filed under its second. -/
theorem told_replicate
    (now n : Nat)
    (c : Call) :
    told now (List.replicate n (.record now c)) =
      ⟨secondsOf now, List.replicate n ⟨secondsOf now, c⟩⟩ := by
  induction n with
  | zero => rfl
  | succ n ih =>
      have hstep :
          told now (List.replicate (n + 1) (.record now c)) =
            (told now (List.replicate n (.record now c))).step (.record (secondsOf now) c) := by
        rw [List.replicate_succ']
        exact List.foldl_concat ..
      rw [hstep, ih]
      show (⟨max (secondsOf now) (secondsOf now), _⟩ : Timed.History) = _
      rw [Nat.max_self]
      rfl

/-- None of them leaves a timed window. -/
theorem crowd_replicate
    (size now n : Nat)
    (c : Call) :
    Shape.timeBased.crowd (max size 1) (told now (List.replicate n (.record now c))) = n := by
  rw [told_replicate]
  show (Filed.within _ _ _).length = n
  unfold Filed.within
  rw [List.length_map, List.filter_eq_self.mpr, List.length_replicate]
  intro f hf
  rw [List.eq_of_mem_replicate hf, decide_eq_true_eq]
  show secondsOf now < secondsOf now + max size 1 ∧ secondsOf now ≤ secondsOf now
  omega

/-- **What the counters of a window can hold.**  After whatever was done to a window of either shape,
of any 32-bit size, at clock readings that may step back: no subtraction of the next move goes below
zero, and the counts of the snapshot are ordered.  Recording one more call leaves no counter of 32
bits, nor the sum of durations its 128 bits, exactly if no more than `2 ^ 32 - 1` calls are held with
it; so a counted window can always record a call, and so can a timed one that was asked less than
that often.  But as many calls as one likes may be made in the last seconds. -/
theorem counters_hold_next_call_iff
    (shape : Shape)
    (size minimum start : Nat)
    (hwidth : size ≤ maxCount)
    (moves : List Move) :
    let w := (ofShape shape size minimum start).play moves
    (∀ m, w.SubtractsParts m) ∧
      w.snapshot.Ordered ∧
      (∀ now c, w.AddsWithin now c ↔
        shape.crowd (max size 1) (told start (moves ++ [.record now c])) ≤ maxCount) ∧
      (shape = .countBased ∨ moves.length < maxCount → ∀ now c, w.AddsWithin now c) := by
  intro w
  have hmax : max size 1 ≤ maxCount := Nat.max_le.mpr ⟨hwidth, by decide⟩
  have hpos : 0 < max size 1 := lt_max_of_lt_right Nat.one_pos
  have hstart := shows_ofShape hpos minimum start shape
  rw [ofShape_max_one] at hstart
  have hw := Shows.play (h := ⟨secondsOf start, []⟩) hstart moves
  have hiff (now : Nat) (c : Call) := hw.addsWithin_iff hmax now c
  have hlater (now : Nat) (c : Call) :
      told start (moves ++ [.record now c]) =
        (told start moves).step (.record (secondsOf now) c) :=
    List.foldl_concat ..
  refine ⟨hw.subtractsParts, ?_, ?_, ?_⟩
  · rw [hw.snapshot_eq]
    exact Snapshot.ordered_ofCalls _ _
  · intro now c
    rw [hlater]
    exact hiff now c
  · rintro (rfl | hfew) now c
    · exact (hiff now c).mpr ((Shape.crowd_countBased_le _ _).trans hmax)
    · refine (hiff now c).mpr ((Shape.crowd_le _ _ _).trans ?_)
      exact (Nat.succ_le_succ (length_told_le start moves)).trans hfew

/-- A window over one second counts `2 ^ 32 - 1` calls made at one reading, and not one more. -/
theorem counters_hold_next_call_iff_full :
    let c : Call := ⟨Span.zero, .success⟩
    let w := ofShape .timeBased 1 1 0
    (w.play (List.replicate (maxCount - 1) (.record 0 c))).AddsWithin 0 c ∧
      ¬(w.play (List.replicate maxCount (.record 0 c))).AddsWithin 0 c := by
  intro c w
  -- The number of calls stays a variable here, for nothing to be unrolled.
  have hcounted (n : Nat) :
      (w.play (List.replicate n (.record 0 c))).AddsWithin 0 c ↔ n + 1 ≤ maxCount := by
    obtain ⟨-, -, hiff, -⟩ :=
      counters_hold_next_call_iff .timeBased 1 1 0 (by decide) (List.replicate n (.record 0 c))
    rw [hiff, ← List.replicate_succ', crowd_replicate]
  constructor
  · rw [hcounted, Nat.sub_add_cancel (by decide)]
  · rw [hcounted]
    exact Nat.not_succ_le_self maxCount

end Sliding
end Window
end FaultTolerance
