import FaultTolerance.Proofs.Window.CountedHistory
import FaultTolerance.Proofs.Window.Counters

/-!
# The account of a counted window

An account keeps, beside a counted window, the calls recorded since its creation or last reset and
the tallies that were subtracted from its running tally since then.  However long the run, the
window shows the last calls, as many as it has slots; every older one was subtracted once, in the
order of recording; and no counter leaves its range.

## Main definitions

* `Counted.Move`, `Counted.Account`: runs of records and resets.
* `Counted.Safe`: recording a call stays within the counters at every step.

**Results.**
* `Counted.Account.Kept`: the invariant, kept by every move and so by every run.
* `Counted.Shows.safe`: recording a call is safe.
-/

namespace FaultTolerance
namespace Window
namespace Counted

open Time

/-- What changes a counted window. -/
inductive Move where
  | record (call : Call)
  | reset

/-- The tally that recording the next call subtracts, if any. -/
def evicted (w : Counted) : Option Tally :=
  w.slots[w.head]?.join

/-- Recording a call stays within the counters at every step: the tally of the call fits, the tally
that leaves is part of the running one, and so does the running one fit without it and with the
call. -/
structure Safe
    (w : Counted)
    (c : Call) : Prop where
  single : (Tally.single c.duration c.outcome).Fits
  evicted : ∀ part, w.evicted = some part → part.PartOf w.totals
  kept : w.kept.Fits
  recorded : (w.record c.duration c.outcome).totals.Fits

/-- A counted window with the calls recorded since its creation or last reset and the tallies
subtracted since then, latest first. -/
structure Account where
  window : Counted
  calls : List Call
  subtracted : List Tally

namespace Account

/-- A window of which nothing was asked yet. -/
def opened (size minimum : Nat) : Account :=
  ⟨ofSize size minimum, [], []⟩

/-- One move. -/
def step
    (a : Account) : Move → Account
  | .record c =>
    { window := a.window.record c.duration c.outcome
      calls := c :: a.calls
      subtracted := a.window.evicted.toList ++ a.subtracted }
  | .reset => ⟨a.window.reset, [], []⟩

/-- A whole run. -/
def play
    (a : Account)
    (moves : List Move) : Account :=
  moves.foldl step a

end Account

section Shows

variable {w : Counted} {calls : List Call} (h : w.Shows calls)
include h

/-- The tally that leaves is that of the oldest call shown, once the window is full. -/
theorem Shows.evicted_eq :
    w.evicted = calls[w.slots.size - 1]?.map fun c => Tally.single c.duration c.outcome := by
  unfold evicted
  rw [h.slot_head]
  rfl

/-- The tally that leaves is part of the running tally. -/
theorem Shows.evicted_partOf
    {part : Tally}
    (hpart : w.evicted = some part) :
    part.PartOf w.totals := by
  have hpos : 0 < w.slots.size := Nat.lt_of_le_of_lt (Nat.zero_le _) h.head_lt
  rw [h.evicted_eq, Option.map_eq_some_iff] at hpart
  obtain ⟨oldest, holdest, rfl⟩ := hpart
  rw [h.totals, show w.slots.size = w.slots.size - 1 + 1 by omega, List.take_add_one, holdest,
    Tally.ofCalls_append, Option.toList_some, Tally.ofCalls_singleton]
  exact Tally.partOf_add _ _

/-- Recording a call into a window with no more slots than a 32-bit counter can count is safe. -/
theorem Shows.safe
    (hwidth : w.slots.size ≤ maxCount)
    (c : Call) :
    w.Safe c := by
  have htake (calls : List Call) (n : Nat) (hn : n ≤ w.slots.size) :
      (Tally.ofCalls (calls.take n)).Fits :=
    Tally.fits_ofCalls (le_trans (List.length_take_le n calls) (le_trans hn hwidth))
  refine ⟨?_, fun part => h.evicted_partOf, ?_, ?_⟩
  · rw [← Tally.ofCalls_singleton]
    exact Tally.fits_ofCalls (le_of_lt (by simp))
  · rw [h.kept_eq]
    exact htake calls _ (Nat.sub_le _ _)
  · rw [(h.record c).totals, size_record]
    exact htake (c :: calls) _ le_rfl

end Shows

namespace Account

/-- The window shows the calls of the account, and what was subtracted are the calls before those
it still holds. -/
structure Kept
    (a : Account)
    (size floor : Nat) : Prop where
  shows_calls : a.window.Shows a.calls
  size_eq : a.window.slots.size = size
  minimum_eq : a.window.minimum = floor
  subtracted_eq :
    a.subtracted = (a.calls.drop size).map fun c => Tally.single c.duration c.outcome

theorem kept_opened
    {size : Nat}
    (hsize : 0 < size)
    (minimum : Nat) :
    (opened size minimum).Kept size (min minimum size) := by
  have hmax : max size 1 = size := by
    omega
  refine ⟨shows_ofSize size minimum, ?_, ?_, ?_⟩
  · exact (size_ofSize size minimum).trans hmax
  · show min minimum (max size 1) = min minimum size
    rw [hmax]
  · simp [opened]

section Runs

variable {a : Account} {size floor : Nat} (h : a.Kept size floor)
include h

/-- The call that leaves joins those subtracted before it. -/
theorem Kept.record (c : Call) : (a.step (.record c)).Kept size floor where
  shows_calls := h.shows_calls.record c
  size_eq := (size_record a.window c.duration c.outcome).trans h.size_eq
  minimum_eq := h.minimum_eq
  subtracted_eq := by
    have hpos : 0 < size := by
      rw [← h.size_eq]
      exact Nat.lt_of_le_of_lt (Nat.zero_le _) h.shows_calls.head_lt
    obtain ⟨n, rfl⟩ : ∃ n, size = n + 1 := ⟨size - 1, by omega⟩
    show a.window.evicted.toList ++ a.subtracted =
      ((c :: a.calls).drop (n + 1)).map fun c => Tally.single c.duration c.outcome
    rw [h.shows_calls.evicted_eq, h.size_eq, h.subtracted_eq, List.drop_succ_cons,
      List.drop_eq_getElem?_toList_append (i := n), List.map_append, Nat.add_sub_cancel]
    cases a.calls[n]? <;> rfl

/-- A reset starts the account anew. -/
theorem Kept.reset : (a.step .reset).Kept size floor where
  shows_calls := h.shows_calls.reset
  size_eq := by
    rw [← h.size_eq]
    exact Array.size_replicate
  minimum_eq := h.minimum_eq
  subtracted_eq := by simp [step]

theorem Kept.step (m : Move) : (a.step m).Kept size floor := by
  cases m with
  | record c => exact h.record c
  | reset => exact h.reset

theorem Kept.play (moves : List Move) : (a.play moves).Kept size floor := by
  induction moves generalizing a with
  | nil => exact h
  | cons m moves ih => exact ih (h.step m)

end Runs
end Account

/-- **A counted window equals its definition.**  Whatever is recorded into a window of any 32-bit
size, and however often it is reset in between: its snapshot, which is also what recording a call
answers, counts the last `size` of the calls recorded since the last reset, or all of them if there
are fewer, against the capped minimum; what was subtracted since then is exactly the older calls,
each once; and recording one more call takes no counter out of its range. -/
theorem snapshot_counts_last_calls
    (size minimum : Nat)
    (hsize : 0 < size)
    (hwidth : size ≤ maxCount)
    (moves : List Move) :
    let a := (Account.opened size minimum).play moves
    a.window.snapshot = Snapshot.ofCalls (min minimum size) (a.calls.take size) ∧
      a.subtracted = (a.calls.drop size).map (fun c => Tally.single c.duration c.outcome) ∧
      ∀ c, a.window.Safe c := by
  intro a
  have hkept : a.Kept size (min minimum size) := (Account.kept_opened hsize minimum).play moves
  refine ⟨?_, hkept.subtracted_eq, fun c => hkept.shows_calls.safe ?_ c⟩
  · rw [hkept.shows_calls.snapshot_eq, hkept.size_eq, hkept.minimum_eq]
  · rw [hkept.size_eq]
    exact hwidth

/-- Two slots, filled before a reset and overrun after it by the longest calls there are: the first
of these left, and the sum of the others is cut off in the snapshot only. -/
theorem snapshot_counts_last_calls_overrun :
    let long : Call := ⟨Span.max, .slowError⟩
    let moves : List Move :=
      [.record ⟨Span.zero, .error⟩, .record long, .reset, .record long, .record long,
        .record ⟨Span.max, .success⟩]
    let a := (Account.opened 2 100).play moves
    a.window.snapshot = ⟨2, 1, 1, 1, Span.clip maxTicks, 2⟩ ∧
      a.subtracted = [Tally.single Span.max .slowError] ∧
      a.window.Safe long := by
  intro long moves a
  obtain ⟨hsnapshot, hsubtracted, hsafe⟩ :=
    snapshot_counts_last_calls 2 100 (by decide) (by decide) moves
  refine ⟨?_, ?_, hsafe long⟩
  · exact hsnapshot.trans (by decide +kernel)
  · exact hsubtracted.trans (by decide +kernel)

end Counted
end Window
end FaultTolerance
