import FaultTolerance.Proofs.Window.Calls
import FaultTolerance.Proofs.Window.Ring
import FaultTolerance.Window.Counted

/-!
# A counted window shows its last calls

The slots of a counted window, seen from its head, are the last calls, the latest first; its running
tally is the tally of as many of them as there are slots.  A call recorded into a full ring takes
the slot of the oldest one, whose tally leaves exactly then.

**Results.**
* `Counted.Shows`: a window shows a list of calls, latest first.
* `Counted.shows_ofSize`, `Counted.Shows.record`, `Counted.Shows.reset`: each operation.
* `Counted.Shows.snapshot_eq`: a reader sees the counts of the last calls.
-/

namespace FaultTolerance
namespace Window
namespace Counted

open Time

@[simp]
theorem size_record
    (w : Counted)
    (duration : Span)
    (outcome : Outcome) :
    (w.record duration outcome).slots.size = w.slots.size :=
  Array.size_setIfInBounds

@[simp]
theorem minimum_record
    (w : Counted)
    (duration : Span)
    (outcome : Outcome) :
    (w.record duration outcome).minimum = w.minimum :=
  rfl

@[simp]
theorem size_ofSize (size minimum : Nat) : (ofSize size minimum).slots.size = max size 1 :=
  Array.size_replicate

@[simp]
theorem minimum_ofSize (size minimum : Nat) :
    (ofSize size minimum).minimum = min minimum (max size 1) :=
  rfl

/-- The window shows these calls, latest first: slot by slot, and in its running tally. -/
structure Shows
    (w : Counted)
    (calls : List Call) : Prop where
  head_lt : w.head < w.slots.size
  slot : ∀ age < w.slots.size,
    Ring.look w.slots w.head (age + 1) =
      some (calls[age]?.map fun c => Tally.single c.duration c.outcome)
  totals : w.totals = Tally.ofCalls (calls.take w.slots.size)

/-- A ring without calls shows none. -/
theorem shows_replicate
    {size minimum : Nat}
    (hsize : 0 < size) :
    Shows ⟨Array.replicate size none, 0, Tally.empty, minimum⟩ [] where
  head_lt := by simpa using hsize
  slot := by
    intro age hage
    rw [Array.size_replicate] at hage
    exact Ring.look_replicate hsize hage none
  totals := by
    rw [List.take_nil]
    rfl

theorem shows_ofSize (size minimum : Nat) : (ofSize size minimum).Shows [] :=
  shows_replicate (by omega)

/-- The slot that a call is recorded into holds the call that leaves the window, if any. -/
theorem Shows.slot_head
    {w : Counted}
    {calls : List Call}
    (h : w.Shows calls) :
    w.slots[w.head]? =
      some (calls[w.slots.size - 1]?.map fun c => Tally.single c.duration c.outcome) := by
  have hpos : 0 < w.slots.size := Nat.lt_of_le_of_lt (Nat.zero_le _) h.head_lt
  have holdest := h.slot (w.slots.size - 1) (by omega)
  rwa [Nat.sub_add_cancel hpos, Ring.look_size h.head_lt] at holdest

/-- The tally without the call whose slot is taken next. -/
def kept (w : Counted) : Tally :=
  match w.slots[w.head]? with
  | some (some evicted) => w.totals.remove evicted
  | _ => w.totals

/-- The tally without the call that leaves is the tally of the calls that stay. -/
theorem Shows.kept_eq
    {w : Counted}
    {calls : List Call}
    (h : w.Shows calls) :
    w.kept = Tally.ofCalls (calls.take (w.slots.size - 1)) := by
  have hpos : 0 < w.slots.size := Nat.lt_of_le_of_lt (Nat.zero_le _) h.head_lt
  have htotals := h.totals
  rw [show w.slots.size = w.slots.size - 1 + 1 by omega, List.take_add_one,
    Tally.ofCalls_append] at htotals
  unfold kept
  rw [h.slot_head, htotals]
  cases holdest : calls[w.slots.size - 1]? with
  | none => simp
  | some c =>
      simp only [Option.map_some, Option.toList_some, Tally.ofCalls_singleton, Tally.add_remove]

/-- Recording a call puts it in front of the calls shown. -/
theorem Shows.record
    {w : Counted}
    {calls : List Call}
    (h : w.Shows calls)
    (c : Call) :
    (w.record c.duration c.outcome).Shows (c :: calls) := by
  have hpos : 0 < w.slots.size := Nat.lt_of_le_of_lt (Nat.zero_le _) h.head_lt
  refine ⟨?_, ?_, ?_⟩
  · rw [size_record]
    exact Ring.next_lt h.head_lt
  · intro age hage
    rw [size_record] at hage
    have hshift :
        Ring.look (w.record c.duration c.outcome).slots
            ((w.head + 1) % (w.record c.duration c.outcome).slots.size) (age + 1) =
          Ring.look (w.record c.duration c.outcome).slots w.head age :=
      Ring.look_next (by rw [size_record]; exact h.head_lt) (by rw [size_record]; exact hage)
    rw [size_record] at hshift
    refine hshift.trans ?_
    show Ring.look (w.slots.setIfInBounds w.head (some (Tally.single c.duration c.outcome)))
      w.head age = _
    rw [Ring.look_setIfInBounds h.head_lt hage]
    cases age with
    | zero => rfl
    | succ age =>
        rw [if_neg (by omega), h.slot age (by omega)]
        rfl
  · rw [size_record]
    show w.kept.add c.duration c.outcome = _
    rw [h.kept_eq]
    obtain ⟨n, hn⟩ : ∃ n, w.slots.size = n + 1 := ⟨w.slots.size - 1, by omega⟩
    rw [hn, List.take_succ_cons, Tally.ofCalls_cons, Nat.add_sub_cancel]

/-- After a reset no call is shown. -/
theorem Shows.reset
    {w : Counted}
    {calls : List Call}
    (h : w.Shows calls) :
    w.reset.Shows [] :=
  shows_replicate (Nat.lt_of_le_of_lt (Nat.zero_le _) h.head_lt)

/-- A reader sees the counts of as many of the last calls as there are slots. -/
theorem Shows.snapshot_eq
    {w : Counted}
    {calls : List Call}
    (h : w.Shows calls) :
    w.snapshot = Snapshot.ofCalls w.minimum (calls.take w.slots.size) := by
  unfold snapshot
  rw [h.totals, Tally.snapshot_ofCalls]

end Counted
end Window
end FaultTolerance
