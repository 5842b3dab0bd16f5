import FaultTolerance.Proofs.Window.Calls

/-!
# Tallies in counters of fixed width

A window counts its calls in counters of 32 bits and adds up their durations in a counter of 128
bits.  A tally of no more calls than a 32-bit counter can hold fits, however long the calls took;
and what a window subtracts from its running tally is a part of it, so that no counter falls below
zero.

**Results.**
* `Tally.fits_ofCalls`: the tally of a list of calls fits its counters.
* `Tally.partOf_add`: a summand is part of the sum.
-/

namespace FaultTolerance
namespace Window

open Time

/-- The greatest value of a 32-bit counter. -/
abbrev maxCount : Nat := 0xFFFFFFFF

/-- The greatest value of a 128-bit counter. -/
abbrev maxNanos : Nat := 0xFFFFFFFFFFFFFFFFFFFFFFFFFFFFFFFF

namespace Tally

/-- Every count of a tally is held by its counter. -/
structure Fits (t : Tally) : Prop where
  calls : t.calls ≤ maxCount
  failed : t.failed ≤ maxCount
  slow : t.slow ≤ maxCount
  slowFailed : t.slowFailed ≤ maxCount
  nanos : t.nanos ≤ maxNanos

/-- A tally is part of another if no count of it is greater. -/
structure PartOf (part whole : Tally) : Prop where
  calls : part.calls ≤ whole.calls
  failed : part.failed ≤ whole.failed
  slow : part.slow ≤ whole.slow
  slowFailed : part.slowFailed ≤ whole.slowFailed
  nanos : part.nanos ≤ whole.nanos

/-- A summand is part of the sum. -/
theorem partOf_add (rest part : Tally) : part.PartOf (rest + part) where
  calls := Nat.le_add_left _ _
  failed := Nat.le_add_left _ _
  slow := Nat.le_add_left _ _
  slowFailed := Nat.le_add_left _ _
  nanos := Nat.le_add_left _ _

/-- Calls of any durations take no longer together than as many of the longest ones. -/
theorem sum_nanos_le (calls : List Call) :
    (calls.map fun c => c.duration.nanos).sum ≤ calls.length * (spanLimit - 1) := by
  have hbound : ∀ n ∈ calls.map fun c => c.duration.nanos, n ≤ spanLimit - 1 := by
    intro n hn
    obtain ⟨c, -, rfl⟩ := List.mem_map.mp hn
    exact Nat.le_sub_one_of_lt c.duration.bounded
  simpa using List.sum_le_card_nsmul _ _ hbound

/-- The tally of no more calls than a 32-bit counter can hold fits its counters. -/
theorem fits_ofCalls
    {calls : List Call}
    (h : calls.length ≤ maxCount) :
    (ofCalls calls).Fits where
  calls := h
  failed := le_trans List.countP_le_length h
  slow := le_trans List.countP_le_length h
  slowFailed := le_trans List.countP_le_length h
  nanos := by
    have hlongest : calls.length * (spanLimit - 1) ≤ maxCount * (spanLimit - 1) :=
      Nat.mul_le_mul_right _ h
    have hwide : maxCount * (spanLimit - 1) ≤ maxNanos := by
      decide
    exact le_trans (sum_nanos_le calls) (le_trans hlongest hwide)

end Tally

end Window
end FaultTolerance
