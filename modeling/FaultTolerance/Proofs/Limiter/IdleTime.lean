import FaultTolerance.Proofs.Limiter.Lag

/-!
# Refills after idle time

While nobody asks for a permit or hands one back, cycles begin and nothing is refilled.  The next
visitor makes up for them: it finds one limit more for each of them, up to one limit in all, where
the cycles are counted modulo `2 ^ 32`.  After a whole lap of that count it finds what was left.

**Results.**
* `lapped_eq_iff`: when the cycles modulo `2 ^ 32` do as well as the cycles.
* `available_after_idle`: what the next visitor finds.
-/

namespace FaultTolerance
namespace Limiter

open Time

/-- The cycles begun do as well modulo `2 ^ 32`, unless a lap was completed and those begun since do
not fill the cell. -/
theorem lapped_eq_iff
    {permits : Int}
    {limit : Nat}
    (hlimit : 0 < limit)
    (hfloor : minPermits ≤ permits)
    (begun : Nat) :
    min (permits + (begun % 2 ^ 32 * limit : Nat)) limit =
        min (permits + (begun * limit : Nat)) (limit : Int) ↔
      begun < 2 ^ 32 ∨ (limit : Int) ≤ permits + (begun % 2 ^ 32 * limit : Nat) := by
  by_cases hlap : begun < 2 ^ 32
  · rw [Nat.mod_eq_of_lt hlap]
    exact iff_of_true rfl (Or.inl hlap)
  · -- A lap fills the cell from any count.
    have hfilled : 2 ^ 32 * limit ≤ begun * limit :=
      Nat.mul_le_mul_right _ (not_lt.mp hlap)
    simp only [minPermits] at hfloor
    rw [min_eq_right (show (limit : Int) ≤ permits + (begun * limit : Nat) by omega),
      min_eq_right_iff]
    exact (or_iff_right hlap).symm

/-- **Refills after idle time.**  In every run with any new settings, in which the clock does not go
back, let `permits` be what the last caller left that asked for a permit or handed one back, and
`begun` the number of refill cycles begun since.  If `permits` does not exceed the limit in force, the
numbers of the limiter, the next caller that asks and the next one that hands back all find the same:
one limit more for each of these cycles counted modulo `2 ^ 32`, up to one limit in all.  This is what
all of the cycles would give exactly when fewer than `2 ^ 32` have begun, or those begun since the
last lap fill the cell.  Until then the numbers also grow so between any two readings. -/
theorem available_after_idle
    {name : String}
    {config : Config}
    {start read now : Nat}
    {l : Limiter}
    (hcreate : create name config start = .ok l)
    (moves : List (Nat × Move))
    (hclock : (start :: (moves.map Prod.fst ++ [read, now])).Pairwise (· ≤ ·))
    {s : Limiter}
    (hplay : ((Ledger.opened l).play moves).limiter = s)
    (hcapped : s.cell.permits ≤ s.timing.limit) :
    let limit := s.timing.limit
    let permits := s.cell.permits
    let begun := s.timing.cycleAt now - (Ledger.opened l).cycleAfter 0 moves
    let found := min (permits + (begun % 2 ^ 32 * limit : Nat)) limit
    (s.metrics now).available = found ∧
      (∀ timeout, (s.claim now timeout).1 =
        ⟨s.timing.wait found now, decide (s.timing.wait found now ≤ timeout)⟩) ∧
      (s.restore now).cell.permits = min (found + 1) limit ∧
      (found = min (permits + (begun * limit : Nat)) limit ↔
        begun < 2 ^ 32 ∨ limit ≤ permits + (begun % 2 ^ 32 * limit : Nat)) ∧
      (begun < 2 ^ 32 →
        (s.metrics now).available =
          min ((s.metrics read).available +
            ((s.timing.cycleAt now - s.timing.cycleAt read) * limit : Nat)) limit) := by
  intro limit permits begun found
  have hread : read ≤ now := by
    rw [← List.cons_append, List.pairwise_append, List.pairwise_pair] at hclock
    exact hclock.2.1
  have hearlier : (start :: (moves.map Prod.fst ++ [read])).Pairwise (· ≤ ·) := by
    refine hclock.sublist (.cons_cons _ (List.Sublist.append_left ?_ _))
    simp
  have htrails : s.Trails ((Ledger.opened l).cycleAfter 0 moves) read :=
    Ledger.trails_opened hcreate moves hearlier hplay
  have hlate := htrails.later hread
  have hfound : (s.freshCell now).permits = found := by
    rw [hlate.freshCell_eq]
    exact Timing.refill_of_le hcapped _
  refine ⟨hfound, ?_, ?_, lapped_eq_iff hlate.limit_pos hlate.floor begun, ?_⟩
  · intro timeout
    rw [claim_answer, hfound]
  · rw [restore_permits now hlate.limit_le, hfound]
  · intro hlap
    have hreading : (s.metrics read).available ≤ s.timing.limit := by
      rw [htrails.available_eq, Timing.refill_of_le hcapped]
      exact min_le_right _ _
    have hreached := hlate.reached
    rw [htrails.available_refill hread (by omega), Timing.refill_of_le hreading]

/-- One permit a millisecond, taken at once.  When exactly `2 ^ 32` milliseconds have gone by, the
limiter is as empty as before. -/
theorem available_after_idle_lap :
    let l : Limiter := ⟨"line", ⟨1, 1000000, Span.zero, 0, 0⟩, ⟨0, 1⟩, 0⟩
    let moves : List (Nat × Move) := [(0, .acquire .zero)]
    let s := ((Ledger.opened l).play moves).limiter
    let now := 2 ^ 32 * 1000000
    create "line" ⟨1, Span.ofMillis 1, Span.zero⟩ 0 = .ok l ∧
      s.cell.permits = 0 ∧
      s.timing.cycleAt now - (Ledger.opened l).cycleAfter 0 moves = 2 ^ 32 ∧
      (s.metrics now).available = 0 ∧
      (s.claim now 0).1 = ⟨1000000, false⟩ := by
  intro l moves s now
  have hcreate : create "line" ⟨1, Span.ofMillis 1, Span.zero⟩ 0 = .ok l := rfl
  have hclock : (0 :: (moves.map Prod.fst ++ [now, now])).Pairwise (· ≤ ·) := by
    decide +kernel
  obtain ⟨hfound, hasked, -⟩ := available_after_idle hcreate moves hclock rfl (by decide +kernel)
  refine ⟨hcreate, by decide +kernel, by decide +kernel, hfound.trans (by decide +kernel), ?_⟩
  exact (hasked 0).trans (by decide +kernel)

end Limiter
end FaultTolerance
