import FaultTolerance.Proofs.Limiter.Lag

/-!
# Clock readings that go back

A clock that is driven by hand can be set back or wrap around, and the numbers of a limiter may pair a
reading with a cell that another caller has brought on meanwhile.  The cell then bears a cycle that is
later than the present one.  The refill compares cycles modulo `2 ^ 32` and takes any difference for
cycles begun: a reading that lies a few cycles back is one that lies almost `2 ^ 32` cycles ahead, and
fills the cell.

**Results.**
* `Timing.refill_eq_self_iff`, `Timing.lt_refill_iff`: when a refill changes the count.
* `available_at_any_reading`: what a visitor finds, at any clock reading after any run.
-/

namespace FaultTolerance
namespace Limiter

open Time

namespace Timing

variable {t : Timing} {permits : Int}

section Changes

variable (hlimit : 0 < t.limit) (begun : Nat)
include hlimit

/-- A refill leaves the count alone when no cycle has begun, and when the cell is full. -/
theorem refill_eq_self_iff : t.refill permits begun = permits ↔ begun = 0 ∨ permits = t.limit := by
  unfold refill
  split_ifs with hnone
  · exact iff_of_true rfl (Or.inl hnone)
  · have hrefill : 0 < begun * t.limit :=
      Nat.mul_pos (Nat.pos_of_ne_zero hnone) hlimit
    omega

/-- A refill raises the count when a cycle has begun and the cell is not full. -/
theorem lt_refill_iff : permits < t.refill permits begun ↔ begun ≠ 0 ∧ permits < t.limit := by
  unfold refill
  split_ifs with hnone
  · exact iff_of_false (lt_irrefl permits) fun hbegun => hbegun.1 hnone
  · have hrefill : 0 < begun * t.limit :=
      Nat.mul_pos (Nat.pos_of_ne_zero hnone) hlimit
    omega

/-- More cycles than permits can be promised fill the cell. -/
theorem refill_eq_limit
    (hfloor : minPermits ≤ permits)
    (hmany : 2 ^ 31 < begun) :
    t.refill permits begun = t.limit := by
  unfold refill
  have hcovered : (2 ^ 31 + 1) * t.limit ≤ begun * t.limit :=
    Nat.mul_le_mul_right _ hmany
  rw [if_neg (by omega), min_eq_right_iff]
  simp only [minPermits] at hfloor
  omega

end Changes
end Timing

/-- **Clock readings that go back.**  In every run with any new settings and any clock readings, let
`stored` be what the last caller left that asked for a permit or handed one back, `cycle` the cycle of
its clock reading, and `present` the cycle of any reading now.  The numbers of the limiter, the next
caller that asks and the next one that hands back all find the same count, refilled for the difference
of the two cycles modulo `2 ^ 32`.  When the present cycle is not later than that of the cell, this is
the stored count exactly when the cycles agree modulo `2 ^ 32` or the cell was full, and permits are
minted exactly when they do not agree and it was not; a step back of less than `2 ^ 31` cycles fills
the cell. -/
theorem available_at_any_reading
    {name : String}
    {config : Config}
    {start : Nat}
    {l : Limiter}
    (hcreate : create name config start = .ok l)
    (moves : List (Nat × Move))
    {s : Limiter}
    (hplay : ((Ledger.opened l).play moves).limiter = s)
    (now : Nat) :
    let limit : Int := s.timing.limit
    let stored := s.cell.permits
    let cycle := (Ledger.opened l).cycleAfter 0 moves
    let present := s.timing.cycleAt now
    let gap : Int := (present - cycle) % 2 ^ 32
    let found := (s.metrics now).available
    (found = if gap = 0 then stored else min (stored + gap * limit) limit) ∧
      (∀ timeout, (s.claim now timeout).1 =
        ⟨s.timing.wait found now, decide (s.timing.wait found now ≤ timeout)⟩) ∧
      (s.restore now).cell.permits = min (found + 1) limit ∧
      (present ≤ cycle → (found = stored ↔ 2 ^ 32 ∣ cycle - present ∨ stored = limit)) ∧
      (present ≤ cycle → (stored < found ↔ ¬ 2 ^ 32 ∣ cycle - present ∧ stored < limit)) ∧
      (present < cycle → cycle - present < 2 ^ 31 → found = limit) := by
  intro limit stored cycle present gap found
  have hdated : s.Dated cycle := Ledger.dated_opened hcreate moves hplay
  have hgap : 0 ≤ gap := Int.emod_nonneg _ (by decide)
  have hfound : found = s.timing.refill stored gap.toNat := hdated.available_eq now
  -- Going back, the cycles agree when the step is a whole number of laps.
  have hlaps (hback : present ≤ cycle) : gap.toNat = 0 ↔ 2 ^ 32 ∣ cycle - present := by
    omega
  refine ⟨?_, fun timeout => claim_answer now s timeout, restore_permits now hdated.limit_le, ?_, ?_, ?_⟩
  · have hrefill : ((gap.toNat * s.timing.limit : Nat) : Int) = gap * limit := by
      rw [Nat.cast_mul, Int.toNat_of_nonneg hgap]
    rw [hfound]
    unfold Timing.refill
    rw [hrefill]
    exact if_congr (by omega) rfl rfl
  · intro hback
    rw [hfound, Timing.refill_eq_self_iff hdated.limit_pos, hlaps hback]
  · intro hback
    rw [hfound, Timing.lt_refill_iff hdated.limit_pos, ← hlaps hback]
  · intro hback hnear
    rw [hfound, Timing.refill_eq_limit hdated.limit_pos _ hdated.floor (by omega)]

/-- One permit a millisecond, taken in the second cycle.  With the clock set back to its start one
permit is at hand again, and is taken at once. -/
theorem available_at_any_reading_back :
    let l : Limiter := ⟨"line", ⟨1, 1000000, Span.zero, 0, 0⟩, ⟨0, 1⟩, 0⟩
    let moves : List (Nat × Move) := [(1000000, .acquire .zero)]
    let s := ((Ledger.opened l).play moves).limiter
    create "line" ⟨1, Span.ofMillis 1, Span.zero⟩ 0 = .ok l ∧
      s.cell.permits = 0 ∧
      s.timing.cycleAt 0 < (Ledger.opened l).cycleAfter 0 moves ∧
      (s.metrics 0).available = 1 ∧
      (s.claim 0 0).1 = ⟨0, true⟩ := by
  intro l moves s
  have hcreate : create "line" ⟨1, Span.ofMillis 1, Span.zero⟩ 0 = .ok l := rfl
  have hback : s.timing.cycleAt 0 < (Ledger.opened l).cycleAfter 0 moves := by
    decide +kernel
  obtain ⟨-, hasked, -, -, -, hfull⟩ := available_at_any_reading hcreate moves rfl 0
  have hfound : (s.metrics 0).available = 1 :=
    (hfull hback (by decide +kernel)).trans (by decide +kernel)
  refine ⟨hcreate, by decide +kernel, hback, hfound, ?_⟩
  rw [hasked 0, hfound]
  rfl

end Limiter
end FaultTolerance
