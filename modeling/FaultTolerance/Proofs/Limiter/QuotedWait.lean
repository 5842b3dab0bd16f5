import FaultTolerance.Proofs.Limiter.Lag
import FaultTolerance.Proofs.Limiter.NoTrace

/-!
# The quoted wait

The numbers of a limiter quote a wait to whoever would come next.  The wait is computed in closed
form from the count and the phase of the present cycle, and it is the first instant at which refills
leave a permit: a caller that comes then, and does not wait, gets one.  The one exception is a cell
whose cycles begun since it was last brought on complete a lap of `2 ^ 32` in the meantime: those
are not refilled.

**Results.**
* `Timing.fullWait_le_iff`: the wait is over exactly when the cycles begun cover a permit.
* `runIn_acquire_zero`, `runIn_acquireLater_zero`: who does not wait is served if a permit is left.
* `quoted_wait_exact`: what becomes of a quoted wait.
-/

namespace FaultTolerance
namespace Limiter

open Time

namespace Timing

/-- The full wait is over exactly when the limits of the cycles begun by then exceed the permits that
are promised. -/
theorem fullWait_le_iff
    (t : Timing)
    (permits : Int)
    {now : Nat}
    (hlimit : 0 < t.limit)
    (hperiod : 0 < t.period)
    (hepoch : t.epoch ≤ now)
    (delay : Nat) :
    t.fullWait permits now ≤ delay ↔
      0 < permits + ((t.cycleAt (now + delay) - t.cycleAt now) * t.limit : Nat) := by
  by_cases hleft : 0 < permits
  · have hnone : t.fullWait permits now = 0 := if_pos hleft
    rw [hnone]
    exact iff_of_true (Nat.zero_le delay) (by omega)
  · -- The wait is over as soon as the slot has begun.
    have hbegun : t.fullWait permits now ≤ delay ↔ t.slot permits now ≤ t.cycleAt (now + delay) := by
      constructor
      · intro hover
        rw [← t.cycleAt_add_fullWait permits hperiod hepoch]
        exact t.cycleAt_mono (Nat.add_le_add_left hover now)
      · intro hslot
        have hover := t.add_fullWait_le hperiod (not_lt.mp hleft) hepoch hslot
        omega
    have hslot : t.slot permits now = t.cycleAt now + 1 + permits.natAbs / t.limit :=
      if_neg hleft
    have hcovered :
        permits.natAbs / t.limit < t.cycleAt (now + delay) - t.cycleAt now ↔
          permits.natAbs < (t.cycleAt (now + delay) - t.cycleAt now) * t.limit :=
      Nat.div_lt_iff_lt_mul hlimit
    rw [hbegun, hslot]
    generalize permits.natAbs / t.limit = whole at hcovered ⊢
    omega

/-- A wait is quoted exactly to those who find no permit. -/
theorem wait_eq_zero_iff
    (t : Timing)
    (permits : Int)
    (now : Nat)
    (hperiod : 0 < t.period) :
    t.wait permits now = 0 ↔ 0 < permits := by
  constructor
  · intro hnone
    by_contra hleft
    have hmod : (now - t.epoch) % t.period < t.period :=
      Nat.mod_lt _ hperiod
    rw [wait_eq_min_fullWait] at hnone
    unfold fullWait at hnone
    rw [if_neg hleft] at hnone
    simp only [toNextCycle, maxTicks] at hnone
    omega
  · exact fun hleft => if_pos hleft

end Timing

/-! ### Callers that do not wait -/

section NoWaiting

variable {ω : Type} {site : Site ω Limiter Event} (hsite : site.Steady) {world : ω}

/-- Who does not wait takes a permit if one is left, and is refused otherwise. -/
theorem claim_zero_cases
    {l : Limiter}
    (hperiod : 0 < l.timing.period)
    (now : Nat) :
    (0 < (l.freshCell now).permits ∧ ∃ after, l.claim now Span.zero.ticks = (⟨0, true⟩, after)) ∨
      (¬ 0 < (l.freshCell now).permits ∧
        ∃ wait after, l.claim now Span.zero.ticks = (⟨wait, false⟩, after)) := by
  have hnone := l.timing.wait_eq_zero_iff (l.freshCell now).permits now hperiod
  by_cases hleft : 0 < (l.freshCell now).permits
  · left
    have hfits : l.timing.wait (l.freshCell now).permits now ≤ Span.zero.ticks :=
      (hnone.mpr hleft).le
    refine ⟨hleft, l.setCell (l.freshCell now).take, ?_⟩
    rw [claim_of_fits now hfits, hnone.mpr hleft]
  · right
    have hlate : ¬ l.timing.wait (l.freshCell now).permits now ≤ Span.zero.ticks := by
      show ¬ _ ≤ 0
      rwa [Nat.le_zero, hnone]
    exact ⟨hleft, _, _, claim_of_late now hlate⟩

include hsite

/-- A caller that would block, but not for any time, is served exactly when a permit is left. -/
theorem runIn_acquire_zero
    (hperiod : 0 < (site.view world).timing.period)
    (pause : Span → Activity ω Bool) :
    ((acquire site pause .zero).runIn world).1 = .ok (.ok ()) ↔
      0 < ((site.view world).freshCell (site.reading world).now).permits := by
  unfold acquire
  rw [Activity.runIn_bind_ok (Site.runIn_visit site _ world)]
  rcases claim_zero_cases hperiod (site.reading world).now with
    ⟨hleft, l, hclaim⟩ | ⟨hleft, wait, l, hclaim⟩
  · obtain ⟨heard, hheard, -⟩ := hsite.announce .successfulAcquire (site.store l world)
    rw [hclaim]
    dsimp only
    rw [if_pos (by simp), Activity.runIn_bind_ok hheard]
    exact iff_of_true rfl hleft
  · have hblock :
        (block site pause (min wait Span.zero.ticks)).runIn (site.store l world) =
          (.ok false, site.store l world) := by
      rw [show min wait Span.zero.ticks = 0 from Nat.min_zero wait]
      rfl
    obtain ⟨heard, hheard, -⟩ := hsite.announce .failedAcquire (site.store l world)
    rw [hclaim]
    dsimp only
    rw [if_neg (by simp), Activity.runIn_bind_ok hblock, if_neg (by simp), if_neg (by simp),
      Activity.runIn_bind_ok hheard]
    refine iff_of_false ?_ hleft
    intro hserved
    cases hserved

/-- A caller that would sleep on a scheduler, but not for any time, is served exactly when a permit is
left. -/
theorem runIn_acquireLater_zero
    (hperiod : 0 < (site.view world).timing.period)
    (sleep : Span → Activity ω Unit) :
    ((acquireLater site sleep .zero).runIn world).1 = .ok (.ok ()) ↔
      0 < ((site.view world).freshCell (site.reading world).now).permits := by
  unfold acquireLater
  rcases claim_zero_cases hperiod (site.reading world).now with
    ⟨hleft, l, hclaim⟩ | ⟨hleft, wait, l, hclaim⟩
  · obtain ⟨reserved, hreserve, -⟩ := runIn_reserve hsite hclaim
    rw [Activity.runIn_bind_ok hreserve]
    exact iff_of_true rfl hleft
  · obtain ⟨reserved, hreserve, -⟩ := runIn_reserve hsite hclaim
    rw [Activity.runIn_bind_ok hreserve]
    refine iff_of_false ?_ hleft
    intro hserved
    cases hserved

end NoWaiting

/-- After some delay without a visit a permit is left exactly when the wait quoted before is over, as
long as the cycles begun complete no lap. -/
theorem Trails.permits_pos_iff
    {l : Limiter}
    {cycle now : Nat}
    (h : l.Trails cycle now)
    (hquote : l.timing.fullWait (l.metrics now).available now ≤ maxTicks)
    (delay : Nat) :
    let behind := (l.timing.cycleAt now - cycle) % 2 ^ 32
    let begun := behind + (l.timing.cycleAt (now + delay) - l.timing.cycleAt now)
    0 < (l.freshCell (now + delay)).permits ↔
      (l.metrics now).wait ≤ delay ∧
        (begun < 2 ^ 32 ∨ 0 < l.cell.permits + (begun % 2 ^ 32 * l.timing.limit : Nat)) := by
  intro behind begun
  have hmono := l.timing.cycleAt_mono (Nat.le_add_right now delay)
  have hreached := h.reached
  have hfound : (l.metrics now).available = l.timing.refill l.cell.permits behind :=
    congrArg Cell.permits h.freshCell_eq
  -- The cycles begun by then, all of them and modulo a lap.
  have hlag : (l.timing.cycleAt (now + delay) - cycle) % 2 ^ 32 = begun % 2 ^ 32 := by
    omega
  have hlater :
      0 < (l.freshCell (now + delay)).permits ↔
        0 < l.cell.permits + (begun % 2 ^ 32 * l.timing.limit : Nat) := by
    rw [(h.later (Nat.le_add_right now delay)).freshCell_eq, hlag]
    exact Timing.refill_pos_iff h.limit_pos _ _
  have hover :
      (l.metrics now).wait ≤ delay ↔ 0 < l.cell.permits + (begun * l.timing.limit : Nat) := by
    have hwait : (l.metrics now).wait = l.timing.fullWait (l.metrics now).available now := by
      show l.timing.wait _ now = _
      rw [Timing.wait_eq_min_fullWait]
      exact min_eq_left hquote
    rw [hwait, Timing.fullWait_le_iff _ _ h.limit_pos h.period_pos h.epoch_le,
      ← Timing.refill_pos_iff h.limit_pos, ← Timing.refill_pos_iff h.limit_pos, hfound,
      Timing.refill_refill]
  rw [hlater, hover]
  by_cases hlap : begun < 2 ^ 32
  · rw [Nat.mod_eq_of_lt hlap]
    exact (and_iff_left (Or.inl hlap)).symm
  · -- A lap covers every promised permit.
    have hcovered : 2 ^ 32 * l.timing.limit ≤ begun * l.timing.limit :=
      Nat.mul_le_mul_right _ (not_lt.mp hlap)
    have hfloor := h.floor
    have hlimit := h.limit_pos
    simp only [minPermits] at hfloor
    rw [or_iff_right hlap]
    exact (and_iff_right (by omega)).symm

/-- A reservation succeeds with exactly the quoted wait, if the caller accepts that much. -/
theorem reserve_answer
    (timeout : Span)
    (r : Reading)
    (l : Limiter) :
    ((reserve timeout).run r l).1 =
      if (l.metrics r.now).wait ≤ timeout.nanos then .ok (Span.clip (l.metrics r.now).wait)
      else .error l.notPermitted := by
  have hquoted : (l.metrics r.now).wait = l.timing.wait (l.freshCell r.now).permits r.now := rfl
  have hticks : (l.metrics r.now).wait ≤ timeout.ticks ↔ (l.metrics r.now).wait ≤ timeout.nanos := by
    rw [hquoted, Timing.wait_eq_min_fullWait]
    unfold Span.ticks
    omega
  simp only [reserve, Operation.run, Operation.ofStep]
  by_cases hfits : (l.metrics r.now).wait ≤ timeout.ticks
  · rw [if_pos (hticks.mp hfits), claim_of_fits r.now hfits, hquoted]
    rfl
  · rw [if_neg (mt hticks.mpr hfits), claim_of_late r.now hfits]
    rfl

/-- **The quoted wait.**  In every run with any new settings, in which the clock does not go back, let
the numbers of the limiter quote a wait at `now` that was not cut off.  If nobody asks for a permit or
hands one back from then on, a caller that comes after some delay and does not wait is served exactly
when the delay is not below that wait, except that the cycles begun since the cell was last brought on
are counted modulo `2 ^ 32`: once they complete a lap it is served only when those since the lap leave
a permit.  A reservation made at `now` succeeds exactly when it accepts the wait, and then with that
wait. -/
theorem quoted_wait_exact
    {ω : Type}
    {site : Site ω Limiter Event}
    (hsite : site.Steady)
    {name : String}
    {config : Config}
    {start now : Nat}
    {l : Limiter}
    (hcreate : create name config start = .ok l)
    (moves : List (Nat × Move))
    (hclock : (start :: (moves.map Prod.fst ++ [now])).Pairwise (· ≤ ·))
    {s : Limiter}
    (hplay : ((Ledger.opened l).play moves).limiter = s)
    (hquote : s.timing.fullWait (s.metrics now).available now ≤ maxTicks)
    (delay waiting : Nat)
    {world : ω}
    (hworld : site.view world = { s with waiting })
    (hlater : (site.reading world).now = now + delay)
    (pause : Span → Activity ω Bool)
    (sleep : Span → Activity ω Unit) :
    let wait := (s.metrics now).wait
    let behind := (s.timing.cycleAt now - (Ledger.opened l).cycleAfter 0 moves) % 2 ^ 32
    let begun := behind + (s.timing.cycleAt (now + delay) - s.timing.cycleAt now)
    let served := wait ≤ delay ∧
      (begun < 2 ^ 32 ∨ 0 < s.cell.permits + (begun % 2 ^ 32 * s.timing.limit : Nat))
    (((acquire site pause .zero).runIn world).1 = .ok (.ok ()) ↔ served) ∧
      (((acquireLater site sleep .zero).runIn world).1 = .ok (.ok ()) ↔ served) ∧
      ∀ timeout draw, ((reserve timeout).run ⟨now, draw⟩ s).1 =
        if wait ≤ timeout.nanos then .ok (Span.clip wait) else .error s.notPermitted := by
  intro wait behind begun served
  have htrails : s.Trails ((Ledger.opened l).cycleAfter 0 moves) now :=
    Ledger.trails_opened hcreate moves hclock hplay
  have hperiod : 0 < (site.view world).timing.period := by
    rw [hworld]
    exact htrails.period_pos
  have hleft : 0 < ((site.view world).freshCell (site.reading world).now).permits ↔ served := by
    rw [hworld, hlater]
    exact htrails.permits_pos_iff hquote delay
  refine ⟨?_, ?_, fun timeout draw => reserve_answer timeout ⟨now, draw⟩ s⟩
  · rw [runIn_acquire_zero hsite hperiod, hleft]
  · rw [runIn_acquireLater_zero hsite hperiod, hleft]

/-- One permit a millisecond, taken a nanosecond after the start.  The wait quoted then is exact in the
next cycle, and is over as well when the clock reads `2 ^ 32` milliseconds, but there is no permit. -/
theorem quoted_wait_exact_lap :
    let l : Limiter := ⟨"line", ⟨1, 1000000, Span.zero, 0, 0⟩, ⟨0, 1⟩, 0⟩
    let moves : List (Nat × Move) := [(1, .acquire .zero)]
    let s := ((Ledger.opened l).play moves).limiter
    let pause (_ : Span) : Activity (Limiter × Nat) Bool := pure false
    create "line" ⟨1, Span.ofMillis 1, Span.zero⟩ 0 = .ok l ∧
      (s.metrics 1).wait = 999999 ∧
      ((acquire clocked pause .zero).runIn (s, 1 + 999999)).1 = .ok (.ok ()) ∧
      ((acquire clocked pause .zero).runIn (s, 1 + (2 ^ 32 * 1000000 - 1))).1 ≠ .ok (.ok ()) := by
  intro l moves s pause
  have hcreate : create "line" ⟨1, Span.ofMillis 1, Span.zero⟩ 0 = .ok l := rfl
  have hclock : (0 :: (moves.map Prod.fst ++ [1])).Pairwise (· ≤ ·) := by
    decide +kernel
  have hquote : s.timing.fullWait (s.metrics 1).available 1 ≤ maxTicks := by
    decide +kernel
  have hserved (delay : Nat) :=
    quoted_wait_exact steady_clocked hcreate moves hclock rfl hquote delay s.waiting
      (show clocked.view (s, 1 + delay) = _ from rfl) rfl pause fun _ => pure ()
  refine ⟨hcreate, by decide +kernel, (hserved 999999).1.mpr (by decide +kernel), ?_⟩
  exact mt (hserved (2 ^ 32 * 1000000 - 1)).1.mp (by decide +kernel)

end Limiter
end FaultTolerance
