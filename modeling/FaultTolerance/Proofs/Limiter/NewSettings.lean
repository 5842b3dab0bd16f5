import FaultTolerance.Proofs.Limiter.Lag

/-!
# New settings and the permits at hand

A new wait and a new period leave the permits at hand alone: the present cycle goes on, and ends one
new period after the change.  A new limit does so too when the cell stands in the present cycle, and
is then seen from the next refill on.  A cell that trails the clock has its pending refill computed
with the new limit, so that the permits at hand change with it.

**Results.**
* `min_refill_inj`: a refill by another limit gives another count.
* `new_settings_at_hand`: the permits at hand before and after new settings.
-/

namespace FaultTolerance
namespace Limiter

open Time

/-- Once a cycle has begun, a refill by another limit gives another count. -/
theorem min_refill_inj
    {permits : Int}
    {begun first second : Nat}
    (hbegun : begun ≠ 0) :
    min (permits + (begun * first : Nat)) (first : Int) =
        min (permits + (begun * second : Nat)) (second : Int) ↔
      first = second := by
  constructor
  · intro hsame
    rcases Nat.lt_trichotomy first second with hless | heq | hmore
    · have hrefill : begun * first < begun * second :=
        Nat.mul_lt_mul_of_pos_left hless (Nat.pos_of_ne_zero hbegun)
      omega
    · exact heq
    · have hrefill : begun * second < begun * first :=
        Nat.mul_lt_mul_of_pos_left hmore (Nat.pos_of_ne_zero hbegun)
      omega
  · rintro rfl
    rfl

namespace Trails

variable {l : Limiter} {cycle now : Nat} (h : l.Trails cycle now)
include h

/-- Cycles that are counted anew from the present one leave the permits at hand alone. -/
theorem available_recycled
    {period : Nat}
    (hperiod : 0 < period) :
    (Limiter.metrics
        { l with
          timing :=
            { l.timing with epochCycle := l.timing.cycleAt now, epoch := now, period } }
        now).available =
      (l.metrics now).available := by
  have hpresent :
      Timing.cycleAt
          { l.timing with epochCycle := l.timing.cycleAt now, epoch := now, period } now =
        l.timing.cycleAt now := by
    show l.timing.cycleAt now + (now - now) / period = _
    rw [Nat.sub_self, Nat.zero_div, Nat.add_zero]
  rw [(h.recycled hperiod).available_eq, h.available_eq, hpresent]
  rfl

section Limited

variable {limit : Nat} (hpositive : 0 < limit) (hlimit : limit ≤ maxLimit)
include hpositive hlimit

/-- Another limit leaves the permits at hand alone exactly when no refill is pending. -/
theorem available_limited_iff :
    (Limiter.metrics { l with timing := { l.timing with limit } } now).available =
        (l.metrics now).available ↔
      limit = l.timing.limit ∨ (l.timing.cycleAt now - cycle) % 2 ^ 32 = 0 := by
  rw [(h.limited hpositive hlimit).available_eq, h.available_eq]
  show Timing.refill _ l.cell.permits ((l.timing.cycleAt now - cycle) % 2 ^ 32) = _ ↔ _
  unfold Timing.refill
  by_cases hcurrent : (l.timing.cycleAt now - cycle) % 2 ^ 32 = 0
  · rw [if_pos hcurrent, if_pos hcurrent]
    exact iff_of_true rfl (Or.inr hcurrent)
  · rw [if_neg hcurrent, if_neg hcurrent, min_refill_inj hcurrent]
    exact (or_iff_left hcurrent).symm

/-- When no refill is pending, another limit is seen from the next refill on. -/
theorem available_limited_later
    (hcurrent : (l.timing.cycleAt now - cycle) % 2 ^ 32 = 0)
    {later : Nat}
    (hlater : now ≤ later) :
    (Limiter.metrics { l with timing := { l.timing with limit } } later).available =
      Timing.refill { l.timing with limit } (l.metrics now).available
        ((l.timing.cycleAt later - l.timing.cycleAt now) % 2 ^ 32) := by
  have hreached := h.reached
  have hmono := l.timing.cycleAt_mono hlater
  have hnone : (l.metrics now).available = l.cell.permits := by
    rw [h.available_eq, hcurrent]
    rfl
  have hbegun :
      (l.timing.cycleAt later - cycle) % 2 ^ 32 =
        (l.timing.cycleAt later - l.timing.cycleAt now) % 2 ^ 32 := by
    omega
  rw [((h.limited hpositive hlimit).later hlater).available_eq, hnone, ← hbegun]
  rfl

end Limited
end Trails

/-- **New settings.**  In every run with any earlier settings, in which the clock does not go back, let
the settings be changed at `now`.  A change that is refused changes nothing.  A new wait leaves all the
numbers alone.  A new period leaves the permits at hand alone, and the present cycle ends one new
period later, as does every cycle after it.  A new limit leaves the permits at hand alone exactly when
it is the old limit or no refill is pending, that is, when no cycle has begun, modulo `2 ^ 32`, since
the last caller asked for a permit or handed one back; in the latter case it is seen from the next
refill on. -/
theorem new_settings_at_hand
    {name : String}
    {config : Config}
    {start now : Nat}
    {l : Limiter}
    (hcreate : create name config start = .ok l)
    (moves : List (Nat × Move))
    (hclock : (start :: (moves.map Prod.fst ++ [now])).Pairwise (· ≤ ·))
    {s : Limiter}
    (hplay : ((Ledger.opened l).play moves).limiter = s)
    (draw : Numeric.Binary64) :
    let r : Reading := ⟨now, draw⟩
    let pending := (s.timing.cycleAt now - (Ledger.opened l).cycleAfter 0 moves) % 2 ^ 32
    (∀ timeout, ((changeTimeout timeout).run r s).2.1.metrics now = s.metrics now) ∧
      (∀ period answer after events,
        (changePeriod period).run r s = (answer, after, events) →
        (after.metrics now).available = (s.metrics now).available ∧
          (answer ≠ .ok () → after = s) ∧
          (answer = .ok () → ∀ later, now ≤ later →
            after.timing.cycleAt later =
              s.timing.cycleAt now + (later - now) / period.ticks)) ∧
      ∀ limit answer after events,
        (changeLimit limit).run r s = (answer, after, events) →
        (answer ≠ .ok () → after = s) ∧
          (answer = .ok () →
            ((after.metrics now).available = (s.metrics now).available ↔
              limit = s.timing.limit ∨ pending = 0)) ∧
          (answer = .ok () → pending = 0 → ∀ later, now ≤ later →
            let begun := (s.timing.cycleAt later - s.timing.cycleAt now) % 2 ^ 32
            (after.metrics later).available =
              if begun = 0 then (s.metrics now).available
              else min ((s.metrics now).available + (begun * limit : Nat)) limit) := by
  intro r pending
  have htrails : s.Trails ((Ledger.opened l).cycleAfter 0 moves) now :=
    Ledger.trails_opened hcreate moves hclock hplay
  refine ⟨fun _ => rfl, ?_, ?_⟩
  · intro period answer after events hrun
    rcases changePeriod_cases r s period with ⟨hperiod, heq⟩ | ⟨e, heq⟩
    · cases heq.symm.trans hrun
      exact ⟨htrails.available_recycled hperiod, fun hno => absurd rfl hno, fun _ _ _ => rfl⟩
    · cases heq.symm.trans hrun
      exact ⟨rfl, fun _ => rfl, nofun⟩
  · intro limit answer after events hrun
    rcases changeLimit_cases r s limit with ⟨⟨hpositive, hlimit⟩, heq⟩ | ⟨e, heq⟩
    · cases heq.symm.trans hrun
      refine ⟨fun hno => absurd rfl hno, fun _ => ?_, fun _ hcurrent later hlater => ?_⟩
      · exact htrails.available_limited_iff hpositive hlimit
      · exact htrails.available_limited_later hpositive hlimit hcurrent hlater
    · cases heq.symm.trans hrun
      exact ⟨fun _ => rfl, nofun, nofun⟩

/-- One permit a millisecond, taken at once.  In the next cycle one permit is at hand, and a new limit
of three makes it three at the same clock reading. -/
theorem new_settings_at_hand_pending :
    let l : Limiter := ⟨"line", ⟨1, 1000000, Span.zero, 0, 0⟩, ⟨0, 1⟩, 0⟩
    let moves : List (Nat × Move) := [(0, .acquire .zero)]
    let s := ((Ledger.opened l).play moves).limiter
    let r : Reading := ⟨1000000, .zero false⟩
    let after := ((changeLimit 3).run r s).2.1
    create "line" ⟨1, Span.ofMillis 1, Span.zero⟩ 0 = .ok l ∧
      ((changeLimit 3).run r s).1 = .ok () ∧
      (s.metrics 1000000).available = 1 ∧ (after.metrics 1000000).available = 3 ∧
      ¬ (after.metrics 1000000).available = (s.metrics 1000000).available := by
  intro l moves s r after
  have hcreate : create "line" ⟨1, Span.ofMillis 1, Span.zero⟩ 0 = .ok l := rfl
  have hclock : (0 :: (moves.map Prod.fst ++ [1000000])).Pairwise (· ≤ ·) := by
    decide +kernel
  have haccepted : ((changeLimit 3).run r s).1 = .ok () := rfl
  obtain ⟨-, -, hlimit⟩ := new_settings_at_hand hcreate moves hclock rfl (.zero false)
  obtain ⟨-, hchange, -⟩ := hlimit 3 _ _ _ rfl
  exact ⟨hcreate, haccepted, by decide +kernel, by decide +kernel,
    mt (hchange haccepted).mp (by decide +kernel)⟩

end Limiter
end FaultTolerance
