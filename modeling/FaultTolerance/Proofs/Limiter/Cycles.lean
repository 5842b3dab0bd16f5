import FaultTolerance.Limiter.Basic
import Mathlib.Tactic

/-!
# Cycles, waits and refills

Arithmetic of a rate limiter with fixed settings.

A caller that finds `permits` permits is quoted a wait that ends in a definite refill cycle, its
slot: the present cycle while permits are left, and otherwise the next cycle plus one more for each
limit's worth of promised permits.  A refill adds at most one limit for each cycle that has begun,
also when the stored low bits of the cycle have wrapped around.

**Results.**
* `Timing.cycleAt_add_wait`: the quoted wait ends in the caller's slot.
* `Timing.add_fullWait_le`: as soon as the slot begins, for a caller that finds no permit.
* `Cell.refresh_cycle`: a refreshed cell stands in the present cycle.
* `Cell.refresh_permits_le`: what a refill adds at most.
-/

namespace FaultTolerance
namespace Limiter

open Time

namespace Timing

/-- The quoted wait before it is cut to a 64-bit counter. -/
def fullWait
    (t : Timing)
    (permits : Int)
    (now : Nat) : Nat :=
  if 0 < permits then 0
  else permits.natAbs / t.limit * t.period + t.toNextCycle now

/-- The cycle whose refill covers the next permit when `permits` are left. -/
def slot
    (t : Timing)
    (permits : Int)
    (now : Nat) : Nat :=
  if 0 < permits then t.cycleAt now
  else t.cycleAt now + 1 + permits.natAbs / t.limit

/-- The quoted wait is the full wait, saturated once. -/
theorem wait_eq_min_fullWait
    (t : Timing)
    (permits : Int)
    (now : Nat) :
    t.wait permits now = min (t.fullWait permits now) maxTicks := by
  unfold wait fullWait
  split_ifs
  · simp
  · simp only
    omega

theorem cycleAt_mono
    (t : Timing)
    {now later : Nat}
    (h : now ≤ later) :
    t.cycleAt now ≤ t.cycleAt later := by
  unfold cycleAt
  have hdiv :
      (now - t.epoch) / t.period ≤ (later - t.epoch) / t.period :=
    Nat.div_le_div_right (by omega)
  omega

/-- Waiting out the full wait leads into the slot: into the present cycle while permits are left,
else exactly to the beginning of the covering cycle. -/
theorem cycleAt_add_fullWait
    (t : Timing)
    (permits : Int)
    {now : Nat}
    (hperiod : 0 < t.period)
    (hepoch : t.epoch ≤ now) :
    t.cycleAt (now + t.fullWait permits now) = t.slot permits now := by
  unfold fullWait slot
  split_ifs with hpos
  · rfl
  · unfold cycleAt toNextCycle
    generalize hwhole : permits.natAbs / t.limit = whole
    have hmod : (now - t.epoch) % t.period < t.period :=
      Nat.mod_lt _ hperiod
    have hsplit :
        t.period * ((now - t.epoch) / t.period) + (now - t.epoch) % t.period =
          now - t.epoch :=
      Nat.div_add_mod _ _
    -- The instant is a whole number of periods after the epoch.
    have hinstant :
        now + (whole * t.period + (t.period - (now - t.epoch) % t.period)) - t.epoch =
          ((now - t.epoch) / t.period + 1 + whole) * t.period := by
      have hexpand :
          ((now - t.epoch) / t.period + 1 + whole) * t.period =
            t.period * ((now - t.epoch) / t.period) + t.period + whole * t.period := by
        ring
      omega
    rw [hinstant, Nat.mul_div_cancel _ hperiod]
    omega

/-- A quoted wait that was not cut off ends in the slot. -/
theorem cycleAt_add_wait
    (t : Timing)
    (permits : Int)
    {now : Nat}
    (hperiod : 0 < t.period)
    (hepoch : t.epoch ≤ now)
    (hfull : t.fullWait permits now ≤ maxTicks) :
    t.cycleAt (now + t.wait permits now) = t.slot permits now := by
  rw [wait_eq_min_fullWait, min_eq_left hfull]
  exact t.cycleAt_add_fullWait permits hperiod hepoch

/-- The full wait of a caller that finds no permit ends as soon as its slot begins: every instant of
the slot or of a later cycle comes no earlier. -/
theorem add_fullWait_le
    (t : Timing)
    {permits : Int}
    {now instant : Nat}
    (hperiod : 0 < t.period)
    (hnone : permits ≤ 0)
    (hepoch : t.epoch ≤ now)
    (hslot : t.slot permits now ≤ t.cycleAt instant) :
    now + t.fullWait permits now ≤ instant := by
  unfold slot at hslot
  rw [if_neg (by omega)] at hslot
  unfold fullWait
  rw [if_neg (by omega)]
  unfold cycleAt at hslot
  unfold toNextCycle
  generalize permits.natAbs / t.limit = whole at hslot ⊢
  have hmod : (now - t.epoch) % t.period < t.period :=
    Nat.mod_lt _ hperiod
  have hsplit :
      t.period * ((now - t.epoch) / t.period) + (now - t.epoch) % t.period = now - t.epoch :=
    Nat.div_add_mod _ _
  have hbegun :
      ((now - t.epoch) / t.period + 1 + whole) * t.period ≤ instant - t.epoch :=
    le_trans (Nat.mul_le_mul_right _ (by omega)) (Nat.div_mul_le_self _ t.period)
  have hexpand :
      ((now - t.epoch) / t.period + 1 + whole) * t.period =
        t.period * ((now - t.epoch) / t.period) + t.period + whole * t.period := by
    ring
  omega

/-- The limits of all cycles up to a caller's slot exceed those of the cycles up to the present one
by more than the permits already promised. -/
theorem lt_slot_mul_limit
    (t : Timing)
    (permits : Int)
    (now : Nat)
    (hlimit : 0 < t.limit) :
    (t.cycleAt now + 1) * (t.limit : Int) - permits + 1 ≤ (t.slot permits now + 1) * t.limit := by
  unfold slot
  split_ifs with hpos
  · omega
  · have hmod : permits.natAbs % t.limit < t.limit :=
      Nat.mod_lt _ hlimit
    have hsplit :
        t.limit * (permits.natAbs / t.limit) + permits.natAbs % t.limit = permits.natAbs :=
      Nat.div_add_mod _ _
    have habs : (permits.natAbs : Int) = -permits := by
      omega
    have hexpand :
        ((t.cycleAt now + 1 + permits.natAbs / t.limit : Nat) + 1 : Int) * t.limit =
          (t.cycleAt now + 1) * (t.limit : Int) + t.limit
            + ((t.limit * (permits.natAbs / t.limit) : Nat) : Int) := by
      push_cast
      ring
    rw [hexpand]
    omega

end Timing

theorem saturate_le
    {n : Int}
    (h : -(2 ^ 63) ≤ n) :
    saturate n ≤ n := by
  unfold saturate
  omega

theorem le_saturate
    {bound n : Int}
    (hbound : bound ≤ 2 ^ 63 - 1)
    (h : bound ≤ n) :
    bound ≤ saturate n := by
  unfold saturate
  omega

namespace Cell

/-- A refreshed cell stands in the present cycle. -/
@[simp]
theorem refresh_cycle
    (c : Cell)
    (t : Timing)
    (now : Nat) :
    (c.refresh t now).cycle = UInt32.ofNat (t.cycleAt now) := by
  unfold refresh
  simp only
  split_ifs with hsame
  · rw [← UInt32.sub_add_cancel (UInt32.ofNat (t.cycleAt now)) c.cycle, hsame]
    exact (UInt32.zero_add _).symm
  · rfl

/-- A cell that stands in the present cycle is not refilled. -/
theorem refresh_of_current
    {c : Cell}
    {t : Timing}
    {now : Nat}
    (h : c.cycle = UInt32.ofNat (t.cycleAt now)) :
    c.refresh t now = c := by
  have hnone : UInt32.ofNat (t.cycleAt now) - c.cycle = 0 := by
    rw [h, UInt32.sub_self]
  unfold refresh
  exact if_pos hnone

/-- A refill takes no permit away, but for the limit. -/
theorem le_refresh_permits_of_le
    {c : Cell}
    {t : Timing}
    {bound : Int}
    (now : Nat)
    (hpermits : bound ≤ c.permits)
    (hlimit : bound ≤ t.limit)
    (hbound : bound ≤ 2 ^ 63 - 1) :
    bound ≤ (c.refresh t now).permits := by
  unfold refresh
  simp only
  split_ifs with hsame
  · exact hpermits
  · have hadded :
        (0 : Int) ≤ saturate
          ((UInt32.ofNat (t.cycleAt now) - c.cycle).toNat * t.limit) :=
      le_saturate (by norm_num) (by positivity)
    exact le_min (le_saturate hbound (by omega)) hlimit

/-- Refilling keeps the count within 32 bits from below. -/
theorem le_refresh_permits
    {c : Cell}
    (t : Timing)
    (now : Nat)
    (hfloor : minPermits ≤ c.permits) :
    minPermits ≤ (c.refresh t now).permits :=
  le_refresh_permits_of_le now hfloor (le_trans (by decide) (Int.natCast_nonneg t.limit)) (by decide)

/-- The cycles that seem to have begun, modulo `2 ^ 32`, are at most those that have. -/
theorem begun_le
    {stored current : Nat}
    (h : stored ≤ current) :
    (UInt32.ofNat current - UInt32.ofNat stored).toNat ≤ current - stored := by
  rw [UInt32.toNat_sub, UInt32.toNat_ofNat', UInt32.toNat_ofNat']
  omega

/-- A refill adds at most one limit for each cycle begun since the stored one. -/
theorem refresh_permits_le
    {c : Cell}
    {t : Timing}
    {stored now : Nat}
    (hcycle : c.cycle = UInt32.ofNat stored)
    (hstored : stored ≤ t.cycleAt now)
    (hfloor : minPermits ≤ c.permits) :
    (c.refresh t now).permits ≤ c.permits + ((t.cycleAt now - stored) * t.limit : Nat) := by
  unfold refresh
  simp only
  split_ifs with hsame
  · omega
  · have hbegun :
        (UInt32.ofNat (t.cycleAt now) - c.cycle).toNat * t.limit ≤
          (t.cycleAt now - stored) * t.limit := by
      rw [hcycle]
      exact Nat.mul_le_mul_right _ (begun_le hstored)
    generalize (UInt32.ofNat (t.cycleAt now) - c.cycle).toNat = begun at hbegun ⊢
    have hpositive : (0 : Int) ≤ begun * t.limit := by
      positivity
    have hadded : saturate (begun * t.limit) ≤ (begun * t.limit : Nat) := by
      rw [Nat.cast_mul]
      exact saturate_le (by omega)
    have hnonneg : 0 ≤ saturate (begun * t.limit) :=
      le_saturate (by norm_num) hpositive
    have hsum :
        saturate (c.permits + saturate (begun * t.limit)) ≤
          c.permits + saturate (begun * t.limit) := by
      simp only [minPermits] at hfloor
      exact saturate_le (by omega)
    refine le_trans (min_le_left _ _) (le_trans hsum ?_)
    omega

end Cell
end Limiter
end FaultTolerance
