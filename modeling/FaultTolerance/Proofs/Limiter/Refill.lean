import FaultTolerance.Limiter.Config
import FaultTolerance.Proofs.Limiter.Cycles

/-!
# Exact refills

A cell stands in the cycle it was last brought to.  A refill adds exactly one limit for each cycle
that has begun since, up to one limit in all, and no arithmetic of the refill is cut off; but it sees
the number of these cycles modulo `2 ^ 32`.  As long as fewer than that begin before the cell is
brought on, a refill on the way changes nothing in the end, and neither does a permit that was
promised and is handed back.

## Main definitions

* `Timing.refill`: the permits after some cycles have begun.
* `Cell.begun`: the cycles that a refill counts.
* `Cell.Stands`: a cell that was last brought to a cycle.

**Results.**
* `Cell.saturate_product`, `Cell.saturate_sum`: the arithmetic of a refill is not cut off.
* `Cell.refresh_eq_refill_begun`: the refill, whatever the number of cycles.
* `Cell.refresh_eq_refill_emod`, `Cell.refresh_eq_refill`: the cycles that are counted.
* `Cell.Stands`: kept by refilling, by taking a permit and by handing one back.
* `Cell.Stands.refresh_eq`: the exact refill.
* `Cell.Stands.refresh_refresh`: a refill on the way changes nothing in the end.
* `Cell.Stands.giveBack_refresh_take`: neither does a promised permit that is handed back.
-/

namespace FaultTolerance
namespace Limiter

open Time

namespace Timing

/-- The permits after some cycles have begun: one limit more for each of them, up to one limit. -/
def refill
    (t : Timing)
    (permits : Int)
    (begun : Nat) : Int :=
  if begun = 0 then permits else min (permits + (begun * t.limit : Nat)) t.limit

/-- Refilling in two steps is refilling at once. -/
theorem refill_refill
    (t : Timing)
    (permits : Int)
    (first second : Nat) :
    t.refill (t.refill permits first) second = t.refill permits (first + second) := by
  unfold refill
  by_cases hfirst : first = 0
  · simp [hfirst]
  · by_cases hsecond : second = 0
    · simp [hsecond]
    · rw [if_neg hfirst, if_neg hsecond, if_neg (by omega), Nat.add_mul]
      omega

/-- A count within the limit needs no case of its own. -/
theorem refill_of_le
    {t : Timing}
    {permits : Int}
    (hcapped : permits ≤ t.limit)
    (begun : Nat) :
    t.refill permits begun = min (permits + (begun * t.limit : Nat)) t.limit := by
  unfold refill
  split_ifs with hnone
  · simp [hnone, hcapped]
  · rfl

/-- The cap plays no part in whether permits are left. -/
theorem refill_pos_iff
    {t : Timing}
    (hlimit : 0 < t.limit)
    (permits : Int)
    (begun : Nat) :
    0 < t.refill permits begun ↔ 0 < permits + (begun * t.limit : Nat) := by
  unfold refill
  split_ifs with hnone
  · simp [hnone]
  · omega

/-- Refilling keeps the count within 32 bits. -/
theorem refill_bounds
    {t : Timing}
    {permits : Int}
    (hlimit : t.limit ≤ maxLimit)
    (hfloor : minPermits ≤ permits)
    (hceiling : permits ≤ maxPermits)
    (begun : Nat) :
    minPermits ≤ t.refill permits begun ∧ t.refill permits begun ≤ maxPermits := by
  unfold refill
  simp only [minPermits, maxPermits, maxLimit] at *
  split_ifs with hnone
  · exact ⟨hfloor, hceiling⟩
  · omega

end Timing

namespace Cell

/-- The cycles that a refill counts, from the stored one to the present one modulo `2 ^ 32`. -/
def begun
    (c : Cell)
    (t : Timing)
    (now : Nat) : Nat :=
  (UInt32.ofNat (t.cycleAt now) - c.cycle).toNat

section Begun

variable {c : Cell} {t : Timing}

/-- The cycles are counted modulo `2 ^ 32` whichever of the two is the later. -/
theorem begun_eq_emod
    {cycle : Nat}
    (hstored : c.cycle = UInt32.ofNat cycle)
    (now : Nat) :
    c.begun t now = (((t.cycleAt now : Int) - cycle) % 2 ^ 32).toNat := by
  unfold begun
  rw [hstored, UInt32.toNat_sub, UInt32.toNat_ofNat', UInt32.toNat_ofNat']
  omega

theorem begun_eq_zero_iff (now : Nat) :
    c.begun t now = 0 ↔ UInt32.ofNat (t.cycleAt now) - c.cycle = 0 := by
  rw [← UInt32.toNat_inj]
  rfl

variable (hlimit : t.limit ≤ maxLimit) (now : Nat)
include hlimit

/-- The permits of all the cycles that a refill counts. -/
theorem begun_mul_limit_le : c.begun t now * t.limit ≤ (2 ^ 32 - 1) * maxLimit := by
  have hbegun : c.begun t now < 2 ^ 32 := UInt32.toNat_lt _
  exact Nat.mul_le_mul (by omega) hlimit

/-- They are a 64-bit number. -/
theorem saturate_product :
    saturate (c.begun t now * t.limit) = c.begun t now * t.limit := by
  have hproduct := begun_mul_limit_le (c := c) hlimit now
  rw [← Nat.cast_mul]
  simp only [saturate, maxLimit] at *
  omega

variable (hfloor : minPermits ≤ c.permits) (hceiling : c.permits ≤ maxPermits)
include hfloor hceiling

/-- So they are together with the permits that are left. -/
theorem saturate_sum :
    saturate (c.permits + c.begun t now * t.limit) = c.permits + c.begun t now * t.limit := by
  have hproduct := begun_mul_limit_le (c := c) hlimit now
  rw [← Nat.cast_mul]
  simp only [saturate, minPermits, maxPermits, maxLimit] at *
  omega

/-- The saturating sums of a refill lose nothing. -/
theorem refresh_eq_refill_begun :
    c.refresh t now =
      ⟨UInt32.ofNat (t.cycleAt now), t.refill c.permits (c.begun t now)⟩ := by
  by_cases hnone : c.begun t now = 0
  · have hpresent : UInt32.ofNat (t.cycleAt now) = c.cycle := by
      rw [UInt32.sub_eq_iff_eq_add.mp ((begun_eq_zero_iff now).mp hnone), UInt32.zero_add]
    rw [refresh_of_current hpresent.symm, hnone, hpresent]
    rfl
  · have hsums :
        saturate (c.permits + saturate (c.begun t now * t.limit)) =
          c.permits + (c.begun t now * t.limit : Nat) := by
      rw [saturate_product hlimit, saturate_sum hlimit now hfloor hceiling, Nat.cast_mul]
    unfold Cell.refresh Timing.refill
    simp only [if_neg (mt (begun_eq_zero_iff now).mpr hnone), if_neg hnone]
    rw [← hsums]
    rfl

end Begun

section Refresh

variable {c : Cell} {t : Timing} {cycle : Nat}
  (hstored : c.cycle = UInt32.ofNat cycle)
  (hfloor : minPermits ≤ c.permits)
  (hceiling : c.permits ≤ maxPermits)
  (hlimit : t.limit ≤ maxLimit)
include hstored hfloor hceiling hlimit

/-- Refilling counts the cycles from the stored one to the present one modulo `2 ^ 32`, whichever of
the two is the later. -/
theorem refresh_eq_refill_emod (now : Nat) :
    c.refresh t now =
      ⟨UInt32.ofNat (t.cycleAt now),
        t.refill c.permits (((t.cycleAt now : Int) - cycle) % 2 ^ 32).toNat⟩ := by
  rw [refresh_eq_refill_begun hlimit now hfloor hceiling, begun_eq_emod hstored]

/-- When the clock has not gone back, these are the cycles begun modulo `2 ^ 32`. -/
theorem refresh_eq_refill
    {now : Nat}
    (hcycle : cycle ≤ t.cycleAt now) :
    c.refresh t now =
      ⟨UInt32.ofNat (t.cycleAt now), t.refill c.permits ((t.cycleAt now - cycle) % 2 ^ 32)⟩ := by
  have hgap :
      (((t.cycleAt now : Int) - cycle) % 2 ^ 32).toNat = (t.cycleAt now - cycle) % 2 ^ 32 := by
    omega
  rw [refresh_eq_refill_emod hstored hfloor hceiling hlimit now, hgap]

end Refresh

/-- The cell was last brought to a cycle, with a number of permits that a cell can hold. -/
structure Stands
    (c : Cell)
    (t : Timing)
    (cycle : Nat) : Prop where
  floor : minPermits ≤ c.permits
  capped : c.permits ≤ t.limit
  stored : c.cycle = UInt32.ofNat cycle

namespace Stands

variable {c : Cell} {t : Timing} {cycle now : Nat}

/-- A full cell stands in its first cycle. -/
theorem full
    (hcycle : c.cycle = 0)
    (hpermits : c.permits = t.limit) :
    c.Stands t 0 where
  floor := by
    rw [hpermits]
    exact le_trans (by decide) (Int.natCast_nonneg t.limit)
  capped := hpermits.le
  stored := hcycle

theorem refresh
    (h : c.Stands t cycle)
    (now : Nat) :
    (c.refresh t now).Stands t (t.cycleAt now) where
  floor := le_refresh_permits t now h.floor
  capped := by
    unfold Cell.refresh
    simp only
    split_ifs with hsame
    · exact h.capped
    · exact min_le_right _ _
  stored := refresh_cycle c t now

theorem take (h : c.Stands t cycle) : c.take.Stands t cycle where
  floor := le_max_right _ _
  capped := by
    have hcapped := h.capped
    have hlimit : (0 : Int) ≤ t.limit := Int.natCast_nonneg _
    simp only [Cell.take, minPermits]
    omega
  stored := h.stored

theorem giveBack (h : c.Stands t cycle) : (c.giveBack t).Stands t cycle where
  floor := by
    have hfloor := h.floor
    have hlimit : (0 : Int) ≤ t.limit := Int.natCast_nonneg _
    simp only [Cell.giveBack, minPermits, maxPermits] at hfloor ⊢
    omega
  capped := min_le_right _ _
  stored := h.stored

section Exact

variable (h : c.Stands t cycle) (hlimit : t.limit ≤ maxLimit)
include h hlimit

/-- Within `2 ^ 32` cycles a refill is exact. -/
theorem refresh_eq
    (hcycle : cycle ≤ t.cycleAt now)
    (hgap : t.cycleAt now < cycle + 2 ^ 32) :
    c.refresh t now =
      ⟨UInt32.ofNat (t.cycleAt now), t.refill c.permits (t.cycleAt now - cycle)⟩ := by
  have hceiling : c.permits ≤ maxPermits := by
    have hcapped := h.capped
    simp only [maxLimit, maxPermits] at hlimit ⊢
    omega
  rw [refresh_eq_refill h.stored h.floor hceiling hlimit hcycle, Nat.mod_eq_of_lt (by omega)]

/-- A full cell stays full, however long nobody takes a permit. -/
theorem refresh_permits_of_full
    (hfull : c.permits = t.limit)
    (now : Nat) :
    (c.refresh t now).permits = t.limit := by
  have hbound : (t.limit : Int) ≤ 2 ^ 63 - 1 := by
    simp only [maxLimit] at hlimit
    omega
  exact le_antisymm (h.refresh now).capped
    (le_refresh_permits_of_le now hfull.ge le_rfl hbound)

/-- A refill on the way changes nothing in the end. -/
theorem refresh_refresh
    {later : Nat}
    (hcycle : cycle ≤ t.cycleAt now)
    (hlater : now ≤ later)
    (hgap : t.cycleAt later < cycle + 2 ^ 32) :
    (c.refresh t now).refresh t later = c.refresh t later := by
  have hmono := t.cycleAt_mono hlater
  rw [(h.refresh now).refresh_eq hlimit hmono (by omega), h.refresh_eq hlimit hcycle (by omega),
    h.refresh_eq hlimit (by omega) hgap, Timing.refill_refill]
  congr 2
  omega

/-- A permit that was promised while none was left, and is handed back later, changes nothing in the
end. -/
theorem giveBack_refresh_take
    {later : Nat}
    (hpositive : 0 < t.limit)
    (hcycle : cycle ≤ t.cycleAt now)
    (hlater : now ≤ later)
    (hgap : t.cycleAt later < cycle + 2 ^ 32)
    (hnone : (c.refresh t now).permits ≤ 0)
    (hfloor : minPermits < (c.refresh t now).permits) :
    (((c.refresh t now).take).refresh t later).giveBack t = c.refresh t later := by
  have hmono := t.cycleAt_mono hlater
  have hfresh := h.refresh now
  rw [← h.refresh_refresh hlimit hcycle hlater hgap,
    hfresh.take.refresh_eq hlimit hmono (by omega), hfresh.refresh_eq hlimit hmono (by omega)]
  have htake : (c.refresh t now).take.permits = (c.refresh t now).permits - 1 := by
    simp only [Cell.take, minPermits] at hfloor ⊢
    omega
  rw [htake]
  unfold Cell.giveBack Timing.refill
  congr 1
  simp only [maxLimit, maxPermits] at hlimit ⊢
  split_ifs <;> omega

end Exact

end Stands
end Cell
end Limiter
end FaultTolerance
