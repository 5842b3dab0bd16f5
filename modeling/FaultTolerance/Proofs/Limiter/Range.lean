import FaultTolerance.Proofs.Limiter.HandBacks

/-!
# Numbers in range

Clock readings, cycles and periods are counted in 64 bits, a refill is computed in signed 64 bits, and
a cell keeps its permits and the low bits of its cycle in 32 bits each.  Nothing is lost on the way.
A cycle lasts a millisecond at least, whatever period is set, so that the cycles counted so far never
outnumber the milliseconds that have passed, and a 64-bit clock cannot count too many of them.  A refill
counts fewer than `2 ^ 32` cycles of at most `2 ^ 31 - 1` permits each, and its sum is cut down to the
limit before it is kept.

## Main definitions

* `Timing.Paced`: no more cycles were counted than milliseconds have passed.
* `Cell.RefillsExactly`: no number in a refill leaves its range.
* `greatestLimit`: the greatest limit that was set so far.

**Results.**
* `Timing.Paced.cycles_le`: as many cycles as milliseconds, at most.
* `Ledger.paced_step`, `Ledger.paced_play`: new periods keep to that.
* `Dated.refillsExactly`: every refill of a run is exact, at any clock reading.
* `Ledger.peaked_play_greatest`: the count is within the greatest limit so far.
* `numbers_stay_in_range`: the ranges of a limiter's numbers throughout a run.
-/

namespace FaultTolerance
namespace Limiter

open Time

/-! ### Cycles and milliseconds -/

/-- Cycles last a millisecond at least, and those counted up to the epoch had room since `start`. -/
structure Timing.Paced
    (t : Timing)
    (start : Nat) : Prop where
  le_period : nanosPerMilli ≤ t.period
  period_le : t.period ≤ maxTicks
  le_epoch : start + t.epochCycle * nanosPerMilli ≤ t.epoch

namespace Timing.Paced

theorem of_create
    {name : String}
    {config : Config}
    {start : Nat}
    {l : Limiter}
    (hcreate : create name config start = .ok l) :
    l.timing.Paced start := by
  obtain ⟨hvalid, htiming, -⟩ := Ledger.create_eq_ok hcreate
  have hperiod := (Config.checkPeriod_eq_ok_iff config.period).mpr
    ((Config.validate_eq_ok_iff config).mp hvalid).2
  obtain ⟨hlong, hshort⟩ := Config.ticks_bounds hperiod
  rw [htiming]
  exact ⟨hlong, hshort, by simp⟩

variable {t : Timing} {start now : Nat} (h : t.Paced start) (hepoch : t.epoch ≤ now)
include h hepoch

/-- At most one cycle is counted for each millisecond since the start. -/
theorem cycles_le : start + t.cycleAt now * nanosPerMilli ≤ now := by
  have hsince : (now - t.epoch) / t.period * nanosPerMilli ≤ now - t.epoch :=
    calc (now - t.epoch) / t.period * nanosPerMilli
        ≤ (now - t.epoch) / t.period * t.period := Nat.mul_le_mul_left _ h.le_period
      _ ≤ now - t.epoch := Nat.div_mul_le_self _ _
  calc start + t.cycleAt now * nanosPerMilli
      = (start + t.epochCycle * nanosPerMilli) + (now - t.epoch) / t.period * nanosPerMilli := by
        rw [cycleAt, Nat.add_mul, Nat.add_assoc]
    _ ≤ t.epoch + (now - t.epoch) := Nat.add_le_add h.le_epoch hsince
    _ = now := Nat.add_sub_cancel' hepoch

/-- A new period counts on from the present cycle. -/
theorem recycled
    {period : Span}
    (hperiod : Config.checkPeriod period = .ok ()) :
    Paced { t with epochCycle := t.cycleAt now, epoch := now, period := period.ticks } start := by
  obtain ⟨hlong, hshort⟩ := Config.ticks_bounds hperiod
  exact ⟨hlong, hshort, h.cycles_le hepoch⟩

end Timing.Paced

namespace Ledger

/-- One move leaves at most a cycle for each millisecond. -/
theorem paced_step
    {s : Ledger}
    {start now : Nat}
    (h : s.limiter.timing.Paced start)
    (hepoch : s.limiter.timing.epoch ≤ now)
    (move : Move) :
    (s.step (now, move)).limiter.timing.Paced start := by
  have hmoves := movesTo_step s now move
  generalize (s.step (now, move)).limiter = after at hmoves ⊢
  cases hmoves with
  | taken timeout => exact h
  | refused timeout => exact h
  | returned _ => exact h
  | limited _ => exact { h with }
  | delayed timeout => exact { h with }
  | recycled hperiod => exact h.recycled hepoch hperiod
  | unchanged _ _ => exact h

/-- So does a run in which the clock does not go back. -/
theorem paced_play
    {s : Ledger}
    {start earlier now : Nat}
    (h : s.limiter.timing.Paced start)
    (hepoch : s.limiter.timing.epoch ≤ earlier)
    (moves : List (Nat × Move))
    (hclock : (earlier :: (moves.map Prod.fst ++ [now])).Pairwise (· ≤ ·)) :
    (s.play moves).limiter.timing.Paced start := by
  induction moves generalizing s earlier with
  | nil => exact h
  | cons m moves ih =>
      obtain ⟨reading, move⟩ := m
      rw [List.map_cons, List.cons_append, List.pairwise_cons] at hclock
      have hreading : s.limiter.timing.epoch ≤ reading :=
        le_trans hepoch (hclock.1 reading List.mem_cons_self)
      exact ih (paced_step h hreading move) (step_present s hreading move).2 hclock.2

end Ledger

/-! ### Refills -/

/-- No number in a refill leaves its range: the product and the sum are 64-bit numbers, so that the cell
is brought to the present cycle with an exact count, and that count keeps its value in 32 bits. -/
structure Cell.RefillsExactly
    (c : Cell)
    (t : Timing)
    (now : Nat) : Prop where
  product : saturate (c.begun t now * t.limit) = c.begun t now * t.limit
  sum : saturate (c.permits + c.begun t now * t.limit) = c.permits + c.begun t now * t.limit
  refilled : c.refresh t now = ⟨UInt32.ofNat (t.cycleAt now), t.refill c.permits (c.begun t now)⟩
  kept : (Int32.ofInt (c.refresh t now).permits).toInt = (c.refresh t now).permits

/-- Whatever the clock reads, the next refill is exact. -/
theorem Dated.refillsExactly
    {l : Limiter}
    {cycle : Nat}
    (h : l.Dated cycle)
    (now : Nat) :
    l.cell.RefillsExactly l.timing now where
  product := Cell.saturate_product h.limit_le now
  sum := Cell.saturate_sum h.limit_le now h.floor h.ceiling
  refilled := Cell.refresh_eq_refill_begun h.limit_le now h.floor h.ceiling
  kept := by
    obtain ⟨hfloor, hceiling⟩ := h.fresh_bounds now
    exact Int32.toInt_ofInt_of_le hfloor (Int.lt_of_le_sub_one hceiling)

/-! ### The greatest limit -/

/-- The greatest of a first limit and those that a run puts in force. -/
def greatestLimit
    (first : Nat)
    (moves : List (Nat × Move)) : Nat :=
  (moves.filterMap fun m => m.2.newLimit?).foldl max first

theorem greatestLimit_cons
    (first : Nat)
    (m : Nat × Move)
    (moves : List (Nat × Move)) :
    greatestLimit first (m :: moves) =
      greatestLimit (m.2.newLimit?.elim first (max first)) moves := by
  unfold greatestLimit
  rw [List.filterMap_cons]
  cases m.2.newLimit? <;> rfl

namespace Ledger

/-- The limit after a move. -/
theorem limit_step
    (s : Ledger)
    (m : Nat × Move) :
    (s.step m).limiter.timing.limit = m.2.newLimit?.getD s.limiter.timing.limit := by
  have hmoves := movesTo_step s m.1 m.2
  generalize (s.step m).limiter = after at hmoves ⊢
  generalize m.2 = move at hmoves ⊢
  cases hmoves with
  | taken timeout => rfl
  | refused timeout => rfl
  | returned _ => rfl
  | limited hlimit => rw [Move.newLimit?, if_pos hlimit, Option.getD_some]
  | delayed timeout => rfl
  | recycled _ => rfl
  | unchanged _ hlimit => rw [hlimit, Option.getD_none]

/-- The greatest limit since the last refill is at most the greatest so far. -/
theorem peakOf_le
    {s : Ledger}
    {greatest : Nat}
    (hlimit : s.limiter.timing.limit ≤ greatest)
    (m : Nat × Move) :
    s.peakOf greatest m ≤ m.2.newLimit?.elim greatest (max greatest) := by
  unfold peakOf
  rw [limit_step]
  cases m.2.newLimit? with
  | none =>
      dsimp only [Option.getD_none, Option.elim_none]
      split_ifs
      · exact hlimit
      · exact max_le le_rfl hlimit
  | some limit =>
      dsimp only [Option.getD_some, Option.elim_some]
      split_ifs
      · exact le_max_right _ _
      · exact le_rfl

theorem Peaked.mono
    {l : Limiter}
    {peak greatest : Nat}
    (h : Peaked l peak)
    (hpeak : peak ≤ greatest) :
    Peaked l greatest where
  limit_le := le_trans h.limit_le hpeak
  permits_le := le_trans h.permits_le (Int.ofNat_le.mpr hpeak)

/-- A visitor finds no more permits than the peak. -/
theorem Peaked.fresh_le
    {l : Limiter}
    {peak : Nat}
    (h : Peaked l peak)
    (now : Nat) :
    (l.freshCell now).permits ≤ peak := by
  rcases freshCell_cases l now with hsame | ⟨-, hfresh⟩
  · rw [hsame]
    exact h.permits_le
  · exact le_trans hfresh (Int.ofNat_le.mpr h.limit_le)

/-- Throughout a run the count is within the greatest limit so far. -/
theorem peaked_play_greatest
    {s : Ledger}
    {first : Nat}
    (h : Peaked s.limiter first)
    (moves : List (Nat × Move)) :
    Peaked (s.play moves).limiter (greatestLimit first moves) := by
  induction moves generalizing s first with
  | nil => exact h
  | cons m moves ih =>
      rw [greatestLimit_cons]
      exact ih ((peaked_step h m.1 m.2).mono (peakOf_le h.limit_le m))

end Ledger

/-- **Ranges.**  In every run with any new settings, in which the clock does not go back, whatever its
next 64-bit reading `now`:
* the limit in force is one that is accepted, and a cycle lasts a millisecond at least, so that nothing
  is divided by zero;
* cycles are counted from an epoch that is not after `now`, at most one for each millisecond since the
  start, so that their number is held by 64 bits;
* the cell bears the low bits of the cycle to which it was last brought, which is not after the present
  one, whatever the periods were in between;
* a refill is exact, at this and at any other reading;
* neither the cell nor what is shown of it has more permits than the greatest limit so far. -/
theorem numbers_stay_in_range
    {name : String}
    {config : Config}
    {start now : Nat}
    {l : Limiter}
    (hcreate : create name config start = .ok l)
    (moves : List (Nat × Move))
    (hclock : (start :: (moves.map Prod.fst ++ [now])).Pairwise (· ≤ ·))
    (hcounter : now ≤ maxTicks)
    {s : Limiter}
    (hplay : ((Ledger.opened l).play moves).limiter = s) :
    let cycle := (Ledger.opened l).cycleAfter 0 moves
    let greatest := greatestLimit config.limit moves
    (0 < s.timing.limit ∧ s.timing.limit ≤ maxLimit) ∧
      (nanosPerMilli ≤ s.timing.period ∧ s.timing.period ≤ maxTicks) ∧
      s.timing.epoch ≤ now ∧
      start + s.timing.cycleAt now * nanosPerMilli ≤ now ∧
      s.timing.epochCycle + (now - s.timing.epoch) / s.timing.period ≤ maxTicks ∧
      (s.cell.cycle = UInt32.ofNat cycle ∧ cycle ≤ s.timing.cycleAt now) ∧
      (∀ reading, s.cell.RefillsExactly s.timing reading) ∧
      s.cell.permits ≤ greatest ∧
      ∀ reading, (s.metrics reading).available ≤ greatest := by
  intro cycle greatest
  have htrails : s.Trails cycle now := Ledger.trails_opened hcreate moves hclock hplay
  obtain ⟨-, htiming, -⟩ := Ledger.create_eq_ok hcreate
  have hpaced : s.timing.Paced start := by
    rw [← hplay]
    exact Ledger.paced_play (Timing.Paced.of_create hcreate) (Trails.of_create hcreate).epoch_le
      moves hclock
  have hpeaked : Ledger.Peaked s greatest := by
    have hfirst : Ledger.Peaked l config.limit := by
      simpa only [htiming] using Ledger.Peaked.of_create hcreate
    rw [← hplay]
    exact Ledger.peaked_play_greatest hfirst moves
  have hcycles : start + s.timing.cycleAt now * nanosPerMilli ≤ now :=
    hpaced.cycles_le htrails.epoch_le
  have hcount : s.timing.cycleAt now ≤ maxTicks := by
    simp only [nanosPerMilli] at hcycles
    omega
  exact ⟨⟨htrails.limit_pos, htrails.limit_le⟩, ⟨hpaced.le_period, hpaced.period_le⟩,
    htrails.epoch_le, hcycles, hcount, ⟨htrails.stored, htrails.reached⟩,
    htrails.dated.refillsExactly, hpeaked.permits_le, hpeaked.fresh_le⟩

/-- One permit a millisecond at first, and then as many as there can be.  One of them is taken in the
next millisecond, after which cycles last two.  Before anybody else comes as many cycles begin as a
refill can count, and so its product is the greatest there is. -/
theorem numbers_stay_in_range_widest :
    let l : Limiter := ⟨"line", ⟨1, 1000000, Span.zero, 0, 0⟩, ⟨0, 1⟩, 0⟩
    let moves : List (Nat × Move) :=
      [(0, .changeLimit 2147483647), (1000000, .acquire .zero),
        (2000000, .changePeriod (Span.ofMillis 2))]
    let now := (2 ^ 32 - 1) * 2000000
    let s := ((Ledger.opened l).play moves).limiter
    create "line" ⟨1, Span.ofMillis 1, Span.zero⟩ 0 = .ok l ∧
      (0 :: (moves.map Prod.fst ++ [now])).Pairwise (· ≤ ·) ∧ now ≤ maxTicks ∧
      s.timing.cycleAt now = 2 ^ 32 ∧ s.timing.cycleAt now ≤ maxTicks ∧
      s.cell.cycle = 1 ∧ s.cell.begun s.timing now = 2 ^ 32 - 1 ∧
      s.cell.RefillsExactly s.timing now ∧
      s.cell.permits = 2147483646 ∧ greatestLimit 1 moves = 2147483647 ∧
      s.cell.permits ≤ greatestLimit 1 moves := by
  intro l moves now s
  have hcreate : create "line" ⟨1, Span.ofMillis 1, Span.zero⟩ 0 = .ok l := rfl
  have hclock : (0 :: (moves.map Prod.fst ++ [now])).Pairwise (· ≤ ·) := by
    decide +kernel
  have hcounter : now ≤ maxTicks := by
    decide +kernel
  obtain ⟨-, -, -, -, hcount, -, hrefills, hpermits, -⟩ :=
    numbers_stay_in_range hcreate moves hclock hcounter rfl
  exact ⟨hcreate, hclock, hcounter, by decide +kernel, hcount, by decide +kernel,
    by decide +kernel, hrefills now, by decide +kernel, by decide +kernel, hpermits⟩

end Limiter
end FaultTolerance
