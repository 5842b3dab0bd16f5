import FaultTolerance.Proofs.Limiter.Ledger
import FaultTolerance.Proofs.Limiter.Refill

/-!
# Cells behind the clock

Only a caller that asks for a permit or hands one back brings the cell on, to the cycle of its own
clock reading.  In between cycles begin, and the settings may change, while the cell stands still: it
trails the clock.  Its lag is the number of cycles begun since it was last brought on, and the next
refill sees that lag modulo `2 ^ 32`.

## Main definitions

* `Dated`: a limiter in range, whose cell was last brought to a cycle.
* `Trails`: the same with a clock that has not gone back since.
* `Ledger.MovesTo`: what a move makes of a limiter.
* `Ledger.brings`, `Ledger.cycleAfter`: the cycle to which a run last brought the cell.

**Results.**
* `changeLimit_cases`, `changePeriod_cases`: what new settings do to a limiter.
* `Dated.freshCell_eq`, `Dated.available_eq`: what the next visitor finds, at any clock reading.
* `Ledger.movesTo_step`: every move is one of these.
* `Ledger.dated_play`, `Ledger.dated_opened`: a limiter is dated throughout every run, with any new
  settings and any clock readings.
* `Trails.freshCell_eq`, `Trails.available_eq`: what the next visitor finds behind the clock.
* `Ledger.trails_play`, `Ledger.trails_opened`: a limiter trails a clock that does not go back.
-/

namespace FaultTolerance
namespace Limiter

open Time

/-! ### New settings -/

section Changes

variable (r : Reading) (l : Limiter)

/-- A new limit is put in force if it is accepted, and nothing else changes. -/
theorem changeLimit_cases (limit : Nat) :
    ((0 < limit ∧ limit ≤ maxLimit) ∧
      (changeLimit limit).run r l =
        (.ok (), { l with timing := { l.timing with limit } }, []))
      ∨
    ∃ e, (changeLimit limit).run r l = (.error e, l, []) := by
  rcases hcheck : Config.checkLimit limit with e | ⟨⟩
  · right
    exact ⟨e, by simp [changeLimit, Operation.run, Operation.ofStep, hcheck]⟩
  · left
    constructor
    · exact (Config.checkLimit_eq_ok_iff limit).mp hcheck
    · simp [changeLimit, Operation.run, Operation.ofStep, hcheck]

/-- A new period is put in force if it is accepted: from now on cycles are counted anew, beginning
with the present one. -/
theorem changePeriod_cases (period : Span) :
    (0 < period.ticks ∧
      (changePeriod period).run r l =
        (.ok (),
          { l with
            timing :=
              { l.timing with
                epochCycle := l.timing.cycleAt r.now
                epoch := r.now
                period := period.ticks } },
          []))
      ∨
    ∃ e, (changePeriod period).run r l = (.error e, l, []) := by
  rcases hcheck : Config.checkPeriod period with e | ⟨⟩
  · right
    exact ⟨e, by simp [changePeriod, Operation.run, Operation.ofStep, hcheck]⟩
  · left
    constructor
    · exact lt_of_lt_of_le (by decide) (Config.ticks_bounds hcheck).1
    · simp [changePeriod, Operation.run, Operation.ofStep, hcheck]

end Changes

/-! ### Cells that bear a cycle -/

/-- The settings and the count are in range, and the cell bears the low bits of `cycle`, to which it
was last brought. -/
structure Dated
    (l : Limiter)
    (cycle : Nat) : Prop where
  limit_pos : 0 < l.timing.limit
  limit_le : l.timing.limit ≤ maxLimit
  period_pos : 0 < l.timing.period
  floor : minPermits ≤ l.cell.permits
  ceiling : l.cell.permits ≤ maxPermits
  stored : l.cell.cycle = UInt32.ofNat cycle

namespace Dated

variable {l : Limiter} {cycle : Nat}

/-- A new limiter bears its first cycle. -/
theorem of_create
    {name : String}
    {config : Config}
    {start : Nat}
    (hcreate : create name config start = .ok l) :
    l.Dated 0 := by
  obtain ⟨-, htiming, hcell⟩ := Ledger.create_eq_ok hcreate
  obtain ⟨⟨hpositive, hlimit⟩, hperiod⟩ := Ledger.bounds_of_create hcreate
  rw [htiming] at hlimit
  refine ⟨hpositive, by rwa [htiming], hperiod, ?_, ?_, by rw [hcell]; rfl⟩
  · rw [hcell]
    exact le_trans (by decide) (Int.natCast_nonneg config.limit)
  · rw [hcell]
    simp only [maxLimit, maxPermits] at hlimit ⊢
    omega

variable (h : l.Dated cycle) (now : Nat)
include h

/-- What a visitor finds: the cycles from the one that the cell bears to the present one are counted
modulo `2 ^ 32`, whichever of the two is the later. -/
theorem freshCell_eq :
    l.freshCell now =
      ⟨UInt32.ofNat (l.timing.cycleAt now),
        l.timing.refill l.cell.permits (((l.timing.cycleAt now : Int) - cycle) % 2 ^ 32).toNat⟩ :=
  Cell.refresh_eq_refill_emod h.stored h.floor h.ceiling h.limit_le now

/-- The numbers show what a visitor finds. -/
theorem available_eq :
    (l.metrics now).available =
      l.timing.refill l.cell.permits (((l.timing.cycleAt now : Int) - cycle) % 2 ^ 32).toNat :=
  congrArg Cell.permits (h.freshCell_eq now)

/-- What a visitor finds is within 32 bits. -/
theorem fresh_bounds :
    minPermits ≤ (l.freshCell now).permits ∧ (l.freshCell now).permits ≤ maxPermits := by
  rw [h.freshCell_eq now]
  exact Timing.refill_bounds h.limit_le h.floor h.ceiling _

/-- A visit brings the cell to the cycle of its clock reading, and leaves a number of permits in
range. -/
theorem brought
    {permits : Int}
    (hfloor : minPermits ≤ permits)
    (hceiling : permits ≤ maxPermits) :
    (l.setCell { l.freshCell now with permits }).Dated (l.timing.cycleAt now) :=
  { h with
    floor := hfloor
    ceiling := hceiling
    stored := congrArg Cell.cycle (h.freshCell_eq now) }

theorem refreshed : (l.setCell (l.freshCell now)).Dated (l.timing.cycleAt now) := by
  obtain ⟨hfloor, hceiling⟩ := h.fresh_bounds now
  exact h.brought now hfloor hceiling

theorem taken : (l.setCell (l.freshCell now).take).Dated (l.timing.cycleAt now) := by
  obtain ⟨hfloor, hceiling⟩ := h.fresh_bounds now
  refine h.brought now (le_max_right _ _) ?_
  simp only [minPermits, maxPermits] at *
  omega

theorem restored : (l.restore now).Dated (l.timing.cycleAt now) := by
  obtain ⟨hfloor, hceiling⟩ := h.fresh_bounds now
  refine h.brought now ?_ (le_trans (min_le_left _ _) (min_le_right _ _))
  have hlimit : (0 : Int) ≤ l.timing.limit := Int.natCast_nonneg _
  simp only [freshCell, minPermits, maxPermits] at *
  omega

omit now in
theorem limited
    {limit : Nat}
    (hpositive : 0 < limit)
    (hlimit : limit ≤ maxLimit) :
    Dated { l with timing := { l.timing with limit } } cycle :=
  { h with
    limit_pos := hpositive
    limit_le := hlimit }

/-- New cycles do not touch the cell. -/
theorem recycled
    {period : Nat}
    (hperiod : 0 < period) :
    Dated
      { l with
        timing :=
          { l.timing with epochCycle := l.timing.cycleAt now, epoch := now, period } }
      cycle :=
  { h with period_pos := hperiod }

end Dated

/-! ### Trailing the clock -/

/-- At the clock reading `now` the settings and the count are in range, and the cell was last brought
to `cycle`, which is not later than the present cycle. -/
structure Trails
    (l : Limiter)
    (cycle now : Nat) : Prop where
  limit_pos : 0 < l.timing.limit
  limit_le : l.timing.limit ≤ maxLimit
  period_pos : 0 < l.timing.period
  epoch_le : l.timing.epoch ≤ now
  floor : minPermits ≤ l.cell.permits
  ceiling : l.cell.permits ≤ maxPermits
  stored : l.cell.cycle = UInt32.ofNat cycle
  reached : cycle ≤ l.timing.cycleAt now

namespace Trails

variable {l : Limiter} {cycle now : Nat}

/-- A new limiter trails the clock: its cell stands in its first cycle. -/
theorem of_create
    {name : String}
    {config : Config}
    (hcreate : create name config now = .ok l) :
    l.Trails 0 now := by
  obtain ⟨-, htiming, -⟩ := Ledger.create_eq_ok hcreate
  exact { Dated.of_create hcreate with
    epoch_le := by rw [htiming]
    reached := Nat.zero_le _ }

variable (h : l.Trails cycle now)
include h

theorem dated : l.Dated cycle :=
  { h with }

/-- Time passes. -/
theorem later
    {after : Nat}
    (hafter : now ≤ after) :
    l.Trails cycle after :=
  { h with
    epoch_le := le_trans h.epoch_le hafter
    reached := le_trans h.reached (l.timing.cycleAt_mono hafter) }

/-- What the next visitor finds: the lag of the cell is counted modulo `2 ^ 32`. -/
theorem freshCell_eq :
    l.freshCell now =
      ⟨UInt32.ofNat (l.timing.cycleAt now),
        l.timing.refill l.cell.permits ((l.timing.cycleAt now - cycle) % 2 ^ 32)⟩ :=
  Cell.refresh_eq_refill h.stored h.floor h.ceiling h.limit_le h.reached

/-- The numbers show what the next visitor finds. -/
theorem available_eq :
    (l.metrics now).available =
      l.timing.refill l.cell.permits ((l.timing.cycleAt now - cycle) % 2 ^ 32) :=
  congrArg Cell.permits h.freshCell_eq

/-- Between two readings of the numbers the count grows by one limit for each cycle begun, as long as
no lap is completed. -/
theorem available_refill
    {after : Nat}
    (hafter : now ≤ after)
    (hlap : l.timing.cycleAt after < cycle + 2 ^ 32) :
    (l.metrics after).available =
      l.timing.refill (l.metrics now).available
        (l.timing.cycleAt after - l.timing.cycleAt now) := by
  have hreached := h.reached
  have hmono := l.timing.cycleAt_mono hafter
  rw [(h.later hafter).available_eq, h.available_eq, Nat.mod_eq_of_lt (by omega),
    Nat.mod_eq_of_lt (by omega), Timing.refill_refill]
  congr 1
  omega

theorem limited
    {limit : Nat}
    (hpositive : 0 < limit)
    (hlimit : limit ≤ maxLimit) :
    Trails { l with timing := { l.timing with limit } } cycle now :=
  { h with
    limit_pos := hpositive
    limit_le := hlimit }

/-- New cycles do not touch the present one. -/
theorem recycled
    {period : Nat}
    (hperiod : 0 < period) :
    Trails
      { l with
        timing :=
          { l.timing with epochCycle := l.timing.cycleAt now, epoch := now, period } }
      cycle now :=
  { h with
    period_pos := hperiod
    epoch_le := le_rfl
    reached := le_trans h.reached (Nat.le_add_right _ _) }

end Trails

/-! ### Runs -/

/-- The limit that a move puts in force, when it asks for one that is accepted. -/
def Move.newLimit? : Move → Option Nat
  | .changeLimit limit => if 0 < limit ∧ limit ≤ maxLimit then some limit else none
  | .acquire _ | .handBack _ | .changeTimeout _ | .changePeriod _ => none

namespace Ledger

/-- Whether a move brings the cell on: who asks for a permit does, and who hands back one that is
out. -/
def brings
    (s : Ledger) : Move → Bool
  | .acquire _ => true
  | .handBack ticket => s.grants[ticket]?.any fun g => !g.returned
  | .changeLimit _ | .changeTimeout _ | .changePeriod _ => false

/-- What a move at a clock reading makes of the limiter. -/
inductive MovesTo
    (s : Ledger)
    (now : Nat) :
    Move → Limiter → Prop
  | taken (timeout : Span) :
      MovesTo s now (.acquire timeout) (s.limiter.setCell (s.limiter.freshCell now).take)
  | refused (timeout : Span) :
      MovesTo s now (.acquire timeout) (s.limiter.setCell (s.limiter.freshCell now))
  | returned
      {ticket : Nat}
      (hbrings : s.brings (.handBack ticket) = true) :
      MovesTo s now (.handBack ticket) (s.limiter.restore now)
  | limited
      {limit : Nat}
      (hlimit : 0 < limit ∧ limit ≤ maxLimit) :
      MovesTo s now (.changeLimit limit)
        { s.limiter with timing := { s.limiter.timing with limit } }
  | delayed (timeout : Span) :
      MovesTo s now (.changeTimeout timeout)
        { s.limiter with timing := { s.limiter.timing with timeout } }
  | recycled
      {period : Span}
      (hperiod : Config.checkPeriod period = .ok ()) :
      MovesTo s now (.changePeriod period)
        { s.limiter with
          timing :=
            { s.limiter.timing with
              epochCycle := s.limiter.timing.cycleAt now
              epoch := now
              period := period.ticks } }
  | unchanged
      {move : Move}
      (hbrings : s.brings move = false)
      (hlimit : move.newLimit? = none) :
      MovesTo s now move s.limiter

/-- Every move is one of these. -/
theorem movesTo_step
    (s : Ledger)
    (now : Nat)
    (move : Move) :
    s.MovesTo now move (s.step (now, move)).limiter := by
  cases move with
  | acquire timeout =>
      rcases acquire_cases s now timeout with ⟨g, -, -, -, -, -, -, heq⟩ | heq
      · rw [step, heq]
        exact .taken timeout
      · rw [step, heq]
        exact .refused timeout
  | handBack ticket =>
      cases hbrings : s.brings (.handBack ticket) with
      | true =>
          obtain ⟨g, hfound, hheld⟩ := (Option.any_eq_true _ _).mp hbrings
          rw [step, handBack_of_outstanding s now hfound (by simpa using hheld)]
          exact .returned hbrings
      | false =>
          have hidle : s.handBack now ticket = s := by
            rcases handBack_cases s now ticket with ⟨g, hfound, hheld, -⟩ | heq
            · simp [brings, hfound, hheld] at hbrings
            · exact heq
          rw [step, hidle]
          exact .unchanged hbrings rfl
  | changeLimit limit =>
      rcases changeLimit_cases ⟨now, .zero false⟩ s.limiter limit with ⟨hlimit, heq⟩ | ⟨e, heq⟩
      · rw [step, heq]
        exact .limited hlimit
      · have hrefused : ¬ (0 < limit ∧ limit ≤ maxLimit) := by
          intro hlimit
          have hcheck := (Config.checkLimit_eq_ok_iff limit).mpr hlimit
          simp [changeLimit, Operation.run, Operation.ofStep, hcheck] at heq
        rw [step, heq]
        exact .unchanged rfl (if_neg hrefused)
  | changeTimeout timeout => exact .delayed timeout
  | changePeriod period =>
      rcases hcheck : Config.checkPeriod period with e | ⟨⟩
      · have hmoves : s.MovesTo now (.changePeriod period) s.limiter := .unchanged rfl rfl
        simpa only [step, changePeriod, Operation.run, Operation.ofStep, hcheck] using hmoves
      · have hmoves : s.MovesTo now (.changePeriod period) _ := .recycled hcheck
        simpa only [step, changePeriod, Operation.run, Operation.ofStep, hcheck] using hmoves

/-- The cycle to which a run last brought the cell, when it stood in `cycle` before. -/
def cycleAfter
    (s : Ledger)
    (cycle : Nat) : List (Nat × Move) → Nat
  | [] => cycle
  | m :: moves =>
    (s.step m).cycleAfter (if s.brings m.2 then s.limiter.timing.cycleAt m.1 else cycle) moves

/-- One move keeps the limiter in range, and notes the cycle of its reading if it brings the cell to
it. -/
theorem dated_step
    {s : Ledger}
    {cycle : Nat}
    (h : s.limiter.Dated cycle)
    (now : Nat)
    (move : Move) :
    (s.step (now, move)).limiter.Dated
      (if s.brings move then s.limiter.timing.cycleAt now else cycle) := by
  have hmoves := movesTo_step s now move
  generalize (s.step (now, move)).limiter = after at hmoves ⊢
  cases hmoves with
  | taken timeout => exact h.taken now
  | refused timeout => exact h.refreshed now
  | returned hbrings =>
      rw [hbrings, if_pos rfl]
      exact h.restored now
  | limited hlimit => exact h.limited hlimit.1 hlimit.2
  | delayed timeout => exact { h with }
  | recycled hperiod =>
      exact h.recycled now (lt_of_lt_of_le (by decide) (Config.ticks_bounds hperiod).1)
  | unchanged hbrings _ =>
      rw [hbrings]
      exact h

/-- Whatever happens to a limiter, at whatever clock readings, its cell bears the cycle to which it was
last brought. -/
theorem dated_play
    {s : Ledger}
    {cycle : Nat}
    (h : s.limiter.Dated cycle)
    (moves : List (Nat × Move)) :
    (s.play moves).limiter.Dated (s.cycleAfter cycle moves) := by
  induction moves generalizing s cycle with
  | nil => exact h
  | cons m moves ih => exact ih (dated_step h m.1 m.2)

/-- A limiter is dated from its creation on. -/
theorem dated_opened
    {name : String}
    {config : Config}
    {start : Nat}
    {l s : Limiter}
    (hcreate : create name config start = .ok l)
    (moves : List (Nat × Move))
    (hplay : ((Ledger.opened l).play moves).limiter = s) :
    s.Dated ((Ledger.opened l).cycleAfter 0 moves) := by
  rw [← hplay]
  exact dated_play (Dated.of_create hcreate) moves

/-- A move leaves its own reading in the cycle it was in, and puts no epoch after it. -/
theorem step_present
    (s : Ledger)
    {now : Nat}
    (hepoch : s.limiter.timing.epoch ≤ now)
    (move : Move) :
    (s.step (now, move)).limiter.timing.cycleAt now = s.limiter.timing.cycleAt now ∧
      (s.step (now, move)).limiter.timing.epoch ≤ now := by
  have hmoves := movesTo_step s now move
  generalize (s.step (now, move)).limiter = after at hmoves ⊢
  cases hmoves with
  | taken timeout => exact ⟨rfl, hepoch⟩
  | refused timeout => exact ⟨rfl, hepoch⟩
  | returned _ => exact ⟨rfl, hepoch⟩
  | limited _ => exact ⟨rfl, hepoch⟩
  | delayed timeout => exact ⟨rfl, hepoch⟩
  | recycled _ =>
      constructor
      · simp [Timing.cycleAt]
      · exact le_rfl
  | unchanged _ _ => exact ⟨rfl, hepoch⟩

/-- One move keeps the limiter in range and its cell behind the clock. -/
theorem trails_step
    {s : Ledger}
    {cycle now : Nat}
    (h : s.limiter.Trails cycle now)
    (move : Move) :
    (s.step (now, move)).limiter.Trails
      (if s.brings move then s.limiter.timing.cycleAt now else cycle) now := by
  obtain ⟨hpresent, hepoch⟩ := step_present s h.epoch_le move
  have hreached :
      (if s.brings move then s.limiter.timing.cycleAt now else cycle) ≤
        s.limiter.timing.cycleAt now := by
    split_ifs
    · exact le_rfl
    · exact h.reached
  exact { dated_step h.dated now move with
    epoch_le := hepoch
    reached := by rwa [hpresent] }

/-- Whatever happens to a limiter, its cell trails the clock by the cycles begun since it was last
brought on. -/
theorem trails_play
    {s : Ledger}
    {cycle start now : Nat}
    (h : s.limiter.Trails cycle start)
    (moves : List (Nat × Move))
    (hclock : (start :: (moves.map Prod.fst ++ [now])).Pairwise (· ≤ ·)) :
    (s.play moves).limiter.Trails (s.cycleAfter cycle moves) now := by
  induction moves generalizing s cycle start with
  | nil =>
      rw [List.map_nil, List.nil_append, List.pairwise_pair] at hclock
      exact h.later hclock
  | cons m moves ih =>
      obtain ⟨reading, move⟩ := m
      rw [List.map_cons, List.cons_append, List.pairwise_cons] at hclock
      exact ih (trails_step (h.later (hclock.1 reading List.mem_cons_self)) move) hclock.2

/-- A limiter trails the clock from its creation on. -/
theorem trails_opened
    {name : String}
    {config : Config}
    {start now : Nat}
    {l s : Limiter}
    (hcreate : create name config start = .ok l)
    (moves : List (Nat × Move))
    (hclock : (start :: (moves.map Prod.fst ++ [now])).Pairwise (· ≤ ·))
    (hplay : ((Ledger.opened l).play moves).limiter = s) :
    s.Trails ((Ledger.opened l).cycleAfter 0 moves) now := by
  rw [← hplay]
  exact trails_play (Trails.of_create hcreate) moves hclock

end Ledger
end Limiter
end FaultTolerance
