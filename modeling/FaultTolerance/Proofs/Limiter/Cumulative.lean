import FaultTolerance.Proofs.Limiter.Ledger

/-!
# Permits that become usable early

A rate limiter promises permits of coming cycles, refills lazily and takes permits back in any
order, so that the callers that keep waiting hold slots that the count no longer shows.  What ties
the count to the grants all the same is one inequality: the outstanding permits and the count
together never exceed the limits of the cycles up to the present one.  A caller that takes a permit
does so in the slot that its wait ends in, and when it does, all outstanding permits together fit
into the cycles up to that slot.

**Results.**
* `Ledger.Covered`: the invariant, with one lemma for each kind of move.
* `Ledger.Covered.play`: a whole run keeps it.

In every run, at most `cycle + 1` limits of permits that are never handed back become usable in the
cycles up to `cycle`.
-/

namespace FaultTolerance
namespace Limiter

open Time

namespace Ledger

/-- The permits and the count fit into the cycles so far: `cycle` is the one that the cell was last
brought to. -/
structure Covered
    (s : Ledger)
    (cycle : Nat) : Prop where
  floor : minPermits ≤ s.limiter.cell.permits
  stored : s.limiter.cell.cycle = UInt32.ofNat cycle
  net : (s.outstanding : Int) + s.limiter.cell.permits ≤ (cycle + 1) * (s.limiter.timing.limit : Int)
  cover : ∀ c, s.usableThrough s.limiter.timing c ≤ (c + 1) * s.limiter.timing.limit

namespace Covered

variable {s : Ledger} {cycle now : Nat}

/-- Bringing the cell to the present cycle adds at most what that cycle and the ones before it
bring. -/
theorem refresh
    (h : s.Covered cycle)
    (hcycle : cycle ≤ s.limiter.timing.cycleAt now) :
    Covered ⟨s.limiter.setCell (s.limiter.freshCell now), s.grants⟩
      (s.limiter.timing.cycleAt now) where
  floor := Cell.le_refresh_permits _ _ h.floor
  stored := Cell.refresh_cycle _ _ _
  net := by
    have hadded := Cell.refresh_permits_le h.stored hcycle h.floor
    have hnet := h.net
    have hexpand :
        ((s.limiter.timing.cycleAt now : Int) + 1) * s.limiter.timing.limit =
          (cycle + 1) * (s.limiter.timing.limit : Int)
            + ((s.limiter.timing.cycleAt now - cycle) * s.limiter.timing.limit : Nat) := by
      rw [Nat.cast_mul, Nat.cast_sub hcycle]
      ring
    show (s.outstanding : Int) + (s.limiter.cell.refresh s.limiter.timing now).permits ≤
      (s.limiter.timing.cycleAt now + 1) * (s.limiter.timing.limit : Int)
    rw [hexpand]
    omega
  cover := h.cover

/-- A permit granted in the present cycle fits, together with all outstanding ones, into the cycles
up to its slot. -/
theorem grant
    (h : s.Covered (s.limiter.timing.cycleAt now))
    {g : Grant}
    (hlimit : 0 < s.limiter.timing.limit)
    (hperiod : 0 < s.limiter.timing.period)
    (hepoch : s.limiter.timing.epoch ≤ now)
    (hnow : g.now = now)
    (hreturned : g.returned = false)
    (hfound : g.found = s.limiter.cell.permits)
    (hwait : g.wait = s.limiter.timing.wait g.found now)
    (hrange : g.InRange s.limiter.timing) :
    Covered ⟨s.limiter.setCell s.limiter.cell.take, s.grants ++ [g]⟩
      (s.limiter.timing.cycleAt now) := by
  obtain ⟨hmin, hfull⟩ := hrange
  rw [hnow] at hfull
  have htake : s.limiter.cell.take.permits = s.limiter.cell.permits - 1 := by
    rw [hfound] at hmin
    simp only [Cell.take]
    omega
  have hslot :
      s.limiter.timing.cycleAt g.usable = s.limiter.timing.slot g.found now := by
    unfold Grant.usable
    rw [hnow, hwait]
    exact Timing.cycleAt_add_wait _ _ hperiod hepoch hfull
  have houtstanding :
      outstanding ⟨s.limiter.setCell s.limiter.cell.take, s.grants ++ [g]⟩ =
        s.outstanding + 1 := by
    simp [outstanding, hreturned]
  have hnet := h.net
  refine ⟨?_, h.stored, ?_, ?_⟩
  · have hfloor := h.floor
    simp only [setCell_cell, Cell.take]
    omega
  · rw [houtstanding, setCell_cell, setCell_timing, htake]
    push_cast
    omega
  · intro c
    by_cases hearly : s.limiter.timing.slot g.found now ≤ c
    · -- The new permit counts: all outstanding ones fit up to its slot.
      have hfit := Timing.lt_slot_mul_limit s.limiter.timing g.found now hlimit
      have hslots :
          (s.limiter.timing.slot g.found now + 1) * s.limiter.timing.limit ≤
            (c + 1) * s.limiter.timing.limit :=
        Nat.mul_le_mul_right _ (by omega)
      refine le_trans (usableThrough_le_outstanding _ _ _) (le_trans ?_ hslots)
      rw [houtstanding]
      rw [hfound] at hfit ⊢
      zify
      omega
    · -- The new permit is too late to count.
      have hlate :
          usableThrough ⟨s.limiter.setCell s.limiter.cell.take, s.grants ++ [g]⟩
              s.limiter.timing c =
            s.usableThrough s.limiter.timing c := by
        simp [usableThrough, hslot, hearly]
      exact hlate.trans_le (h.cover c)

/-- A permit handed back leaves the outstanding ones and adds at most one to the count. -/
theorem giveBack
    (h : s.Covered cycle)
    {ticket : Nat}
    {g : Grant}
    (hg : s.grants[ticket]? = some g)
    (hreturned : g.returned = false) :
    Covered
      ⟨s.limiter.setCell (s.limiter.cell.giveBack s.limiter.timing),
        s.grants.set ticket { g with returned := true }⟩
      cycle := by
  obtain ⟨hticket, hget⟩ := List.getElem?_eq_some_iff.mp hg
  have hheld : 1 ≤ s.outstanding := by
    refine List.one_le_countP_iff.mpr ⟨g, ?_, by simp [hreturned]⟩
    rw [← hget]
    exact List.getElem_mem hticket
  have houtstanding :
      (s.grants.set ticket { g with returned := true }).countP (fun g => !g.returned) + 1 =
        s.outstanding := by
    rw [List.countP_set hticket, hget]
    unfold outstanding at hheld ⊢
    simp only [hreturned, Bool.not_false, if_true, Bool.not_true, Bool.false_eq_true, if_false]
    omega
  have hback : (s.limiter.cell.giveBack s.limiter.timing).permits ≤ s.limiter.cell.permits + 1 := by
    simp only [Cell.giveBack]
    omega
  have hnet := h.net
  refine ⟨?_, h.stored, ?_, ?_⟩
  · have hfloor := h.floor
    have hlimit : (0 : Int) ≤ s.limiter.timing.limit := Int.natCast_nonneg _
    simp only [setCell_cell, Cell.giveBack, minPermits, maxPermits] at hfloor ⊢
    omega
  · show ((s.grants.set ticket { g with returned := true }).countP (fun g => !g.returned) : Int)
        + (s.limiter.cell.giveBack s.limiter.timing).permits ≤
      (cycle + 1) * (s.limiter.timing.limit : Int)
    omega
  · intro c
    refine le_trans ?_ (h.cover c)
    simp only [usableThrough, setCell_timing]
    rw [List.countP_set hticket]
    simp only [Bool.not_true, Bool.false_and, Bool.false_eq_true, if_false, Nat.add_zero]
    exact Nat.sub_le _ _

/-- One move at a later clock reading keeps the permits covered. -/
theorem step
    (h : s.Covered cycle)
    (hlimit : 0 < s.limiter.timing.limit)
    (hperiod : 0 < s.limiter.timing.period)
    {m : Nat × Move}
    (hepoch : s.limiter.timing.epoch ≤ m.1)
    (hcycle : cycle ≤ s.limiter.timing.cycleAt m.1)
    (hsteady : m.2.isChange = false)
    (hrange : ∀ g ∈ (s.step m).grants, g.InRange s.limiter.timing) :
    ∃ later ≤ s.limiter.timing.cycleAt m.1, (s.step m).Covered later := by
  obtain ⟨now, move⟩ := m
  cases move with
  | acquire timeout =>
      refine ⟨s.limiter.timing.cycleAt now, le_rfl, ?_⟩
      have hfresh := h.refresh hcycle
      rcases acquire_cases s now timeout with
        ⟨g, hnow, _, hreturned, hfound, hwait, _, heq⟩ | heq
      · simp only [Ledger.step, heq] at hrange ⊢
        exact hfresh.grant hlimit hperiod hepoch hnow hreturned hfound hwait
          (hrange g (by simp))
      · simp only [Ledger.step, heq]
        exact hfresh
  | handBack ticket =>
      rcases handBack_cases s now ticket with ⟨g, hg, hreturned, heq⟩ | heq
      · refine ⟨s.limiter.timing.cycleAt now, le_rfl, ?_⟩
        simp only [Ledger.step, heq]
        exact (h.refresh hcycle).giveBack hg hreturned
      · refine ⟨cycle, hcycle, ?_⟩
        simp only [Ledger.step, heq]
        exact h
  | changeLimit _ => cases hsteady
  | changeTimeout _ => cases hsteady
  | changePeriod _ => cases hsteady

/-- A whole run keeps the permits covered. -/
theorem play
    (moves : List (Nat × Move))
    (h : s.Covered cycle)
    (hlimit : 0 < s.limiter.timing.limit)
    (hperiod : 0 < s.limiter.timing.period)
    (hepoch : s.limiter.timing.epoch ≤ now)
    (hcycle : cycle ≤ s.limiter.timing.cycleAt now)
    (hclock : (now :: moves.map Prod.fst).Pairwise (· ≤ ·))
    (hsteady : ∀ m ∈ moves, m.2.isChange = false)
    (hrange : ∀ g ∈ (s.play moves).grants, g.InRange s.limiter.timing) :
    (∃ last, (s.play moves).Covered last) ∧
      (s.play moves).limiter.timing = s.limiter.timing := by
  -- The cell may lag behind the clock, so the cycle it was last brought to is kept general.
  induction moves generalizing s cycle now with
  | nil => exact ⟨⟨cycle, h⟩, rfl⟩
  | cons m moves ih =>
      rw [List.map_cons, List.pairwise_cons] at hclock
      obtain ⟨hlater, hrest⟩ := hclock
      have hm : now ≤ m.1 := hlater _ (by simp)
      have htiming := step_timing s (hsteady m (by simp))
      obtain ⟨later, hle, hcovered⟩ :=
        h.step hlimit hperiod (le_trans hepoch hm)
          (le_trans hcycle (Timing.cycleAt_mono _ hm)) (hsteady m (by simp))
          (inRange_of_play _ moves hrange)
      rw [← htiming] at hlimit hperiod hle hrange ⊢
      exact ih hcovered hlimit hperiod (by rw [htiming]; exact le_trans hepoch hm) hle hrest
        (fun m' hm' => hsteady m' (by simp [hm'])) hrange

end Covered

/-- A new limiter is covered: it holds one limit of permits in its first cycle. -/
theorem covered_opened
    {l : Limiter}
    (hcell : l.cell = ⟨0, l.timing.limit⟩) :
    (opened l).Covered 0 := by
  refine ⟨?_, ?_, ?_, ?_⟩
  · simp only [opened, hcell, minPermits]
    omega
  · simp only [opened, hcell]
    rfl
  · simp [opened, outstanding, hcell]
  · intro c
    simp [opened, usableThrough]

end Ledger

/-- **Cumulative bound.**  In every run with unchanged settings and a clock that does not go back,
in which the count was never cut off at its least value and no quoted wait at the end of the 64-bit
counter, at most `cycle + 1` limits of permits that are never handed back become usable in the
refill cycles up to `cycle`, counted from the creation of the limiter. -/
theorem usable_through_cycle_le
    {name : String}
    {config : Config}
    {start : Nat}
    {l : Limiter}
    (hcreate : create name config start = .ok l)
    (moves : List (Nat × Move))
    (hclock : (start :: moves.map Prod.fst).Pairwise (· ≤ ·))
    (hsteady : ∀ m ∈ moves, m.2.isChange = false)
    (hrange : ∀ g ∈ ((Ledger.opened l).play moves).grants, g.InRange l.timing)
    (cycle : Nat) :
    ((Ledger.opened l).play moves).grants.countP
        (fun g => !g.returned && decide ((g.usable - start) / config.period.ticks ≤ cycle)) ≤
      (cycle + 1) * config.limit := by
  obtain ⟨hvalid, htiming, hcell⟩ := Ledger.create_eq_ok hcreate
  have hlimit : 0 < l.timing.limit := by
    rw [htiming]
    exact ((Config.validate_eq_ok_iff config).mp hvalid).1.1
  have hperiod : 0 < l.timing.period := by
    rw [htiming]
    exact Config.period_ticks_pos hvalid
  have hcovered : (Ledger.opened l).Covered 0 :=
    Ledger.covered_opened (by rw [hcell, htiming])
  obtain ⟨⟨last, hlast⟩, hsame⟩ :=
    hcovered.play moves hlimit hperiod (by simp [Ledger.opened, htiming]) (Nat.zero_le _)
      hclock hsteady hrange
  have hcover := hlast.cover cycle
  rw [hsame] at hcover
  simpa [Ledger.usableThrough, Ledger.opened, htiming, Timing.cycleAt] using hcover

/-- One permit a millisecond: of three callers at once the second hands its permit back, and a fourth
takes it at the end of the line, in a cycle whose own permit is promised already. -/
theorem usable_through_cycle_le_handBack :
    let config : Config := ⟨1, Span.ofMillis 1, Span.zero⟩
    let l : Limiter := ⟨"line", ⟨1, 1000000, Span.zero, 0, 0⟩, ⟨0, 1⟩, 0⟩
    let moves : List (Nat × Move) :=
      [(0, .acquire .max), (0, .acquire .max), (0, .acquire .max), (10, .handBack 1),
        (20, .acquire .max)]
    create "line" config 0 = .ok l ∧
      ((Ledger.opened l).play moves).grants.map Grant.usable = [0, 1000000, 2000000, 2000000] ∧
      ((Ledger.opened l).play moves).grants.countP
          (fun g => !g.returned && decide ((g.usable - 0) / config.period.ticks ≤ 2)) ≤
        (2 + 1) * config.limit := by
  intro config l moves
  have hcreate : create "line" config 0 = .ok l := rfl
  refine ⟨hcreate, by decide +kernel, ?_⟩
  exact usable_through_cycle_le hcreate moves (by decide +kernel) (by decide +kernel)
    (by decide +kernel) 2

end Limiter
end FaultTolerance
