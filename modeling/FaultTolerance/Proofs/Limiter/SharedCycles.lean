import FaultTolerance.Proofs.Limiter.Cumulative
import FaultTolerance.Proofs.Limiter.Departures

/-!
# Cycles and the grants that share them

What the places of outstanding grants say about the refill cycles in which they become usable.
Without departures the grants come in order, and no cycle is given away more often than it has
permits.  A departure does not free the slot that was held: the next caller gets the last place of
the line, beside a caller that keeps it.

**Results.**
* `Ledger.lined_of_create`: the line of every run of a new limiter.
* `Ledger.Lined.crowd`: the grants that become usable in one cycle.
* `Ledger.Lined.pairwise_usable_le`, `Ledger.Lined.countP_usableIn_le`: without departures.
* `Ledger.Lined.countP_usableIn_slot_lt`: the others in the cycle of the next caller.

So without hand-backs the grants are usable in order, with at most one limit in each cycle; and with
hand-backs a later caller shares its cycle with fewer than one limit of others, but for the
reservations that were handed back in front of them.
-/

namespace FaultTolerance
namespace Limiter

open Time

namespace Grant

/-- Whether an outstanding permit becomes usable in a cycle. -/
def usableIn
    (t : Timing)
    (cycle : Nat)
    (g : Grant) : Bool :=
  !g.returned && decide (t.cycleAt g.usable = cycle)

/-- The place of a permit that becomes usable in a cycle is one of that cycle's. -/
theorem Quoted.place_of_usableIn
    {t : Timing}
    {g : Grant}
    {cycle : Nat}
    (h : g.Quoted t)
    (hlimit : 0 < t.limit)
    (hperiod : 0 < t.period)
    (hrange : g.InRange t)
    (husable : g.usableIn t cycle = true) :
    cycle * (t.limit : Int) ≤ g.place t ∧ g.place t < (cycle + 1) * t.limit := by
  unfold usableIn at husable
  rw [Bool.and_eq_true, decide_eq_true_eq, h.cycleAt_usable hperiod hrange] at husable
  rw [← husable.2]
  exact ⟨Timing.slot_mul_limit_le g.now h.capped,
    Timing.place_lt_slot_mul_limit g.found g.now hlimit⟩

end Grant

namespace Ledger

/-- The outstanding grants that become usable in one cycle, against any place `next` that they come
before: they are as many as the places of the cycle before `next`, and one more at most for each
departure that one of them stood behind. -/
theorem Lined.crowd
    {s : Ledger}
    {departed : List Departure}
    {last : Nat}
    (h : s.Lined departed last)
    (hlimit : 0 < s.limiter.timing.limit)
    (hperiod : 0 < s.limiter.timing.period)
    (hrange : ∀ g ∈ s.grants, g.InRange s.limiter.timing)
    (cycle : Nat)
    (next : Int)
    (hnext : cycle * (s.limiter.timing.limit : Int) ≤ next)
    (hahead : ∀ (j : Nat) (g : Grant), s.grants[j]? = some g →
      g.usableIn s.limiter.timing cycle = true →
      g.place s.limiter.timing + 1 ≤ next + departed.countP fun d => d.passes j) :
    cycle * (s.limiter.timing.limit : Int)
        + s.grants.countP (Grant.usableIn s.limiter.timing cycle) ≤
      next + departed.countP
        fun d => (d.behind s.grants).any (Grant.usableIn s.limiter.timing cycle) := by
  refine crowd_le (Grant.place s.limiter.timing) _ _ _ departed s.grants ?_ hnext ?_ hahead
  · intro g hg husable
    exact ((h.recorded.quoted g hg).place_of_usableIn hlimit hperiod (hrange g hg) husable).1
  · intro j k g later hjk hj hk husable _
    unfold Grant.usableIn at husable
    rw [Bool.and_eq_true, Bool.not_eq_true'] at husable
    exact h.apart j k g later hjk hj hk husable.1

/-- A new limiter has an empty line. -/
theorem lined_opened
    {l : Limiter}
    {start : Nat}
    (hcycle : l.timing.cycleAt start = 0)
    (hcell : l.cell = ⟨0, l.timing.limit⟩) :
    (opened l).Lined [] start where
  recorded :=
    { stands := by
        show l.cell.Stands l.timing (l.timing.cycleAt start)
        rw [hcycle]
        exact Cell.Stands.full (by rw [hcell]) (by rw [hcell])
      quoted := by simp [opened]
      dated := by simp [opened]
      ordered := List.Pairwise.nil }
  made := by simp
  ahead := by simp [opened]
  apart := by simp [opened]

/-- Every run of a new limiter with unchanged settings keeps its line. -/
theorem lined_of_create
    {name : String}
    {config : Config}
    {start : Nat}
    {l : Limiter}
    (hcreate : create name config start = .ok l)
    (moves : List (Nat × Move))
    (hclock : (start :: moves.map Prod.fst).Pairwise (· ≤ ·))
    (hsteady : ∀ m ∈ moves, m.2.isChange = false)
    (hrange : ∀ g ∈ ((opened l).play moves).grants, g.InRange l.timing) :
    ∃ last ∈ start :: moves.map Prod.fst,
      ((opened l).play moves).limiter.timing = l.timing ∧
      ((opened l).play moves).Lined ((opened l).departures moves) last := by
  obtain ⟨-, htiming, hcell⟩ := create_eq_ok hcreate
  have hcycle : l.timing.cycleAt start = 0 := by
    simp [htiming, Timing.cycleAt]
  have hopened : (opened l).Lined [] start :=
    lined_opened hcycle (by rw [hcell, htiming])
  have hepoch : (opened l).limiter.timing.epoch ≤ start := by
    simp [opened, htiming]
  obtain ⟨⟨last, hlast, hlined⟩, hsame⟩ := hopened.play moves hepoch hclock hsteady hrange
  exact ⟨last, hlast, hsame, hlined⟩

/-! ### Runs without hand-backs -/

/-- The moves of callers that ask for permits, each at a clock reading and with a timeout. -/
def acquisitions (callers : List (Nat × Span)) : List (Nat × Move) :=
  callers.map fun caller => (caller.1, .acquire caller.2)

theorem clock_acquisitions (callers : List (Nat × Span)) :
    (acquisitions callers).map Prod.fst = callers.map Prod.fst := by
  simp [acquisitions, Function.comp_def]

theorem isChange_acquisitions (callers : List (Nat × Span)) :
    ∀ m ∈ acquisitions callers, m.2.isChange = false := by
  intro m hm
  obtain ⟨caller, -, rfl⟩ := List.mem_map.mp hm
  rfl

theorem departures_acquisitions
    (s : Ledger)
    (callers : List (Nat × Span)) :
    s.departures (acquisitions callers) = [] := by
  induction callers generalizing s with
  | nil => rfl
  | cons caller callers ih => exact ih (s.step (caller.1, .acquire caller.2))

/-- Who only asks for permits hands none back. -/
theorem returned_play_acquisitions
    {s : Ledger}
    (h : ∀ g ∈ s.grants, g.returned = false)
    (callers : List (Nat × Span)) :
    ∀ g ∈ (s.play (acquisitions callers)).grants, g.returned = false := by
  induction callers generalizing s with
  | nil => exact h
  | cons caller callers ih =>
      refine ih (s := s.step (caller.1, .acquire caller.2)) ?_
      intro g hg
      rcases acquire_cases s caller.1 caller.2 with ⟨new, _, _, hheld, _, _, _, heq⟩ | heq
      · simp only [Ledger.step, heq] at hg
        rcases List.mem_append.mp hg with hold | hnew
        · exact h g hold
        · rw [List.mem_singleton.mp hnew]
          exact hheld
      · simp only [Ledger.step, heq] at hg
        exact h g hg

/-- Without departures, outstanding grants have places in the order in which they were made. -/
theorem Lined.pairwise_place_lt
    {s : Ledger}
    {last : Nat}
    (h : s.Lined [] last)
    (hheld : ∀ g ∈ s.grants, g.returned = false) :
    s.grants.Pairwise fun g later => g.place s.limiter.timing < later.place s.limiter.timing := by
  refine List.pairwise_iff_getElem.mpr fun j k hj hk hjk => ?_
  have hapart :=
    h.apart j k s.grants[j] s.grants[k] hjk (List.getElem?_eq_getElem hj)
      (List.getElem?_eq_getElem hk) (hheld _ (List.getElem_mem hj))
  simp only [List.countP_nil, Nat.cast_zero, add_zero] at hapart
  omega

/-- Without departures, permits become usable in the order in which they were granted. -/
theorem Lined.pairwise_usable_le
    {s : Ledger}
    {last : Nat}
    (h : s.Lined [] last)
    (hlimit : 0 < s.limiter.timing.limit)
    (hperiod : 0 < s.limiter.timing.period)
    (hrange : ∀ g ∈ s.grants, g.InRange s.limiter.timing)
    (hheld : ∀ g ∈ s.grants, g.returned = false) :
    s.grants.Pairwise fun g later => g.usable ≤ later.usable := by
  refine (h.recorded.ordered.and (h.pairwise_place_lt hheld)).imp_of_mem ?_
  intro g later hg hlater hboth
  exact (h.recorded.quoted g hg).usable_le (h.recorded.quoted later hlater) hlimit hperiod
    (hrange g hg) (hrange later hlater) hboth.1 hboth.2.le

/-- Without departures, no cycle is given away more often than its limit. -/
theorem Lined.countP_usableIn_le
    {s : Ledger}
    {last : Nat}
    (h : s.Lined [] last)
    (hlimit : 0 < s.limiter.timing.limit)
    (hperiod : 0 < s.limiter.timing.period)
    (hrange : ∀ g ∈ s.grants, g.InRange s.limiter.timing)
    (cycle : Nat) :
    s.grants.countP (Grant.usableIn s.limiter.timing cycle) ≤ s.limiter.timing.limit := by
  have hexpand :
      ((cycle : Int) + 1) * s.limiter.timing.limit =
        cycle * (s.limiter.timing.limit : Int) + s.limiter.timing.limit := by
    ring
  have hcrowd :=
    h.crowd hlimit hperiod hrange cycle ((cycle + 1) * (s.limiter.timing.limit : Int))
      (by omega) (fun j g hj husable => ?_)
  · simp only [List.countP_nil, Nat.cast_zero, add_zero] at hcrowd
    omega
  · have hg : g ∈ s.grants := List.mem_of_getElem? hj
    have hplace :=
      ((h.recorded.quoted g hg).place_of_usableIn hlimit hperiod (hrange g hg) husable).2
    simp only [List.countP_nil, Nat.cast_zero, add_zero]
    omega

/-- The caller at the next place finds in its cycle fewer than one limit of outstanding grants, or
as many more as there were departures in front of one of them. -/
theorem Lined.countP_usableIn_slot_lt
    {s : Ledger}
    {departed : List Departure}
    {now : Nat}
    (h : s.Lined departed now)
    (hlimit : 0 < s.limiter.timing.limit)
    (hperiod : 0 < s.limiter.timing.period)
    (hrange : ∀ g ∈ s.grants, g.InRange s.limiter.timing) :
    let cycle := s.limiter.timing.slot s.limiter.cell.permits now
    s.grants.countP (Grant.usableIn s.limiter.timing cycle) <
      s.limiter.timing.limit + departed.countP
        fun d => (d.behind s.grants).any (Grant.usableIn s.limiter.timing cycle) := by
  intro cycle
  have hcapped := h.recorded.stands.capped
  have hcrowd :=
    h.crowd hlimit hperiod hrange cycle (s.nextPlace now)
      (Timing.slot_mul_limit_le now hcapped) (fun j g hj husable => ?_)
  · have hplace := Timing.place_lt_slot_mul_limit s.limiter.cell.permits now hlimit
    have hexpand :
        ((cycle : Int) + 1) * s.limiter.timing.limit =
          cycle * (s.limiter.timing.limit : Int) + s.limiter.timing.limit := by
      ring
    have hnext : s.nextPlace now < (cycle + 1) * (s.limiter.timing.limit : Int) := hplace
    omega
  · unfold Grant.usableIn at husable
    rw [Bool.and_eq_true, Bool.not_eq_true'] at husable
    have hahead := h.ahead j g hj husable.1
    omega

end Ledger

/-- **Service in order.**  In every run of acquisitions with unchanged settings and a clock that
does not go back, in which the count was never cut off at its least value and no quoted wait at the
end of the 64-bit counter: the permits become usable in the order in which they were granted, nobody
waits longer than it was willing to, and no refill cycle is given away more often than its limit. -/
theorem grants_usable_in_order
    {name : String}
    {config : Config}
    {start : Nat}
    {l : Limiter}
    (hcreate : create name config start = .ok l)
    (callers : List (Nat × Span))
    (hclock : (start :: callers.map Prod.fst).Pairwise (· ≤ ·))
    (hrange : ∀ g ∈ ((Ledger.opened l).play (Ledger.acquisitions callers)).grants,
      g.InRange l.timing) :
    let grants := ((Ledger.opened l).play (Ledger.acquisitions callers)).grants
    grants.Pairwise (fun g later => g.usable ≤ later.usable) ∧
      (∀ g ∈ grants, g.wait ≤ g.timeout.ticks) ∧
      ∀ cycle, grants.countP (fun g => decide (l.timing.cycleAt g.usable = cycle)) ≤
        config.limit := by
  intro grants
  obtain ⟨⟨hlimit, -⟩, hperiod⟩ := Ledger.bounds_of_create hcreate
  rw [← Ledger.clock_acquisitions] at hclock
  obtain ⟨last, -, htiming, hlined⟩ :=
    Ledger.lined_of_create hcreate _ hclock (Ledger.isChange_acquisitions callers) hrange
  rw [Ledger.departures_acquisitions] at hlined
  set s := (Ledger.opened l).play (Ledger.acquisitions callers)
  have hheld : ∀ g ∈ grants, g.returned = false :=
    Ledger.returned_play_acquisitions (by simp [Ledger.opened]) callers
  have hconfig : l.timing.limit = config.limit := by
    rw [(Ledger.create_eq_ok hcreate).2.1]
  rw [← hconfig]
  rw [← htiming] at hlimit hperiod hrange ⊢
  refine ⟨hlined.pairwise_usable_le hlimit hperiod hrange hheld,
    fun g hg => (hlined.recorded.quoted g hg).accepted, fun cycle => ?_⟩
  have hsame :
      grants.countP (fun g => decide (s.limiter.timing.cycleAt g.usable = cycle)) =
        grants.countP (Grant.usableIn s.limiter.timing cycle) := by
    refine List.countP_congr fun g hg => ?_
    simp [Grant.usableIn, hheld g hg]
  rw [hsame]
  exact hlined.countP_usableIn_le hlimit hperiod hrange cycle

/-- Two permits a millisecond: of six callers at once the first two go on, the next three wait for
one of the coming cycles, and the last one is refused; a seventh comes in the second cycle. -/
theorem grants_usable_in_order_six :
    let config : Config := ⟨2, Span.ofMillis 1, Span.zero⟩
    let l : Limiter := ⟨"line", ⟨2, 1000000, Span.zero, 0, 0⟩, ⟨0, 2⟩, 0⟩
    let callers : List (Nat × Span) :=
      [(0, .max), (0, .zero), (5, .max), (5, .max), (7, .max), (8, .zero), (1000001, .max)]
    let grants := ((Ledger.opened l).play (Ledger.acquisitions callers)).grants
    create "line" config 0 = .ok l ∧
      grants.map Grant.usable = [0, 0, 1000000, 1000000, 2000000, 2000000] ∧
      grants.Pairwise (fun g later => g.usable ≤ later.usable) ∧
      (∀ g ∈ grants, g.wait ≤ g.timeout.ticks) ∧
      grants.countP (fun g => decide (l.timing.cycleAt g.usable = 2)) ≤ config.limit := by
  intro config l callers grants
  have hcreate : create "line" config 0 = .ok l := rfl
  obtain ⟨hordered, haccepted, hcycles⟩ :=
    grants_usable_in_order hcreate callers (by decide +kernel) (by decide +kernel)
  exact ⟨hcreate, by decide +kernel, hordered, haccepted, hcycles 2⟩

namespace Ledger

/-- The grant that the caller number `k` gets, of those who come at one instant and accept any wait:
each finds one permit fewer than the one before it, down to the least count. -/
def queued
    (l : Limiter)
    (now k : Nat) : Grant where
  now := now
  timeout := .max
  found := max (l.cell.permits - k) minPermits
  wait := l.timing.wait (max (l.cell.permits - k) minPermits) now
  returned := false

/-- Callers that come at one instant and accept any wait. -/
theorem play_replicate_acquire
    {l : Limiter}
    {now : Nat}
    (hcycle : l.cell.cycle = UInt32.ofNat (l.timing.cycleAt now))
    (hfloor : minPermits ≤ l.cell.permits)
    (n : Nat) :
    (opened l).play (List.replicate n (now, .acquire .max)) =
      ⟨l.setCell ⟨l.cell.cycle, max (l.cell.permits - n) minPermits⟩,
        (List.range n).map (queued l now)⟩ := by
  induction n with
  | zero =>
      have hcell : max (l.cell.permits - (0 : Nat)) minPermits = l.cell.permits := by
        omega
      rw [hcell]
      rfl
  | succ n ih =>
      have hplay :
          (opened l).play (List.replicate (n + 1) (now, .acquire .max)) =
            ((opened l).play (List.replicate n (now, .acquire .max))).acquire now .max := by
        rw [List.replicate_succ']
        exact List.foldl_append
      have hfresh (found : Int) :
          (l.setCell ⟨l.cell.cycle, found⟩).freshCell now = ⟨l.cell.cycle, found⟩ :=
        Cell.refresh_of_current hcycle
      have hnext :
          max (max (l.cell.permits - n) minPermits - 1) minPermits =
            max (l.cell.permits - (n + 1 : Nat)) minPermits := by
        omega
      rw [hplay, ih, acquire_max, hfresh, List.range_succ, List.map_append, ← hnext]
      rfl

end Ledger

/-- One permit a millisecond, and more callers at once than the count can tell: the last of them,
whose permit was not counted, hands it back, and the next one is quoted the cycle of another. -/
theorem taken_beyond_least_count
    {k : Nat}
    (hk : k = 2147483648) :
    let l : Limiter := ⟨"line", ⟨1, 1000000, Span.zero, 0, 0⟩, ⟨0, 1⟩, 0⟩
    let s := (Ledger.opened l).play
      (List.replicate (k + 2) (0, .acquire .max) ++ [(0, .handBack (k + 1))])
    let cycle := l.timing.cycleAt (0 + (s.limiter.claim 0 Span.max.ticks).1.wait)
    ¬ s.grants.countP (Grant.usableIn l.timing cycle) < 1 := by
  intro l s cycle
  have hqueue :
      (Ledger.opened l).play (List.replicate (k + 2) (0, .acquire .max)) =
        ⟨l.setCell ⟨0, minPermits⟩, (List.range (k + 2)).map (Ledger.queued l 0)⟩ := by
    have hleast : max (l.cell.permits - (k + 2 : Nat)) minPermits = minPermits := by
      show max (1 - ((k + 2 : Nat) : Int)) (-2147483648) = -2147483648
      omega
    rw [Ledger.play_replicate_acquire (by decide +kernel) (by decide), hleast]
  have hplayed :
      s = ⟨(l.setCell ⟨0, minPermits⟩).restore 0,
        ((List.range (k + 2)).map (Ledger.queued l 0)).set (k + 1)
          { Ledger.queued l 0 (k + 1) with returned := true }⟩ := by
    have hs :
        s = ((Ledger.opened l).play (List.replicate (k + 2) (0, .acquire .max))).handBack 0
          (k + 1) :=
      List.foldl_append
    rw [hs, hqueue]
    exact Ledger.handBack_of_outstanding _ 0 (by simp) rfl
  have hcycle : cycle = 2147483648 := by
    show l.timing.cycleAt (0 + (s.limiter.claim 0 Span.max.ticks).1.wait) = _
    have hleft : s.limiter = (l.setCell ⟨0, minPermits⟩).restore 0 := by
      rw [hplayed]
    rw [hleft]
    decide +kernel
  have hother : Ledger.queued l 0 k ∈ s.grants := by
    rw [hplayed]
    refine List.mem_of_getElem? (i := k) ?_
    rw [List.getElem?_set_ne (by omega)]
    simp
  refine not_lt.mpr (List.countP_pos_iff.mpr ⟨Ledger.queued l 0 k, hother, ?_⟩)
  rw [hcycle, hk]
  decide +kernel

/-- A hand-back does not free the slot it held.  One permit a millisecond: after the second of three
callers hands its reservation back, the next one is quoted the cycle of the third.  With a cycle of
`2 ^ 63` nanoseconds every wait beyond the next cycle is cut off within it, so that a caller shares
it although the one before it handed its reservation back.  And so it is when the count was cut off
at its least value. -/
theorem quoted_cycle_taken :
    (let l : Limiter := ⟨"line", ⟨1, 1000000, Span.zero, 0, 0⟩, ⟨0, 1⟩, 0⟩
      let s := (Ledger.opened l).play
        [(0, .acquire .max), (0, .acquire .max), (0, .acquire .max), (10, .handBack 1)]
      let cycle := l.timing.cycleAt (20 + (s.limiter.claim 20 Span.max.ticks).1.wait)
      create "line" ⟨1, Span.ofMillis 1, Span.zero⟩ 0 = .ok l ∧
        ¬ s.grants.countP (Grant.usableIn l.timing cycle) < 1) ∧
    (let l : Limiter := ⟨"line", ⟨1, 2 ^ 63, Span.zero, 0, 0⟩, ⟨0, 1⟩, 0⟩
      let s := (Ledger.opened l).play
        [(0, .acquire .max), (0, .acquire .max), (0, .acquire .max), (0, .handBack 2)]
      let cycle := l.timing.cycleAt (0 + (s.limiter.claim 0 Span.max.ticks).1.wait)
      create "line" ⟨1, Span.clip (2 ^ 63), Span.zero⟩ 0 = .ok l ∧
        ¬ s.grants.countP (Grant.usableIn l.timing cycle) < 1) ∧
    (let l : Limiter := ⟨"line", ⟨1, 1000000, Span.zero, 0, 0⟩, ⟨0, 1⟩, 0⟩
      let s := (Ledger.opened l).play
        (List.replicate (2147483648 + 2) (0, .acquire .max) ++ [(0, .handBack (2147483648 + 1))])
      let cycle := l.timing.cycleAt (0 + (s.limiter.claim 0 Span.max.ticks).1.wait)
      create "line" ⟨1, Span.ofMillis 1, Span.zero⟩ 0 = .ok l ∧
        ¬ s.grants.countP (Grant.usableIn l.timing cycle) < 1) := by
  refine ⟨⟨rfl, ?_⟩, ⟨rfl, ?_⟩, ⟨rfl, ?_⟩⟩
  · decide +kernel
  · decide +kernel
  · exact taken_beyond_least_count rfl

/-- **Shared cycles.**  In every run with unchanged settings, a clock that does not go back and any
hand-backs, in which neither the count nor a quoted wait was cut off: the wait that a later caller is
quoted ends in a refill cycle in which fewer than one limit of outstanding permits become usable, or
at most as many more as there were reservations handed back in front of one of these. -/
theorem others_in_quoted_cycle_lt
    {name : String}
    {config : Config}
    {start now : Nat}
    {l : Limiter}
    (hcreate : create name config start = .ok l)
    (moves : List (Nat × Move))
    (hclock : (start :: (moves.map Prod.fst ++ [now])).Pairwise (· ≤ ·))
    (hsteady : ∀ m ∈ moves, m.2.isChange = false)
    {s : Ledger}
    (hplay : (Ledger.opened l).play moves = s)
    (hrange : ∀ g ∈ s.grants, g.InRange l.timing)
    (timeout : Span)
    (hquote : l.timing.fullWait (s.limiter.freshCell now).permits now ≤ maxTicks) :
    let cycle := l.timing.cycleAt (now + (s.limiter.claim now timeout.ticks).1.wait)
    s.grants.countP (Grant.usableIn l.timing cycle) <
      config.limit + ((Ledger.opened l).departures moves).countP
        fun d => (d.behind s.grants).any (Grant.usableIn l.timing cycle) := by
  intro cycle
  obtain ⟨⟨hlimit, -⟩, hperiod⟩ := Ledger.bounds_of_create hcreate
  have hconfig : l.timing.limit = config.limit := by
    rw [(Ledger.create_eq_ok hcreate).2.1]
  rw [← List.cons_append, List.pairwise_append] at hclock
  obtain ⟨last, hlast, htiming, hlined⟩ :=
    Ledger.lined_of_create hcreate moves hclock.1 hsteady (by rw [hplay]; exact hrange)
  rw [hplay] at htiming hlined
  have hnow (earlier : Nat) (hearlier : earlier ∈ start :: moves.map Prod.fst) : earlier ≤ now :=
    hclock.2.2 earlier hearlier now (List.mem_singleton_self now)
  have hepoch : l.timing.epoch ≤ now := by
    rw [(Ledger.create_eq_ok hcreate).2.1]
    exact hnow start List.mem_cons_self
  have hcycle : cycle = l.timing.slot (s.limiter.freshCell now).permits now := by
    rw [← l.timing.cycleAt_add_wait _ hperiod hepoch hquote]
    show l.timing.cycleAt (now + _) = _
    rw [claim_wait, htiming]
  -- The caller stands at the next place, once the cell is brought to the present cycle.
  have hfresh := hlined.refresh (hnow last hlast)
  rw [hcycle, ← hconfig, ← htiming]
  rw [← htiming] at hlimit hperiod hrange
  exact hfresh.countP_usableIn_slot_lt hlimit hperiod hrange

/-- Of four callers at once, one permit a millisecond, the third hands its reservation back, and
then the first of those that wait: a fifth gets the place of the fourth, which was behind both. -/
theorem others_in_quoted_cycle_lt_behind :
    let config : Config := ⟨1, Span.ofMillis 1, Span.zero⟩
    let l : Limiter := ⟨"line", ⟨1, 1000000, Span.zero, 0, 0⟩, ⟨0, 1⟩, 0⟩
    let moves : List (Nat × Move) :=
      [(0, .acquire .max), (0, .acquire .max), (0, .acquire .max), (0, .acquire .max),
        (10, .handBack 3), (10, .handBack 1)]
    let s := (Ledger.opened l).play moves
    let cycle := l.timing.cycleAt (20 + (s.limiter.claim 20 Span.max.ticks).1.wait)
    create "line" config 0 = .ok l ∧
      s.grants.map Grant.usable = [0, 1000000, 2000000, 3000000] ∧
      (Ledger.opened l).departures moves = [⟨3, 4⟩, ⟨1, 4⟩] ∧
      cycle = 2 ∧
      s.grants.countP (Grant.usableIn l.timing cycle) <
        config.limit + ((Ledger.opened l).departures moves).countP
          fun d => (d.behind s.grants).any (Grant.usableIn l.timing cycle) := by
  intro config l moves s cycle
  have hcreate : create "line" config 0 = .ok l := rfl
  have hclock : (0 :: (moves.map Prod.fst ++ [20])).Pairwise (· ≤ ·) := by
    decide +kernel
  refine ⟨hcreate, by decide +kernel, by decide +kernel, by decide +kernel, ?_⟩
  exact others_in_quoted_cycle_lt hcreate moves hclock (by decide +kernel) rfl (by decide +kernel)
    Span.max (by decide +kernel)

end Limiter
end FaultTolerance
