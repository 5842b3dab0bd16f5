import FaultTolerance.Proofs.Limiter.Cycles
import FaultTolerance.Proofs.Settings

/-!
# The ledger of a rate limiter

A ledger keeps, beside a rate limiter, every permit the limiter granted: when, to whom it was
quoted which wait, and whether it was handed back.  A run is a list of moves, each with the clock
reading at which its critical section passes.  Callers interleave freely, so an acquisition and the
hand-back of its permit are moves of their own, in any order with those of other callers.

A caller that reserves, that blocks, that sleeps on a scheduler or that runs a call takes its permit
in the same section, `Limiter.claim`, and gives it back in the same section, `Limiter.restore`.

## Main definitions

* `Grant`, `Grant.usable`: a permit and the instant at which it may be used.
* `Move`, `Ledger.step`, `Ledger.play`: runs.
* `Grant.InRange`: neither the count nor the quoted wait was cut off.

**Results.**
* `claim_of_fits`, `claim_of_late`: what an acquisition does; `of_claim_taken`, `of_claim_refused`:
  what is known after it.
* `Ledger.inRange_of_play`: what is in range after a run was in range throughout.
-/

namespace FaultTolerance
namespace Limiter

open Time

/-- A permit that was granted: the clock reading, the wait the caller accepted, the permits it
found, the wait it was quoted, and whether the permit was handed back. -/
structure Grant where
  now : Nat
  timeout : Span
  found : Int
  wait : Nat
  returned : Bool

/-- The instant at which a permit may be used. -/
def Grant.usable (g : Grant) : Nat :=
  g.now + g.wait

/-- The caller did not find the least count there is, and its quoted wait was not cut off at the end
of a 64-bit counter. -/
def Grant.InRange
    (t : Timing)
    (g : Grant) : Prop :=
  minPermits < g.found ∧ t.fullWait g.found g.now ≤ maxTicks

instance
    (t : Timing)
    (g : Grant) : Decidable (g.InRange t) :=
  inferInstanceAs (Decidable (_ ∧ _))

/-- What may happen to a rate limiter; a ticket is the number of a grant, counted from zero. -/
inductive Move where
  | acquire (timeout : Span)
  | handBack (ticket : Nat)
  | changeLimit (limit : Nat)
  | changeTimeout (timeout : Span)
  | changePeriod (period : Span)

/-- Whether a move asks for new settings. -/
def Move.isChange : Move → Bool
  | .acquire _ | .handBack _ => false
  | .changeLimit _ | .changeTimeout _ | .changePeriod _ => true

/-- A rate limiter with the grants it made, in their order. -/
structure Ledger where
  limiter : Limiter
  grants : List Grant

namespace Ledger

/-- A limiter that made no grant yet. -/
def opened (l : Limiter) : Ledger :=
  ⟨l, []⟩

/-- Ask for a permit; the grant, if any, is written down. -/
def acquire
    (s : Ledger)
    (now : Nat)
    (timeout : Span) : Ledger :=
  let (quote, after) := s.limiter.claim now timeout.ticks
  if quote.taken then
    { limiter := after
      grants := s.grants ++
        [{ now, timeout, wait := quote.wait, returned := false
           found := (s.limiter.cell.refresh s.limiter.timing now).permits }] }
  else { s with limiter := after }

/-- Hand back the permit of a ticket, unless there is none or it was handed back before. -/
def handBack
    (s : Ledger)
    (now ticket : Nat) : Ledger :=
  match s.grants[ticket]? with
  | some g =>
    if g.returned then s
    else
      { limiter := s.limiter.restore now
        grants := s.grants.set ticket { g with returned := true } }
  | none => s

/-- One move at a clock reading. -/
def step
    (s : Ledger) : Nat × Move → Ledger
  | (now, .acquire timeout) => s.acquire now timeout
  | (now, .handBack ticket) => s.handBack now ticket
  | (now, .changeLimit limit) =>
    { s with limiter := ((changeLimit limit).run ⟨now, .zero false⟩ s.limiter).2.1 }
  | (now, .changeTimeout timeout) =>
    { s with limiter := ((changeTimeout timeout).run ⟨now, .zero false⟩ s.limiter).2.1 }
  | (now, .changePeriod period) =>
    { s with limiter := ((changePeriod period).run ⟨now, .zero false⟩ s.limiter).2.1 }

/-- A whole run. -/
def play
    (s : Ledger)
    (moves : List (Nat × Move)) : Ledger :=
  moves.foldl step s

/-- The grants that were not handed back. -/
def outstanding (s : Ledger) : Nat :=
  s.grants.countP fun g => !g.returned

/-- The grants that were not handed back and become usable in one of the cycles up to `cycle`. -/
def usableThrough
    (s : Ledger)
    (t : Timing)
    (cycle : Nat) : Nat :=
  s.grants.countP fun g => !g.returned && decide (t.cycleAt g.usable ≤ cycle)

/-- Every permit usable early enough is an outstanding one. -/
theorem usableThrough_le_outstanding
    (s : Ledger)
    (t : Timing)
    (cycle : Nat) :
    s.usableThrough t cycle ≤ s.outstanding := by
  refine List.countP_mono_left fun g _ hg => ?_
  simp only [Bool.and_eq_true] at hg
  exact hg.1

/-! ### New limiters -/

/-- What a new limiter looks like. -/
theorem create_eq_ok
    {name : String}
    {config : Config}
    {start : Nat}
    {l : Limiter}
    (hcreate : create name config start = .ok l) :
    config.validate = .ok () ∧
      l.timing = ⟨config.limit, config.period.ticks, config.timeout, start, 0⟩ ∧
      l.cell = ⟨0, config.limit⟩ := by
  unfold create at hcreate
  rw [checked_bind_eq_ok_iff] at hcreate
  obtain ⟨hvalid, hcreated⟩ := hcreate
  cases hcreated
  exact ⟨hvalid, rfl, rfl⟩

/-- What the accepted settings say about the limit and the cycles. -/
theorem bounds_of_create
    {name : String}
    {config : Config}
    {start : Nat}
    {l : Limiter}
    (hcreate : create name config start = .ok l) :
    (0 < l.timing.limit ∧ l.timing.limit ≤ maxLimit) ∧ 0 < l.timing.period := by
  obtain ⟨hvalid, htiming, -⟩ := create_eq_ok hcreate
  rw [htiming]
  exact ⟨((Config.validate_eq_ok_iff config).mp hvalid).1, Config.period_ticks_pos hvalid⟩

end Ledger

/-! ### What a move does -/

/-- The limiter with another cell. -/
def setCell
    (l : Limiter)
    (c : Cell) : Limiter :=
  { l with cell := c }

@[simp]
theorem setCell_cell
    (l : Limiter)
    (c : Cell) : (l.setCell c).cell = c :=
  rfl

@[simp]
theorem setCell_timing
    (l : Limiter)
    (c : Cell) : (l.setCell c).timing = l.timing :=
  rfl

/-- The cell in the cycle of a clock reading. -/
def freshCell
    (l : Limiter)
    (now : Nat) : Cell :=
  l.cell.refresh l.timing now

section Moves

variable (s : Ledger) (now : Nat)

/-- A caller whose wait fits its timeout takes a permit. -/
theorem claim_of_fits
    {l : Limiter}
    {timeout : Nat}
    (h : l.timing.wait (l.freshCell now).permits now ≤ timeout) :
    l.claim now timeout =
      (⟨l.timing.wait (l.freshCell now).permits now, true⟩, l.setCell (l.freshCell now).take) := by
  unfold freshCell at h
  simp only [claim, if_pos h, freshCell, setCell]

/-- A caller whose wait does not fit only brings the cell to the present cycle. -/
theorem claim_of_late
    {l : Limiter}
    {timeout : Nat}
    (h : ¬ l.timing.wait (l.freshCell now).permits now ≤ timeout) :
    l.claim now timeout =
      (⟨l.timing.wait (l.freshCell now).permits now, false⟩, l.setCell (l.freshCell now)) := by
  unfold freshCell at h
  simp only [claim, if_neg h, freshCell, setCell]

/-- Whether or not it takes a permit, a caller is quoted the wait for the permits it finds, and takes one
when that fits. -/
theorem claim_answer
    (l : Limiter)
    (timeout : Nat) :
    (l.claim now timeout).1 =
      ⟨l.timing.wait (l.freshCell now).permits now,
        decide (l.timing.wait (l.freshCell now).permits now ≤ timeout)⟩ := by
  by_cases h : l.timing.wait (l.freshCell now).permits now ≤ timeout
  · rw [claim_of_fits now h, decide_eq_true h]
  · rw [claim_of_late now h, decide_eq_false h]

theorem claim_wait
    (l : Limiter)
    (timeout : Nat) :
    (l.claim now timeout).1.wait = l.timing.wait (l.freshCell now).permits now :=
  congrArg Quote.wait (claim_answer now l timeout)

/-- Who hands back a permit leaves one more than it finds, up to the limit. -/
theorem restore_permits
    {l : Limiter}
    (hlimit : l.timing.limit ≤ maxLimit) :
    (l.restore now).cell.permits = min ((l.freshCell now).permits + 1) l.timing.limit := by
  show min (min ((l.freshCell now).permits + 1) maxPermits) (l.timing.limit : Int) = _
  simp only [maxPermits, maxLimit] at hlimit ⊢
  omega

/-- What is known of a caller that took a permit. -/
theorem of_claim_taken
    {l after : Limiter}
    {timeout wait : Nat}
    (h : l.claim now timeout = (⟨wait, true⟩, after)) :
    wait = l.timing.wait (l.freshCell now).permits now ∧
      after = l.setCell (l.freshCell now).take := by
  by_cases hfits : l.timing.wait (l.freshCell now).permits now ≤ timeout
  · rw [claim_of_fits now hfits] at h
    cases h
    exact ⟨rfl, rfl⟩
  · rw [claim_of_late now hfits] at h
    cases h

/-- What is known of a caller that took none. -/
theorem of_claim_refused
    {l after : Limiter}
    {timeout wait : Nat}
    (h : l.claim now timeout = (⟨wait, false⟩, after)) :
    timeout < l.timing.wait (l.freshCell now).permits now ∧
      after = l.setCell (l.freshCell now) := by
  by_cases hfits : l.timing.wait (l.freshCell now).permits now ≤ timeout
  · rw [claim_of_fits now hfits] at h
    cases h
  · rw [claim_of_late now hfits] at h
    cases h
    exact ⟨not_le.mp hfits, rfl⟩

namespace Ledger

/-- An acquisition either makes a grant with the quoted wait or only refills. -/
theorem acquire_cases (timeout : Span) :
    (∃ g : Grant,
      g.now = now ∧ g.timeout = timeout ∧ g.returned = false ∧
      g.found = (s.limiter.freshCell now).permits ∧
      g.wait = s.limiter.timing.wait g.found now ∧ g.wait ≤ timeout.ticks ∧
      s.acquire now timeout =
        ⟨s.limiter.setCell (s.limiter.freshCell now).take, s.grants ++ [g]⟩)
      ∨
    s.acquire now timeout = ⟨s.limiter.setCell (s.limiter.freshCell now), s.grants⟩ := by
  by_cases hfits : s.limiter.timing.wait (s.limiter.freshCell now).permits now ≤ timeout.ticks
  · left
    refine ⟨⟨now, timeout, (s.limiter.freshCell now).permits,
      s.limiter.timing.wait (s.limiter.freshCell now).permits now, false⟩,
      rfl, rfl, rfl, rfl, rfl, hfits, ?_⟩
    simp only [acquire, claim_of_fits now hfits, if_true, freshCell]
  · right
    simp only [acquire, claim_of_late now hfits, Bool.false_eq_true, if_false]

/-- A caller that accepts any wait takes a permit. -/
theorem acquire_max :
    s.acquire now .max =
      ⟨s.limiter.setCell (s.limiter.freshCell now).take,
        s.grants ++
          [{ now
             timeout := .max
             found := (s.limiter.freshCell now).permits
             wait := s.limiter.timing.wait (s.limiter.freshCell now).permits now
             returned := false }]⟩ := by
  have hfits :
      s.limiter.timing.wait (s.limiter.freshCell now).permits now ≤ Span.max.ticks := by
    rw [Timing.wait_eq_min_fullWait]
    exact min_le_right _ _
  simp only [acquire, claim_of_fits now hfits, if_true, freshCell]

/-- What the hand-back of an outstanding permit does. -/
theorem handBack_of_outstanding
    {ticket : Nat}
    {g : Grant}
    (hfound : s.grants[ticket]? = some g)
    (hheld : g.returned = false) :
    s.handBack now ticket =
      ⟨s.limiter.restore now, s.grants.set ticket { g with returned := true }⟩ := by
  unfold handBack
  rw [hfound]
  dsimp only
  rw [hheld]
  rfl

/-- A hand-back either returns an outstanding permit or does nothing. -/
theorem handBack_cases (ticket : Nat) :
    (∃ g : Grant,
      s.grants[ticket]? = some g ∧ g.returned = false ∧
      s.handBack now ticket =
        ⟨s.limiter.setCell ((s.limiter.freshCell now).giveBack s.limiter.timing),
          s.grants.set ticket { g with returned := true }⟩)
      ∨
    s.handBack now ticket = s := by
  cases hfound : s.grants[ticket]? with
  | none => exact Or.inr (by simp [handBack, hfound])
  | some g =>
      cases hreturned : g.returned with
      | true => exact Or.inr (by simp [handBack, hfound, hreturned])
      | false => exact Or.inl ⟨g, rfl, hreturned, handBack_of_outstanding s now hfound hreturned⟩

/-- Without new settings the timing stays what it was. -/
theorem step_timing
    {m : Nat × Move}
    (hsteady : m.2.isChange = false) :
    (s.step m).limiter.timing = s.limiter.timing := by
  obtain ⟨now, move⟩ := m
  cases move with
  | acquire timeout =>
      rcases acquire_cases s now timeout with ⟨g, _, _, _, _, _, _, heq⟩ | heq
      · simp only [step, heq, setCell_timing]
      · simp only [step, heq, setCell_timing]
  | handBack ticket =>
      rcases handBack_cases s now ticket with ⟨g, _, _, heq⟩ | heq
      · simp only [step, heq, setCell_timing]
      · simp only [step, heq]
  | changeLimit _ => cases hsteady
  | changeTimeout _ => cases hsteady
  | changePeriod _ => cases hsteady

/-- What a grant found and when is never rewritten. -/
theorem exists_grant_step
    {g : Grant}
    (hg : g ∈ s.grants)
    (m : Nat × Move) :
    ∃ g' ∈ (s.step m).grants, g'.now = g.now ∧ g'.found = g.found := by
  obtain ⟨now, move⟩ := m
  cases move with
  | acquire timeout =>
      rcases acquire_cases s now timeout with ⟨new, _, _, _, _, _, _, heq⟩ | heq
      · exact ⟨g, by simp [step, heq, hg], rfl, rfl⟩
      · exact ⟨g, by simp [step, heq, hg], rfl, rfl⟩
  | handBack ticket =>
      rcases handBack_cases s now ticket with ⟨back, hback, _, heq⟩ | heq
      · obtain ⟨i, hi, rfl⟩ := List.getElem_of_mem hg
        obtain ⟨hticket, rfl⟩ := List.getElem?_eq_some_iff.mp hback
        simp only [step, heq]
        by_cases hsame : i = ticket
        · subst hsame
          exact ⟨_, List.mem_set hi _, rfl, rfl⟩
        · refine ⟨s.grants[i], ?_, rfl, rfl⟩
          refine List.mem_iff_getElem.mpr ⟨i, by simpa using hi, ?_⟩
          exact List.getElem_set_of_ne (fun h => hsame h.symm) _ _
      · exact ⟨g, by simpa [step, heq] using hg, rfl, rfl⟩
  | changeLimit _ => exact ⟨g, hg, rfl, rfl⟩
  | changeTimeout _ => exact ⟨g, hg, rfl, rfl⟩
  | changePeriod _ => exact ⟨g, hg, rfl, rfl⟩

/-- If every grant is in range after a run, every grant was before it. -/
theorem inRange_of_play
    {t : Timing}
    (moves : List (Nat × Move))
    (h : ∀ g ∈ (s.play moves).grants, g.InRange t) :
    ∀ g ∈ s.grants, g.InRange t := by
  induction moves generalizing s with
  | nil => exact h
  | cons m moves ih =>
      intro g hg
      obtain ⟨g', hg', hnow, hfound⟩ := exists_grant_step s hg m
      have hrange := ih (s.step m) h g' hg'
      unfold Grant.InRange at hrange ⊢
      rwa [hnow, hfound] at hrange

end Ledger
end Moves
end Limiter
end FaultTolerance
