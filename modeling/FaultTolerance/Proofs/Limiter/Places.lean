import FaultTolerance.Proofs.Limiter.Ledger
import FaultTolerance.Proofs.Limiter.Refill

/-!
# Places in line

The permits of all cycles form one line, one limit of places to each cycle: the places of cycle `c`
are those from `c * limit` up to `(c + 1) * limit`.  The count of a cell is the place that the next
grant gets, and the slot of a caller is the cycle that its place belongs to.  Each grant moves on to
the next place; a refill may skip places of cycles that are over, but never goes back; only a
hand-back does, by one place at most.

## Main definitions

* `Timing.place`, `Grant.place`, `Ledger.nextPlace`: places in line.
* `Grant.Quoted`: what a grant says of itself.
* `Ledger.Recorded`: the grants of a ledger are quoted, and stand in the order of the clock.

**Results.**
* `Timing.slot_mul_limit_le`, `Timing.place_lt_slot_mul_limit`: a place lies in its slot.
* `Cell.Stands.place_le_refresh`: a refill never goes back.
-/

namespace FaultTolerance
namespace Limiter

open Time

namespace Timing

/-- The place in line of the next permit, when `permits` are left in a cycle. -/
def place
    (t : Timing)
    (permits : Int)
    (cycle : Nat) : Int :=
  (cycle + 1) * t.limit - permits

/-- A place comes no earlier than the places of its slot. -/
theorem slot_mul_limit_le
    {t : Timing}
    {permits : Int}
    (now : Nat)
    (hcapped : permits ≤ t.limit) :
    t.slot permits now * (t.limit : Int) ≤ t.place permits (t.cycleAt now) := by
  unfold slot place
  split_ifs with hpos
  · have hexpand :
        ((t.cycleAt now : Int) + 1) * t.limit = t.cycleAt now * (t.limit : Int) + t.limit := by
      ring
    omega
  · have hwhole : permits.natAbs / t.limit * t.limit ≤ permits.natAbs :=
      Nat.div_mul_le_self _ _
    have hexpand :
        ((t.cycleAt now + 1 + permits.natAbs / t.limit : Nat) : Int) * t.limit =
          ((t.cycleAt now : Int) + 1) * t.limit
            + ((permits.natAbs / t.limit * t.limit : Nat) : Int) := by
      push_cast
      ring
    rw [hexpand]
    omega

/-- A place comes before the places of the cycle after its slot. -/
theorem place_lt_slot_mul_limit
    {t : Timing}
    (permits : Int)
    (now : Nat)
    (hlimit : 0 < t.limit) :
    t.place permits (t.cycleAt now) < (t.slot permits now + 1) * t.limit := by
  have hfit := t.lt_slot_mul_limit permits now hlimit
  unfold place
  omega

end Timing

/-- A refill never goes back in line. -/
theorem Cell.Stands.place_le_refresh
    {c : Cell}
    {t : Timing}
    {cycle now : Nat}
    (h : c.Stands t cycle)
    (hcycle : cycle ≤ t.cycleAt now) :
    t.place c.permits cycle ≤ t.place (c.refresh t now).permits (t.cycleAt now) := by
  have hadded := refresh_permits_le h.stored hcycle h.floor
  have hexpand :
      ((t.cycleAt now : Int) + 1) * t.limit =
        (cycle + 1) * (t.limit : Int) + ((t.cycleAt now - cycle) * t.limit : Nat) := by
    rw [Nat.cast_mul, Nat.cast_sub hcycle]
    ring
  unfold Timing.place
  omega

namespace Grant

/-- The place in line that a grant got. -/
def place
    (t : Timing)
    (g : Grant) : Int :=
  t.place g.found (t.cycleAt g.now)

/-- A grant was made after the epoch, out of no more permits than the limit, with the wait that was
quoted for them and that its caller accepted. -/
structure Quoted
    (t : Timing)
    (g : Grant) : Prop where
  capped : g.found ≤ t.limit
  epoch : t.epoch ≤ g.now
  wait : g.wait = t.wait g.found g.now
  accepted : g.wait ≤ g.timeout.ticks

/-- A permit becomes usable in the slot of its place. -/
theorem Quoted.cycleAt_usable
    {t : Timing}
    {g : Grant}
    (h : g.Quoted t)
    (hperiod : 0 < t.period)
    (hrange : g.InRange t) :
    t.cycleAt g.usable = t.slot g.found g.now := by
  unfold Grant.usable
  rw [h.wait]
  exact t.cycleAt_add_wait g.found hperiod h.epoch hrange.2

/-- Permits with places in order, granted one after the other, become usable in that order. -/
theorem Quoted.usable_le
    {t : Timing}
    {g later : Grant}
    (h : g.Quoted t)
    (hlater : later.Quoted t)
    (hlimit : 0 < t.limit)
    (hperiod : 0 < t.period)
    (hrange : g.InRange t)
    (hrangeLater : later.InRange t)
    (hnow : g.now ≤ later.now)
    (hplace : g.place t ≤ later.place t) :
    g.usable ≤ later.usable := by
  by_cases hnone : g.found ≤ 0
  · have hslots : t.slot g.found g.now ≤ t.slot later.found later.now := by
      have hfirst := Timing.slot_mul_limit_le g.now h.capped
      have hsecond := Timing.place_lt_slot_mul_limit later.found later.now hlimit
      have hlt :
          (t.slot g.found g.now : Int) * t.limit <
            (t.slot later.found later.now + 1) * t.limit :=
        lt_of_le_of_lt hfirst (lt_of_le_of_lt hplace hsecond)
      have hpos : (0 : Int) < t.limit := by
        exact_mod_cast hlimit
      have := lt_of_mul_lt_mul_right hlt hpos.le
      omega
    rw [← hlater.cycleAt_usable hperiod hrangeLater] at hslots
    have hbegins := t.add_fullWait_le hperiod hnone h.epoch hslots
    unfold Grant.usable at hbegins ⊢
    rw [h.wait, Timing.wait_eq_min_fullWait, min_eq_left hrange.2]
    exact hbegins
  · -- The first caller did not wait at all.
    have hwait : g.wait = 0 := by
      rw [h.wait]
      exact if_pos (by omega)
    unfold Grant.usable
    omega

end Grant

namespace Ledger

/-- The place in line of the next grant, as the cell has it since its last move. -/
def nextPlace
    (s : Ledger)
    (last : Nat) : Int :=
  s.limiter.timing.place s.limiter.cell.permits (s.limiter.timing.cycleAt last)

/-- The cell was last moved at `last`, and the grants made until then are quoted, in the order of
the clock. -/
structure Recorded
    (s : Ledger)
    (last : Nat) : Prop where
  stands : s.limiter.cell.Stands s.limiter.timing (s.limiter.timing.cycleAt last)
  quoted : ∀ g ∈ s.grants, g.Quoted s.limiter.timing
  dated : ∀ g ∈ s.grants, g.now ≤ last
  ordered : s.grants.Pairwise fun g later => g.now ≤ later.now

namespace Recorded

variable {s : Ledger} {last now : Nat} (h : s.Recorded last)
include h

/-- Bringing the cell on touches no grant. -/
theorem refresh (hnow : last ≤ now) :
    Recorded ⟨s.limiter.setCell (s.limiter.freshCell now), s.grants⟩ now where
  stands := h.stands.refresh now
  quoted := h.quoted
  dated := fun g hg => le_trans (h.dated g hg) hnow
  ordered := h.ordered

/-- Nor does it go back in line. -/
theorem nextPlace_le_refresh (hnow : last ≤ now) :
    s.nextPlace last ≤
      nextPlace ⟨s.limiter.setCell (s.limiter.freshCell now), s.grants⟩ now :=
  h.stands.place_le_refresh (Timing.cycleAt_mono _ hnow)

/-- A quoted grant is the last one, and takes a permit. -/
theorem grant
    {g : Grant}
    (hg : g.Quoted s.limiter.timing)
    (hnow : g.now = last) :
    Recorded ⟨s.limiter.setCell s.limiter.cell.take, s.grants ++ [g]⟩ last where
  stands := h.stands.take
  quoted := by
    intro other hother
    rcases List.mem_append.mp hother with hold | hnew
    · exact h.quoted other hold
    · rw [List.mem_singleton.mp hnew]
      exact hg
  dated := by
    intro other hother
    rcases List.mem_append.mp hother with hold | hnew
    · exact h.dated other hold
    · rw [List.mem_singleton.mp hnew, hnow]
  ordered := by
    refine List.pairwise_append.mpr ⟨h.ordered, List.pairwise_singleton _ _, ?_⟩
    intro other hother new hnew
    rw [List.mem_singleton.mp hnew, hnow]
    exact h.dated other hother

/-- A hand-back leaves the grants quoted and in order. -/
theorem giveBack
    {ticket : Nat}
    {g : Grant}
    (hg : s.grants[ticket]? = some g) :
    Recorded
      ⟨s.limiter.setCell (s.limiter.cell.giveBack s.limiter.timing),
        s.grants.set ticket { g with returned := true }⟩
      last := by
  have hmem : g ∈ s.grants := List.mem_of_getElem? hg
  refine ⟨h.stands.giveBack, ?_, ?_, ?_⟩
  · intro other hother
    rcases List.mem_or_eq_of_mem_set hother with hold | rfl
    · exact h.quoted other hold
    · exact ⟨(h.quoted g hmem).capped, (h.quoted g hmem).epoch, (h.quoted g hmem).wait,
        (h.quoted g hmem).accepted⟩
  · intro other hother
    rcases List.mem_or_eq_of_mem_set hother with hold | rfl
    · exact h.dated other hold
    · exact h.dated g hmem
  · -- The order is one of clock readings, which a hand-back does not touch.
    have hnows :
        (s.grants.set ticket { g with returned := true }).map Grant.now =
          s.grants.map Grant.now := by
      obtain ⟨hticket, hget⟩ := List.getElem?_eq_some_iff.mp hg
      rw [List.map_set, ← hget]
      show (s.grants.map Grant.now).set ticket s.grants[ticket].now = _
      rw [← List.getElem_map Grant.now (h := by simpa using hticket)]
      exact List.set_getElem_self _
    have hordered := h.ordered
    rw [← List.pairwise_map (f := Grant.now) (R := (· ≤ ·))] at hordered ⊢
    rw [hnows]
    exact hordered

end Recorded
end Ledger
end Limiter
end FaultTolerance
