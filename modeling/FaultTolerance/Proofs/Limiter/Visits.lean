import FaultTolerance.Proofs.Limiter.Ledger
import FaultTolerance.Proofs.Limiter.Refill

/-!
# Visits to a rate limiter

Whatever its callers do, a rate limiter is visited in short sections that cannot be interrupted: a
caller asks for a permit, a caller that waits is counted in and out, a caller that gives up hands its
permit back, and anybody may look at the numbers.  A run is a list of visits with their clock
readings, so that callers interleave freely; what can be told of a limiter is what the visits of a
run answer.

## Main definitions

* `Visit`, `passAll`, `answers`: runs and what they answer.
* `brisk`: runs without a gap of `2 ^ 32` cycles.
* `Settled`: a cell in the cycle in which it was last moved.
* `Alike`: a cell that cannot be told from that of a limiter by brisk runs.

**Results.**
* `Settled.passAll`: every run leaves the cell in the cycle of the last visit that moved it.
* `Alike.answers_eq`: runs answer the same.
-/

namespace FaultTolerance
namespace Limiter

open Time

/-- A section that a caller of a rate limiter passes. -/
inductive Visit where
  | claim (timeout : Span)
  | block
  | unblock
  | restore
  | look

namespace Visit

/-- What a visit answers: the quote for a caller that asks, or the numbers for one that looks. -/
inductive Answer where
  | quoted (quote : Quote)
  | numbers (metrics : Metrics)
  | done
deriving DecidableEq

/-- Whether a visit brings the cell on. -/
def moves : Visit → Bool
  | .claim _ | .restore => true
  | .block | .unblock | .look => false

/-- Whether a visit looks at the cell. -/
def reads : Visit → Bool
  | .claim _ | .restore | .look => true
  | .block | .unblock => false

end Visit

/-- The limiter after a visit. -/
def pass
    (l : Limiter) : Nat × Visit → Limiter
  | (now, .claim timeout) => (l.claim now timeout.ticks).2
  | (_, .block) => { l with waiting := l.waiting + 1 }
  | (_, .unblock) => { l with waiting := l.waiting - 1 }
  | (now, .restore) => l.restore now
  | (_, .look) => l

/-- The limiter after a run. -/
def passAll
    (l : Limiter)
    (visits : List (Nat × Visit)) : Limiter :=
  visits.foldl pass l

theorem passAll_append
    (l : Limiter)
    (first second : List (Nat × Visit)) :
    l.passAll (first ++ second) = (l.passAll first).passAll second :=
  List.foldl_append

/-- What a visit answers. -/
def answer
    (l : Limiter) : Nat × Visit → Visit.Answer
  | (now, .claim timeout) => .quoted (l.claim now timeout.ticks).1
  | (now, .look) => .numbers (l.metrics now)
  | (_, .block) | (_, .unblock) | (_, .restore) => .done

/-- What a run answers. -/
def answers
    (l : Limiter) : List (Nat × Visit) → List Visit.Answer
  | [] => []
  | v :: visits => l.answer v :: (l.pass v).answers visits

/-! ### Gaps between visits -/

/-- The clock reading of the last visit that moved the cell, if any. -/
def lastMoved
    (last : Option Nat)
    (visits : List (Nat × Visit)) : Option Nat :=
  visits.foldl (fun last v => if v.2.moves then some v.1 else last) last

/-- Whenever a visit looks at the cell, fewer than `2 ^ 32` cycles have begun since the cell was last
moved. -/
def brisk
    (t : Timing)
    (last : Option Nat) : List (Nat × Visit) → Bool
  | [] => true
  | v :: visits =>
    (!v.2.reads || last.all fun moved => decide (t.cycleAt v.1 < t.cycleAt moved + 2 ^ 32)) &&
      brisk t (if v.2.moves then some v.1 else last) visits

theorem brisk_append
    (t : Timing)
    (last : Option Nat)
    (first second : List (Nat × Visit)) :
    brisk t last (first ++ second) =
      (brisk t last first && brisk t (lastMoved last first) second) := by
  induction first generalizing last with
  | nil => rfl
  | cons v first ih =>
      show (_ && brisk t _ (first ++ second)) = _
      rw [ih, ← Bool.and_assoc]
      rfl

theorem eq_or_mem_of_lastMoved
    {last : Option Nat}
    {visits : List (Nat × Visit)}
    {moved : Nat}
    (h : lastMoved last visits = some moved) :
    last = some moved ∨ moved ∈ visits.map Prod.fst := by
  induction visits generalizing last with
  | nil => exact Or.inl h
  | cons v visits ih =>
      rw [List.map_cons]
      rcases ih h with hhead | htail
      · dsimp only at hhead
        split_ifs at hhead
        · cases hhead
          exact Or.inr List.mem_cons_self
        · exact Or.inl hhead
      · exact Or.inr (List.mem_cons_of_mem _ htail)

/-- The cell stands in the cycle in which it was last moved; before that it is full. -/
def Settled
    (l : Limiter) : Option Nat → Prop
  | none => l.cell = ⟨0, l.timing.limit⟩
  | some last => l.cell.Stands l.timing (l.timing.cycleAt last)

theorem Settled.stands
    {l : Limiter}
    {last : Option Nat}
    (h : l.Settled last) :
    ∃ cycle, l.cell.Stands l.timing cycle := by
  cases last with
  | none =>
      have hcell : l.cell = ⟨0, l.timing.limit⟩ := h
      exact ⟨0, Cell.Stands.full (by rw [hcell]) (by rw [hcell])⟩
  | some last => exact ⟨_, h⟩

theorem Settled.withWaiting
    {l : Limiter}
    {last : Option Nat}
    (h : l.Settled last)
    (waiting : Nat) :
    Settled { l with waiting } last := by
  cases last with
  | none => exact h
  | some _ => exact h

theorem Settled.restore
    {l : Limiter}
    {last : Option Nat}
    (h : l.Settled last)
    (now : Nat) :
    (l.restore now).Settled (some now) := by
  obtain ⟨cycle, hstands⟩ := h.stands
  exact (hstands.refresh now).giveBack

/-- Asking for a permit brings the cell on and, at most, takes one. -/
theorem Settled.claim
    {l : Limiter}
    {last : Option Nat}
    (h : l.Settled last)
    (now timeout : Nat) :
    (l.claim now timeout).2.timing = l.timing ∧
      (l.claim now timeout).2.Settled (some now) := by
  obtain ⟨cycle, hstands⟩ := h.stands
  have hfresh : (l.freshCell now).Stands l.timing (l.timing.cycleAt now) := hstands.refresh now
  by_cases hfits : l.timing.wait (l.freshCell now).permits now ≤ timeout
  · rw [claim_of_fits now hfits]
    exact ⟨rfl, hfresh.take⟩
  · rw [claim_of_late now hfits]
    exact ⟨rfl, hfresh⟩

/-- A run keeps the cell in the cycle of the last visit that moved it. -/
theorem Settled.passAll
    {l : Limiter}
    {last : Option Nat}
    (h : l.Settled last)
    (visits : List (Nat × Visit)) :
    (l.passAll visits).timing = l.timing ∧ (l.passAll visits).Settled (lastMoved last visits) := by
  induction visits generalizing l last with
  | nil => exact ⟨rfl, h⟩
  | cons v visits ih =>
      obtain ⟨now, visit⟩ := v
      cases visit with
      | claim timeout =>
          obtain ⟨htiming, hsettled⟩ := h.claim now timeout.ticks
          rw [← htiming]
          exact ih hsettled
      | restore => exact ih (h.restore now)
      | block => exact ih (h.withWaiting (l.waiting + 1))
      | unblock => exact ih (h.withWaiting (l.waiting - 1))
      | look => exact ih h

/-! ### Cells that cannot be told apart -/

/-- A cell that, from `now` on and fewer than `2 ^ 32` cycles after `last`, is brought on to the same
as the limiter's own. -/
def Alike
    (l : Limiter)
    (c : Cell)
    (last now : Nat) : Prop :=
  ∀ later, now ≤ later → l.timing.cycleAt later < l.timing.cycleAt last + 2 ^ 32 →
    c.refresh l.timing later = l.freshCell later

/-- In brisk runs a cell that is alike answers the same. -/
theorem Alike.answers_eq
    {l : Limiter}
    {c : Cell}
    {last now : Nat}
    (h : l.Alike c last now)
    (visits : List (Nat × Visit))
    (hclock : (now :: visits.map Prod.fst).Pairwise (· ≤ ·))
    (hbrisk : brisk l.timing (some last) visits = true) :
    (l.setCell c).answers visits = l.answers visits := by
  -- As soon as a visit moves the cell, the two limiters are one.
  induction visits generalizing l now with
  | nil => rfl
  | cons v visits ih =>
      obtain ⟨later, visit⟩ := v
      rw [List.map_cons, List.pairwise_cons] at hclock
      have hlater : now ≤ later := hclock.1 later List.mem_cons_self
      unfold brisk at hbrisk
      rw [Bool.and_eq_true] at hbrisk
      obtain ⟨hgap, hrest⟩ := hbrisk
      have hon : l.Alike c last later :=
        fun even heven hcycle => h even (le_trans hlater heven) hcycle
      have hsame (hreads : visit.reads = true) :
          c.refresh l.timing later = l.cell.refresh l.timing later := by
        rw [hreads, Bool.not_true, Bool.false_or, Option.all_some, decide_eq_true_eq] at hgap
        exact h later hlater hgap
      unfold answers
      cases visit with
      | claim timeout =>
          have hclaim :
              (l.setCell c).claim later timeout.ticks = l.claim later timeout.ticks := by
            simp only [claim, setCell, hsame rfl]
          simp only [answer, pass, hclaim]
      | restore =>
          have hrestore : (l.setCell c).restore later = l.restore later := by
            simp only [restore, setCell, hsame rfl]
          simp only [answer, pass, hrestore]
      | look =>
          have hmetrics : (l.setCell c).metrics later = l.metrics later := by
            simp only [metrics, setCell, hsame rfl]
          simp only [answer, hmetrics]
          exact congrArg _ (ih hon hclock.2 hrest)
      | block =>
          exact congrArg _ (ih (l := { l with waiting := l.waiting + 1 }) hon hclock.2 hrest)
      | unblock =>
          exact congrArg _ (ih (l := { l with waiting := l.waiting - 1 }) hon hclock.2 hrest)

end Limiter
end FaultTolerance
