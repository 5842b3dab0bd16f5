import FaultTolerance.Window.Snapshot
import Mathlib.Tactic

/-!
# Tallies of lists of calls

A window is told of finished calls one by one.  This module says what the tally and the snapshot of
a list of calls are, field by field, and how tallies add up: they form a commutative monoid, in
which a part that leaves is the summand that goes.

## Main definitions

* `Call`: a finished call as a window is told of it.
* `Tally.ofCalls`, `Snapshot.ofCalls`: the counts of a list of calls.

**Results.**
* `Tally.ofCalls_cons`: one more call is `Tally.add`.
* `Tally.add_remove`: what was added can be removed.
* `Tally.ofCalls_filter_or`: the calls of two kinds add up.
-/

namespace FaultTolerance
namespace Window

open Time

/-- A finished call as a window is told of it. -/
structure Call where
  duration : Span
  outcome : Outcome
deriving DecidableEq

namespace Tally

instance : Zero Tally :=
  ⟨empty⟩

instance : Add Tally :=
  ⟨fun a b =>
    { calls := a.calls + b.calls
      failed := a.failed + b.failed
      slow := a.slow + b.slow
      slowFailed := a.slowFailed + b.slowFailed
      nanos := a.nanos + b.nanos }⟩

theorem zero_def : (0 : Tally) = ⟨0, 0, 0, 0, 0⟩ :=
  rfl

theorem add_def (a b : Tally) :
    a + b =
      ⟨a.calls + b.calls, a.failed + b.failed, a.slow + b.slow, a.slowFailed + b.slowFailed,
        a.nanos + b.nanos⟩ :=
  rfl

instance : AddCommMonoid Tally where
  add_assoc a b c := by simp only [add_def, Nat.add_assoc]
  zero_add a := by simp only [add_def, zero_def, Nat.zero_add]
  add_zero a := by simp only [add_def, zero_def, Nat.add_zero]
  add_comm a b := by simp only [add_def, Nat.add_comm]
  nsmul := nsmulRec

/-- A part that leaves a sum leaves the rest. -/
@[simp]
theorem add_remove (rest part : Tally) : (rest + part).remove part = rest := by
  simp only [remove, add_def, Nat.add_sub_cancel]

/-- One more call adds its own tally. -/
theorem add_eq_single_add
    (t : Tally)
    (duration : Span)
    (outcome : Outcome) :
    t.add duration outcome = single duration outcome + t := by
  simp only [single, add, empty, add_def, Nat.zero_add]
  simp only [Nat.add_comm]

/-- The tally of a list of calls: how many there are, how many of them failed, were slow, were both,
and how long they took together. -/
def ofCalls (calls : List Call) : Tally :=
  { calls := calls.length
    failed := calls.countP fun c => c.outcome.isFailure
    slow := calls.countP fun c => c.outcome.isSlow
    slowFailed := calls.countP fun c => c.outcome.isFailure && c.outcome.isSlow
    nanos := (calls.map fun c => c.duration.nanos).sum }

@[simp]
theorem ofCalls_nil : ofCalls [] = 0 :=
  rfl

/-- One more call is one more in every count it belongs to. -/
@[simp]
theorem ofCalls_cons
    (c : Call)
    (calls : List Call) :
    ofCalls (c :: calls) = (ofCalls calls).add c.duration c.outcome := by
  simp only [ofCalls, add, List.length_cons, List.countP_cons, List.map_cons, List.sum_cons,
    Bool.toNat, Nat.add_comm, Bool.cond_eq_ite]

/-- A call on its own. -/
theorem ofCalls_singleton (c : Call) : ofCalls [c] = single c.duration c.outcome := by
  rw [ofCalls_cons]
  rfl

theorem ofCalls_append (first second : List Call) :
    ofCalls (first ++ second) = ofCalls first + ofCalls second := by
  simp only [ofCalls, add_def, List.length_append, List.countP_append, List.map_append,
    List.sum_append]

/-- Calls of either of two kinds that exclude each other: their tallies add up. -/
theorem ofCalls_filter_or
    {α : Type}
    (f : α → Call)
    (p q : α → Bool)
    (items : List α)
    (hdisjoint : ∀ a ∈ items, p a = true → q a = false) :
    ofCalls ((items.filter fun a => p a || q a).map f) =
      ofCalls ((items.filter p).map f) + ofCalls ((items.filter q).map f) := by
  induction items with
  | nil => rfl
  | cons a items ih =>
      have hrest := ih fun b hb => hdisjoint b (by simp [hb])
      have ha := hdisjoint a (by simp)
      cases hp : p a with
      | true =>
          have hq : q a = false := ha hp
          simp only [List.filter_cons, hp, hq, Bool.or_false, if_true, Bool.false_eq_true,
            if_false, List.map_cons, ofCalls_cons, hrest, add_eq_single_add, add_assoc]
      | false =>
          cases hq : q a with
          | true =>
              simp only [List.filter_cons, hp, hq, Bool.or_true, if_true, Bool.false_eq_true,
                if_false, List.map_cons, ofCalls_cons, hrest, add_eq_single_add]
              exact add_left_comm _ _ _
          | false =>
              simpa only [List.filter_cons, hp, hq, Bool.or_false, Bool.false_eq_true, if_false]
                using hrest

end Tally

/-- The snapshot of a list of calls; the total duration saturates at `2 ^ 64 - 1` nanoseconds. -/
def Snapshot.ofCalls
    (minimum : Nat)
    (calls : List Call) : Snapshot :=
  { total := calls.length
    failed := calls.countP fun c => c.outcome.isFailure
    slow := calls.countP fun c => c.outcome.isSlow
    slowFailed := calls.countP fun c => c.outcome.isFailure && c.outcome.isSlow
    duration := Span.clip (min (calls.map fun c => c.duration.nanos).sum maxTicks)
    minimum := minimum }

@[simp]
theorem Tally.snapshot_ofCalls
    (minimum : Nat)
    (calls : List Call) :
    (Tally.ofCalls calls).snapshot minimum = Snapshot.ofCalls minimum calls :=
  rfl

end Window
end FaultTolerance
