import FaultTolerance.Interval
import FaultTolerance.Publisher
import FaultTolerance.Rehearsal.Script
import FaultTolerance.Time.Clock
import FaultTolerance.TimeLimit.Basic
import FaultTolerance.Token

/-!
# The world of a rehearsal

A rehearsal runs in a world with a clock, a timeline for waits on a scheduler, an interrupt token,
the protection under rehearsal and a journal of what was heard.  Nothing waits for real: a wait on
the scheduler moves the timeline to the millisecond at which it ends, or to an earlier deadline
around it, and a blocking wait takes no time at all.

## Main definitions

* `Rehearsal.Dial`, `Rehearsal.World`: clocks and worlds.
* `Rehearsal.sleep`, `Rehearsal.work`, `Rehearsal.within`: waits, work and deadlines.
* `Rehearsal.World.site`: the site of a protection inside the subject of a rehearsal.
-/

namespace FaultTolerance
namespace Rehearsal

open Time Numeric

/-- The clock of a world: driven by hand, reading the timeline, or standing at its origin. -/
inductive Dial where
  | byHand (clock : HandClock)
  | timeline
  | standing
deriving DecidableEq

/-- An entry of the journal: an event, or a step carried out while a call ran. -/
inductive Entry (ε α : Type) where
  | event (e : ε)
  | during (name : String) (answer : Answer α)

/-- The world of a rehearsal of a subject `σ` with events `ε` and answers `α`.  `deadlines` holds
the milliseconds of the deadlines around the running activity, the innermost first; `listeners`
counts those who write into the journal. -/
structure World (σ ε α : Type) where
  dial : Dial
  timer : Timer
  deadlines : List Nat
  token : Token
  draw : Binary64
  listeners : Nat
  subject : σ
  journal : List (Entry ε α)

namespace World

variable {σ τ ε η α : Type}

/-- A world at the start of a rehearsal. -/
def start
    (dial : Dial)
    (listeners : Nat)
    (subject : σ) : World σ ε α :=
  { dial, listeners, subject
    timer := ⟨0⟩
    deadlines := []
    token := Token.fresh
    draw := Interval.middle
    journal := [] }

/-- The clock reading. -/
def now (w : World σ ε α) : Nat :=
  match w.dial with
  | .byHand clock => clock.nanos
  | .timeline => min w.timer.nanos maxTicks
  | .standing => 0

/-- The reading of a critical section. -/
def reading (w : World σ ε α) : Reading :=
  ⟨w.now, w.draw⟩

/-- Move the clock on. -/
def advance
    (w : World σ ε α)
    (d : Span) : World σ ε α :=
  match w.dial with
  | .byHand clock => { w with dial := .byHand (clock.advance d) }
  | .timeline => { w with timer := w.timer.advance d }
  | .standing => w

/-- Put a clock driven by hand at a span after its origin. -/
def setClock
    (w : World σ ε α)
    (span : Span) : World σ ε α :=
  match w.dial with
  | .byHand clock => { w with dial := .byHand (clock.set span) }
  | _ => w

/-- Write into the journal. -/
def note
    (entry : Entry ε α) : Activity (World σ ε α) Unit :=
  modify fun w => { w with journal := w.journal ++ [entry] }

/-- Change the subject. -/
def change (f : σ → σ) : Activity (World σ ε α) Unit :=
  modify fun w => { w with subject := f w.subject }

/-- Write an event into the journal, once for each listener. -/
def hear (event : ε) : Activity (World σ ε α) Unit :=
  modify fun w => { w with journal := w.journal ++ List.replicate w.listeners (.event event) }

/-- The site of a protection that is part of the subject. -/
def site
    (view : σ → τ)
    (store : τ → σ → σ)
    (announce : η → Activity (World σ ε α) Unit) : Site (World σ ε α) τ η where
  view := fun w => view w.subject
  store := fun part w => { w with subject := store part w.subject }
  reading := reading
  announce := announce

end World

/-! ### Waits on the timeline -/

section Waits

variable {σ ε α β : Type}

/-- The deadline that comes first, with the number of deadlines around it; of equal ones the
innermost. -/
def firstDeadline : List Nat → Option (Nat × Nat)
  | [] => none
  | milli :: outer =>
    match firstDeadline outer with
    | some (other, depth) =>
      if other < milli then some (other, depth) else some (milli, outer.length)
    | none => some (milli, outer.length)

/-- Wait on the timeline until a millisecond, unless a deadline comes before it. -/
def sleepUntil (milli : Nat) : Activity (World σ ε α) Unit := do
  let w ← get
  match firstDeadline w.deadlines with
  | some (deadline, depth) =>
    if deadline < milli then
      set { w with timer := w.timer.arrive deadline }
      throw (.expired depth)
    else set { w with timer := w.timer.arrive milli }
  | none => set { w with timer := w.timer.arrive milli }

/-- Wait on the timeline for a span. -/
def sleep (d : Span) : Activity (World σ ε α) Unit := do
  sleepUntil ((← get).timer.wakeMilli d)

/-- Work on the timeline for a span. -/
def work (d : Span) : Activity (World σ ε α) Unit := do
  sleepUntil ((← get).timer.doneMilli d)

/-- Carry out an activity with a deadline; no answer when the deadline comes first. -/
def within
    (d : Span)
    (activity : Activity (World σ ε α) β) : Activity (World σ ε α) (Option β) := do
  let w ← get
  set { w with deadlines := w.timer.deadlineMilli d :: w.deadlines }
  let restore : Activity (World σ ε α) Unit :=
    modify fun later => { later with deadlines := w.deadlines }
  let answer ← tryCatch (some <$> activity) fun
    | .expired depth => do
      restore
      if depth = w.deadlines.length then return none else throw (.expired depth)
    | .crash text => do
      restore
      throw (.crash text)
  restore
  return answer

/-- What an activity on the timeline answers: its result, or that it was dropped, and the time it
took. -/
structure Timed (β : Type) where
  result : Option β
  took : Span

/-- Carry out an activity on the timeline, dropped after a span if one is given. -/
def timed
    (dropAfter : Option Span)
    (activity : Activity (World σ ε α) β) : Activity (World σ ε α) (Timed β) := do
  let start := (← get).timer
  let result ← match dropAfter with
    | none => some <$> activity
    | some span => within span activity
  let finish := (← get).timer
  return ⟨result, Span.clip (finish.nanos - start.nanos)⟩

end Waits

end Rehearsal
end FaultTolerance
