import FaultTolerance.Numeric.Binary

/-!
# Activities and operations

An activity runs over a world: it changes the world and then answers, or halts without an answer
because some code crashed or because it was abandoned at a deadline.  What it changed before it
halted stays changed.

An operation on a protection is atomic: it announces what is known beforehand, passes one critical
section, which reads the clock and updates the protection's state, and announces what the section
brought up.  The same operation is used in two ways: `Operation.run` applies it to a state alone,
and `Site.perform` carries it out in a world where announcements have effects of their own.

## Main definitions

* `Halt`, `Activity`: activities and how they end.
* `Reading`: what a critical section sees of the outside.
* `Operation`, `Operation.run`: atomic operations.
* `Site`, `Site.perform`: a protection's place in a world.
-/

namespace FaultTolerance

open Numeric

/-- Why an activity ended without an answer: a crash with its text, or a deadline, known by the
number of deadlines around it. -/
inductive Halt where
  | crash (text : String)
  | expired (depth : Nat)
deriving DecidableEq, Repr

/-- An activity over a world. -/
abbrev Activity (ω : Type) := ExceptT Halt (StateM ω)

namespace Activity

variable {ω α : Type}

/-- Carry out an activity. -/
def runIn
    (activity : Activity ω α)
    (world : ω) : Except Halt α × ω :=
  (ExceptT.run activity).run world

/-- Carry out an activity and swallow a crash; a deadline still ends it. -/
def guarded (activity : Activity ω Unit) : Activity ω Unit :=
  tryCatch activity fun
    | .crash _ => pure ()
    | .expired depth => throw (.expired depth)

/-- Carry out an activity; if it halts, clean up before the halt goes on. -/
def orElseHalt
    (activity : Activity ω α)
    (cleanup : Activity ω Unit) : Activity ω α :=
  tryCatch activity fun halt => do
    cleanup
    throw halt

end Activity

/-- What a critical section sees of the outside: the clock, and a random draw. -/
structure Reading where
  now : Nat
  draw : Binary64

/-- An atomic operation on a state `σ` with events `ε` and an answer `α`. -/
structure Operation (σ ε α : Type) where
  before : σ → List ε
  step : Reading → σ → α × σ × List ε

namespace Operation

variable {σ ε α : Type}

/-- An operation with nothing to announce beforehand. -/
def ofStep (step : Reading → σ → α × σ × List ε) : Operation σ ε α :=
  ⟨fun _ => [], step⟩

/-- The answer, the new state and the events, in order, of an operation on a state. -/
def run
    (operation : Operation σ ε α)
    (reading : Reading)
    (state : σ) : α × σ × List ε :=
  let (answer, after, events) := operation.step reading state
  (answer, after, operation.before state ++ events)

end Operation

/-- The place of a protection in a world: where its state is kept, how its clock and its random
source are read, and what an announced event does. -/
structure Site (ω σ ε : Type) where
  view : ω → σ
  store : σ → ω → ω
  reading : ω → Reading
  announce : ε → Activity ω Unit

namespace Site

variable {ω σ ε α : Type}

/-- The state at a site. -/
def state (site : Site ω σ ε) : Activity ω σ :=
  do return site.view (← get)

/-- The clock at a site. -/
def now (site : Site ω σ ε) : Activity ω Nat :=
  do return (site.reading (← get)).now

/-- Pass one critical section. -/
def visit
    (site : Site ω σ ε)
    (step : Reading → σ → α × σ) : Activity ω α := do
  let world ← get
  let (answer, after) := step (site.reading world) (site.view world)
  set (site.store after world)
  return answer

/-- Carry out an operation: each event is announced in order. -/
def perform
    (site : Site ω σ ε)
    (operation : Operation σ ε α) : Activity ω α := do
  (operation.before (← site.state)).forM site.announce
  let (answer, events) ← site.visit fun reading state =>
    let (answer, after, events) := operation.step reading state
    ((answer, events), after)
  events.forM site.announce
  return answer

end Site
end FaultTolerance
