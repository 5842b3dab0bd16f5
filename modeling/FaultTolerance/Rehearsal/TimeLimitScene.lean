import FaultTolerance.Rehearsal.RetryScene
import FaultTolerance.TimeLimit.Race

/-!
# Rehearsing a time limit

A detached task works on beside the call that waits for it, and may be aborted from elsewhere.  An
hour after the call has its answer it is looked up whether the task ran to its end.
-/

namespace FaultTolerance
namespace Rehearsal
namespace TimeLimitScene

open Time

/-- What became of a detached task so far. -/
inductive Fate where
  | running
  | finished
  | stopped
deriving DecidableEq, Repr

/-- A time limit and the detached task of the step at hand. -/
structure Cast where
  limit : TimeLimit
  task : Fate

/-- How a blocking worker behaves: it is done at once, or only after the call has its answer. -/
inductive Pace where
  | atOnce
  | late
deriving DecidableEq, Repr

/-- What can be done to a time limit. -/
inductive Instruction where
  | future (dropAfter : Option Span)
  | task (work : Span) (abortAt dropAfter : Option Span)
  | blocking (pace : Pace)
  | info
  | inspect
  | unsubscribe

/-- The answer of a limited call. -/
abbrev CallAnswer := Except (CallError Fault) Value

/-- What an instruction answers; a blocking call may crash with a text, and tells whether its
worker's token was interrupted. -/
inductive Answer where
  | done
  | timed (answer : Timed CallAnswer)
  | detached (answer : Timed CallAnswer) (finished : Bool)
  | blocking (answer : Except String CallAnswer) (interrupted : Bool)
  | info (name : String) (config : TimeLimit.Config)
  | text (s : String)

/-- An activity in the world of a time limit. -/
abbrev Play := Activity (World Cast TimeLimit.Event Answer)

/-- The site of the time limit. -/
def site : Site (World Cast TimeLimit.Event Answer) TimeLimit TimeLimit.Event :=
  World.site (·.limit) (fun limit cast => { cast with limit }) World.hear

/-- Note what became of the task. -/
def mark (fate : Fate) : Play Unit :=
  World.change fun cast => { cast with task := fate }

/-! ### Detached tasks -/

/-- The work of a task from a millisecond on. -/
def workFrom
    (milli : Nat)
    (body : Play (Except Fault Value)) : Play (Except Fault Value) := do
  sleepUntil milli
  mark .finished
  body

/-- A task that works until one millisecond unless it is aborted at an earlier one. -/
def task
    (workMilli : Nat)
    (abortMilli : Option Nat)
    (body : Play (Except Fault Value)) : Play (TimeLimit.TaskEnd Fault Value) := do
  match abortMilli with
  | some milli =>
    if milli < workMilli then
      sleepUntil milli
      mark .stopped
      return .aborted
    else return .finished (← workFrom workMilli body)
  | none => return .finished (← workFrom workMilli body)

/-- How long after the answer a task is looked up. -/
def lookUpAfter : Span :=
  Span.ofSeconds 3600

/-- Let a task that is still running work on until it is looked up. -/
def workOn
    (work : Play (TimeLimit.TaskEnd Fault Value)) : Play Unit := do
  let lookUp := (← get).timer.wakeMilli lookUpAfter
  if (← get).subject.task = .running then
    let _ ← within lookUpAfter (RetryScene.catching work)
  sleepUntil lookUp

/-- Wait for a detached task, and look it up later. -/
def detach
    (span : Span)
    (abortAt dropAfter : Option Span)
    (body : Play (Except Fault Value)) : Play Answer := do
  mark .running
  let timer := (← get).timer
  let work := task (timer.doneMilli span) (abortAt.map timer.doneMilli) body
  let answer ← timed dropAfter
    (TimeLimit.awaitTask site (fun d activity => within d activity) (mark .stopped) work)
  workOn work
  return .detached answer (decide ((← get).subject.task = .finished))

/-! ### Blocking workers -/

/-- How the worker's run ends: with an outcome or a crash. -/
def workerEnding (body : Play (Except Fault Value)) : Play (Except String (Except Fault Value)) :=
  RetryScene.catching body

/-- Run a blocking call against its worker. -/
def block
    (pace : Pace)
    (body : Play (Except Fault Value)) : Play Answer := do
  let cancel := (← site.state).config.cancel
  match pace with
  | .atOnce =>
    let ending ← workerEnding body
    let race := TimeLimit.Race.start.run cancel (TimeLimit.Race.inTime ending)
    return .blocking (← RetryScene.catching (TimeLimit.answer site race)) race.token
  | .late =>
    let race := TimeLimit.Race.start.run cancel [.deadlinePasses, .callerClaims]
    let answer ← RetryScene.catching (TimeLimit.answer site race)
    let _ ← workerEnding body
    return .blocking answer race.token

/-- Play an instruction. -/
def player : Player Instruction Cast TimeLimit.Event Answer := fun instruction calls => do
  let body := calls.headD (finish (.crashes ""))
  match instruction with
  | .future dropAfter =>
    return .timed (← timed dropAfter
      (TimeLimit.awaitCall site (fun d activity => within d activity) body))
  | .task work abortAt dropAfter => detach work abortAt dropAfter body
  | .blocking pace => block pace body
  | .info =>
    let l ← site.state
    return .info l.name l.config
  | .inspect => return .text ((← site.state).inspect (← get).listeners)
  | .unsubscribe =>
    modify fun w => { w with listeners := 0 }
    return .done

/-- Rehearse a new time limit. -/
def rehearse
    (dial : Dial)
    (name : String)
    (config : TimeLimit.Config)
    (listeners : Nat)
    (script : List (Step Instruction)) :
    Except ConfigError (List (Report Cast TimeLimit.Event Answer)) := do
  let limit ← TimeLimit.create name config
  return run player script (World.start dial listeners ⟨limit, .running⟩)

end TimeLimitScene
end Rehearsal
end FaultTolerance
