import FaultTolerance.Rehearsal.Run
import FaultTolerance.Retry.Basic

/-!
# Rehearsing a retry

Attempt number `i` plays the `i`-th call of a script, and every attempt past its end the last one.
-/

namespace FaultTolerance
namespace Rehearsal

/-- A body that plays the calls of a script in turn, the last one for ever; `tick` counts an attempt
and answers how many there were before it. -/
def inTurn
    {σ ε α : Type}
    (tick : Activity (World σ ε α) Nat)
    (calls : List (Body σ ε α)) : Activity (World σ ε α) (Except Fault Value) := do
  let attempt ← tick
  calls.getD attempt (calls.getLastD (finish (.crashes "")))

namespace RetryScene

open Time

/-- A retry of scripted calls, and the attempts made in the run at hand. -/
structure Cast where
  retry : Retry Fault Value
  attempts : Nat

/-- What can be done to a retry. -/
inductive Instruction where
  | execute
  | executeInterruptibly
  | executeLater (dropAfter : Option Span)
  | metrics
  | info
  | inspect
  | unsubscribe

/-- The answer of a run. -/
abbrev RunAnswer := Except (CallError Fault) Value

/-- What an instruction answers; a run comes with the number of attempts, or with the text of a
crash in its place. -/
inductive Answer where
  | done
  | ran (attempts : Nat) (answer : Except String RunAnswer)
  | timed (attempts : Nat) (answer : Timed RunAnswer)
  | metrics (m : Retry.Metrics)
  | info (name : String) (config : Retry.Config)
  | text (s : String)

/-- An activity in the world of a retry. -/
abbrev Play := Activity (World Cast Retry.Event Answer)

/-- The site of the retry. -/
def site : Site (World Cast Retry.Event Answer) (Retry Fault Value) Retry.Event :=
  World.site (·.retry) (fun retry cast => { cast with retry }) World.hear

/-- Count an attempt. -/
def tick : Play Nat := do
  let attempt := (← get).subject.attempts
  World.change fun cast => { cast with attempts := attempt + 1 }
  return attempt

/-- Count the attempts of an activity apart from those around it, also if it halts. -/
def counting
    {β : Type}
    (activity : Play β) : Play (Nat × β) := do
  let around := (← get).subject.attempts
  let restore : Play Unit := World.change fun cast => { cast with attempts := around }
  World.change fun cast => { cast with attempts := 0 }
  let answer ← activity.orElseHalt restore
  let made := (← get).subject.attempts
  restore
  return (made, answer)

/-- Carry out an activity and answer a crash as its text. -/
def catching
    {σ ε α β : Type}
    (activity : Activity (World σ ε α) β) : Activity (World σ ε α) (Except String β) :=
  tryCatch (Except.ok <$> activity) fun
    | .crash text => return .error text
    | .expired depth => throw (.expired depth)

/-- Wait without being interrupted; a blocking wait takes no time. -/
def uninterrupted
    {σ ε α : Type}
    (_ : Span) : Activity (World σ ε α) (Except Rejection Unit) :=
  return .ok ()

/-- Wait on the token of the world. -/
def onToken (_ : Span) : Play (Except Rejection Unit) := do
  if (← get).token.interrupted then return .error (.interrupted (← site.state).name)
  return .ok ()

/-- Wait on the timeline. -/
def onTimeline (span : Span) : Play (Except Rejection Unit) := do
  sleep span
  return .ok ()

/-- Play an instruction. -/
def player : Player Instruction Cast Retry.Event Answer := fun instruction calls => do
  let body := inTurn tick calls
  match instruction with
  | .execute =>
    let (made, answer) ← counting (catching (Retry.execute site uninterrupted body))
    return .ran made answer
  | .executeInterruptibly =>
    let (made, answer) ← counting (catching (Retry.execute site onToken body))
    return .ran made answer
  | .executeLater dropAfter =>
    let (made, answer) ← counting (timed dropAfter (Retry.execute site onTimeline body))
    return .timed made answer
  | .metrics => return .metrics (← site.state).metrics
  | .info =>
    let p ← site.state
    return .info p.name p.config
  | .inspect => return .text (← site.state).inspect
  | .unsubscribe =>
    modify fun w => { w with listeners := 0 }
    return .done

/-- Values below a number are worth another attempt. -/
def below (bound : Int) : Value → Bool
  | .number n => decide (n < bound)
  | .text _ => false

/-- Rehearse a new retry. -/
def rehearse
    (dial : Dial)
    (name : String)
    (config : Retry.Config)
    (policy : Retry.Policy Fault Value)
    (listeners : Nat)
    (script : List (Step Instruction)) :
    Except ConfigError (List (Report Cast Retry.Event Answer)) := do
  let retry ← Retry.create name config policy
  return run player script (World.start dial listeners ⟨retry, 0⟩)

end RetryScene
end Rehearsal
end FaultTolerance
