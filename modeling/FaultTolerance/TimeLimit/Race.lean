import FaultTolerance.TimeLimit.Basic

/-!
# Racing a worker against a deadline

A blocking call runs on a worker of its own while the caller waits for its outcome up to a deadline.
Whoever is first to claim the race decides it: a worker that claims it delivers its outcome through
a channel with one place, a caller that claims it at the deadline answers with a timeout and, if
cancelling is set, interrupts the worker's token.  A caller whose claim comes too late waits for the
outcome that is on its way.

## Main definitions

* `Race`: the claim, the channel, the token and the two parties.
* `Race.step`: one move of one party.
* `Race.run`: a race under a schedule.
-/

namespace FaultTolerance
namespace TimeLimit

/-- How a blocking call ends for its caller. -/
inductive Ending (α : Type) where
  | outcome (value : α)
  | timedOut
  | crashed (text : String)
  | lost

/-- The worker: it runs, then claims, then delivers. -/
inductive Worker (α : Type) where
  | running
  | claiming (value : α)
  | delivering (value : α)
  | finished
  | crashed (text : String)

/-- The caller: it waits up to the deadline, then claims, and waits again if its claim fails. -/
inductive Caller (α : Type) where
  | waiting
  | claiming
  | waitingOn
  | ended (ending : Ending α)

/-- A race between a worker and its caller. -/
structure Race (α : Type) where
  claimed : Bool
  channel : Option α
  token : Bool
  worker : Worker α
  caller : Caller α

/-- One move of one party. -/
inductive Move (α : Type) where
  | workerReturns (value : α)
  | workerCrashes (text : String)
  | workerClaims
  | workerDelivers
  | deadlinePasses
  | callerReceives
  | callerClaims

namespace Race

variable {α : Type}

/-- The race as it starts. -/
def start : Race α :=
  ⟨false, none, false, .running, .waiting⟩

/-- What a waiting caller finds: the outcome in the channel, or, once nobody can deliver any more,
the worker's end. -/
def receive (race : Race α) : Option (Ending α) :=
  match race.channel, race.worker with
  | some value, _ => some (.outcome value)
  | none, .crashed text => some (.crashed text)
  | none, .finished => some .lost
  | none, _ => none

/-- Make a move, if it is possible. -/
def step
    (cancel : Bool)
    (race : Race α) : Move α → Option (Race α)
  | .workerReturns value =>
    match race.worker with
    | .running => some { race with worker := .claiming value }
    | _ => none
  | .workerCrashes text =>
    match race.worker with
    | .running => some { race with worker := .crashed text }
    | _ => none
  | .workerClaims =>
    match race.worker with
    | .claiming value =>
      if race.claimed then some { race with worker := .finished }
      else some { race with claimed := true, worker := .delivering value }
    | _ => none
  | .workerDelivers =>
    match race.worker with
    | .delivering value => some { race with channel := some value, worker := .finished }
    | _ => none
  | .deadlinePasses =>
    match race.caller with
    | .waiting => some { race with caller := .claiming }
    | _ => none
  | .callerReceives =>
    match race.caller with
    | .waiting | .waitingOn => race.receive.map fun ending => { race with caller := .ended ending }
    | _ => none
  | .callerClaims =>
    match race.caller with
    | .claiming =>
      if race.claimed then some { race with caller := .waitingOn }
      else some { race with claimed := true, token := cancel, caller := .ended .timedOut }
    | _ => none

/-- Make the moves of a schedule in turn; a move that is not possible is skipped. -/
def run
    (cancel : Bool)
    (schedule : List (Move α))
    (race : Race α) : Race α :=
  schedule.foldl (fun race move => (race.step cancel move).getD race) race

/-- The end of a worker's run. -/
def workerEnd : Except String α → Move α
  | .ok value => .workerReturns value
  | .error text => .workerCrashes text

/-- The worker is done before the deadline. -/
def inTime (ending : Except String α) : List (Move α) :=
  [workerEnd ending, .workerClaims, .workerDelivers, .callerReceives]

/-- The deadline passes before the worker is done. -/
def late (ending : Except String α) : List (Move α) :=
  [.deadlinePasses, .callerClaims, workerEnd ending, .workerClaims, .workerDelivers]

end Race

variable {ω ε τ : Type}

/-- Answer a blocking call as its race ended. -/
def answer
    (site : Site ω TimeLimit Event)
    (race : Race (Except ε τ)) : Activity ω (Except (CallError ε) τ) :=
  match race.caller with
  | .ended (.outcome outcome) => site.perform (finish outcome)
  | .ended (.crashed text) => throw (.crash text)
  | .ended .lost => throw (.crash "time limiter worker exited without an outcome")
  | .ended .timedOut | .waiting | .claiming | .waitingOn => site.perform expire

end TimeLimit
end FaultTolerance
