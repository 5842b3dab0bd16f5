import FaultTolerance.Activity
import FaultTolerance.Breaker.Config
import FaultTolerance.CallError
import FaultTolerance.Classifier

/-!
# Circuit breakers

A circuit breaker counts the calls it lets through in a sliding window and opens when the window is
above its thresholds.  An open breaker refuses calls; once its wait has passed, the next acquisition
makes it half-open, where a fixed number of trial calls decide whether it closes or opens again.
The disabled and the forced-open phase are entered and left by hand only.

## Main definitions

* `Breaker`: the state of a circuit breaker.
* `Breaker.Event`: what a breaker announces.
* `Breaker.acquire`, `Breaker.release`, `Breaker.onSuccess`, `Breaker.onError`,
  `Breaker.transition`, `Breaker.reset`: the operations.
* `Breaker.metrics`: the numbers of a breaker.
-/

namespace FaultTolerance

open Time Numeric Text Window

/-- A circuit breaker: `opens` counts the openings since the breaker was last closed, `refused` the
acquisitions it refused. -/
structure Breaker where
  name : String
  config : Breaker.Config
  classifier : Option (Classifier Fault)
  circuit : Circuit
  window : Sliding
  opens : Nat
  refused : Nat

namespace Breaker

/-- What a breaker announces. -/
inductive Event where
  | callPermitted
  | success (elapsed : Span)
  | error (elapsed : Span)
  | ignoredError (elapsed : Span)
  | notPermitted
  | transition (source target : Circuit.Phase)
  | reset
  | failureRateExceeded (rate : Binary32)
  | slowCallRateExceeded (rate : Binary32)
deriving DecidableEq

/-- The event's name. -/
def Event.label : Event → String
  | .callPermitted => "CallPermitted"
  | .success _ => "Success"
  | .error _ => "Error"
  | .ignoredError _ => "IgnoredError"
  | .notPermitted => "NotPermitted"
  | .transition _ _ => "StateTransition"
  | .reset => "Reset"
  | .failureRateExceeded _ => "FailureRateExceeded"
  | .slowCallRateExceeded _ => "SlowCallRateExceeded"

/-- The greatest count of consecutive openings; more are not told apart. -/
abbrev maxOpens : Nat := 0xFFFFFFFF

/-- A closed breaker with an empty window. -/
def create
    (name : String)
    (config : Config)
    (classifier : Option (Classifier Fault))
    (now : Nat) : Except ConfigError Breaker := do
  config.validate
  return { name, config, classifier
           circuit := .closed
           window := config.closedWindow now
           opens := 0
           refused := 0 }

/-- The phase of a breaker. -/
def phase (b : Breaker) : Circuit.Phase :=
  b.circuit.phase

/-! ### Transitions -/

/-- The bookkeeping on entering a phase: closed gets an empty window and ends the series of
openings, open notes the time and the wait, half-open gets its trial calls and an empty window, and
the phases entered by hand get an empty window. -/
def enter
    (b : Breaker)
    (r : Reading)
    (goal : Circuit.Phase) : Breaker :=
  match goal with
  | .closed => { b with opens := 0, window := b.config.closedWindow r.now }
  | .open =>
    let opens := min (b.opens + 1) maxOpens
    let wait := (b.config.waitAfter r.draw opens).ticks
    { b with opens, circuit := (b.circuit.setOpen r.now wait).toOption.getD b.circuit }
  | .halfOpen =>
    { b with
      circuit := (b.circuit.setHalfOpen b.config.trials).toOption.getD b.circuit
      window := b.config.trialWindow }
  | .disabled | .forcedOpen => { b with window := b.window.reset r.now }

/-- Move to another phase, with the transition to announce; a phase does not lead to itself. -/
def moveTo
    (b : Breaker)
    (r : Reading)
    (goal : Circuit.Phase) : Breaker × List Event :=
  match b.circuit.handle r.now (Circuit.Trigger.toward goal) with
  | .ok circuit => (({ b with circuit }).enter r goal, [.transition b.phase goal])
  | .error _ => (b, [])

/-- The change of a transition by hand.  Within a phase it repeats the entry without an
announcement.  An opening by hand empties the window, while an automatic one keeps the window that
caused it. -/
def moveByHand
    (b : Breaker)
    (r : Reading)
    (goal : Circuit.Phase) : Breaker × List Event :=
  let (moved, events) := if b.phase = goal then (b.enter r goal, []) else b.moveTo r goal
  if goal = .open then ({ moved with window := moved.window.reset r.now }, events)
  else (moved, events)

/-! ### Permissions -/

/-- An open breaker whose wait has passed becomes half-open. -/
def wake
    (b : Breaker)
    (r : Reading) : Breaker × List Event :=
  match b.circuit.handle r.now .attemptReset with
  | .ok circuit => (({ b with circuit }).enter r .halfOpen, [.transition .open .halfOpen])
  | .error _ => (b, [])

/-- Take a permission in the phase at hand: always while closed or disabled, as long as trial calls
are left while half-open, and never otherwise. -/
def take (b : Breaker) : Except Circuit.Phase Breaker :=
  match b.circuit with
  | .closed | .disabled => .ok b
  | .halfOpen (remaining + 1) => .ok { b with circuit := .halfOpen remaining }
  | .halfOpen 0 | .open _ _ | .forcedOpen => .error b.phase

/-- Ask for permission to make one call. -/
def acquire : Operation Breaker Event (Except Rejection Unit) :=
  .ofStep fun r b =>
    let (awake, moved) := b.wake r
    match awake.take with
    | .ok taken => (.ok (), taken, moved ++ [.callPermitted])
    | .error phase =>
      (.error (.callNotPermitted b.name phase), { awake with refused := awake.refused + 1 },
        moved ++ [.notPermitted])

/-- A trial call given back, up to the number of trial calls. -/
def giveBack (b : Breaker) : Breaker :=
  match b.circuit with
  | .halfOpen remaining =>
    if remaining < b.config.trials then { b with circuit := .halfOpen (remaining + 1) } else b
  | _ => b

/-- Give back the permission of a call that reports no outcome. -/
def release : Operation Breaker Event Unit :=
  .ofStep fun _ b => ((), b.giveBack, [])

/-! ### Finished calls -/

/-- The thresholds that a snapshot has reached. -/
def exceeded
    (t : Thresholds)
    (s : Snapshot) : List Event :=
  (if t.failureExceeded s then [.failureRateExceeded s.failureRate] else [])
    ++ (if t.slowExceeded s then [.slowCallRateExceeded s.slowRate] else [])

/-- Open a breaker whose window is above its thresholds. -/
def trip
    (b : Breaker)
    (r : Reading)
    (s : Snapshot) : Breaker × List Event :=
  let (moved, events) := b.moveTo r .open
  (moved, exceeded b.config.thresholds s ++ events)

/-- Record a finished call.  A closed breaker opens as soon as its window is above its thresholds; a
half-open one waits for the last trial call, and then opens or closes. -/
def record
    (b : Breaker)
    (r : Reading)
    (elapsed : Span)
    (failed : Bool) : Breaker × List Event :=
  if !b.phase.records then (b, [])
  else
    let outcome := Outcome.classify elapsed b.config.slowDuration failed
    let recorded := { b with window := b.window.record r.now elapsed outcome }
    let snapshot := recorded.window.snapshot
    let above := decide (b.config.thresholds.evaluate snapshot = .aboveThresholds)
    if b.phase = .halfOpen then
      if snapshot.total < b.config.trials then (recorded, [])
      else if above then recorded.trip r snapshot
      else recorded.moveTo r .closed
    else if above then recorded.trip r snapshot
    else (recorded, [])

/-- Report a call that succeeded. -/
def onSuccess (elapsed : Span) : Operation Breaker Event Unit where
  before := fun _ => [.success elapsed]
  step := fun r b => ((), b.record r elapsed false)

/-- Whether a failed call counts. -/
def counts
    (b : Breaker)
    (elapsed : Span)
    (fault : Fault) : Bool :=
  Classifier.ask b.classifier ⟨b.name, fault, elapsed, 1⟩

/-- Report a call that failed.  A failure that does not count only gives its permission back. -/
def onError
    (elapsed : Span)
    (fault : Fault) : Operation Breaker Event Unit where
  before := fun b => if b.counts elapsed fault then [.error elapsed] else []
  step := fun r b =>
    if b.counts elapsed fault then ((), b.record r elapsed true)
    else ((), b.giveBack, [.ignoredError elapsed])

/-! ### Operations by hand -/

/-- Move the breaker by hand. -/
def transition (goal : Circuit.Phase) : Operation Breaker Event Unit :=
  .ofStep fun r b => ((), b.moveByHand r goal)

/-- Close the breaker with an empty window, whatever its phase. -/
def reset : Operation Breaker Event Unit :=
  .ofStep fun r b =>
    let moved := if b.phase = .closed then [] else [.transition b.phase .closed]
    ((), ({ b with circuit := .closed }).enter r .closed, moved ++ [.reset])

/-! ### Views -/

/-- The numbers of a breaker. -/
structure Metrics where
  phase : Circuit.Phase
  snapshot : Snapshot
  refused : Nat

/-- Read the numbers of a breaker; a timed window is brought to the present. -/
def metrics : Operation Breaker Event Metrics :=
  .ofStep fun r b =>
    let window := b.window.catchUp r.now
    (⟨b.phase, window.snapshot, b.refused⟩, { b with window }, [])

/-- The breaker as text. -/
def inspect (b : Breaker) : String :=
  Layout.record "CircuitBreaker"
    [("name", Layout.quoted b.name), ("state", b.phase.inspect), ("config", b.config.inspect)]

end Breaker
end FaultTolerance
