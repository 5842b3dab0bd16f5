import FaultTolerance.Time.Span

/-!
# Circuits and their phases

A circuit is closed, open, half-open, disabled or forced open.  A trigger moves it along one of its
edges; the only guarded edge leads from open to half-open and needs the wait recorded on opening to
have passed.

## Main definitions

* `Circuit.Phase`: the five phases by name.
* `Circuit`: a phase with its data.
* `Circuit.Trigger`, `Circuit.handle`: the edges.
-/

namespace FaultTolerance

open Time

/-- A phase with its data: an open circuit knows when it opened and how long it waits, a half-open
one how many trial calls are left. -/
inductive Circuit where
  | closed
  | open (openedAt wait : Nat)
  | halfOpen (remaining : Nat)
  | disabled
  | forcedOpen
deriving DecidableEq, Repr

namespace Circuit

/-- The five phases. -/
inductive Phase where
  | closed
  | open
  | halfOpen
  | disabled
  | forcedOpen
deriving DecidableEq, Repr

namespace Phase

/-- Every phase. -/
def all : List Phase :=
  [.closed, .open, .halfOpen, .disabled, .forcedOpen]

/-- The phase's name in messages and settings. -/
def label : Phase → String
  | .closed => "CLOSED"
  | .open => "OPEN"
  | .halfOpen => "HALF_OPEN"
  | .disabled => "DISABLED"
  | .forcedOpen => "FORCED_OPEN"

/-- The phase's name in inspection texts. -/
def inspect : Phase → String
  | .closed => "Closed"
  | .open => "Open"
  | .halfOpen => "HalfOpen"
  | .disabled => "Disabled"
  | .forcedOpen => "ForcedOpen"

/-- Whether finished calls are recorded in this phase. -/
def records : Phase → Bool
  | .closed | .halfOpen => true
  | .open | .disabled | .forcedOpen => false

end Phase

/-- What may move a circuit. -/
inductive Trigger where
  | trip
  | attemptReset
  | probe
  | close
  | disable
  | forceOpen
deriving DecidableEq, Repr

namespace Trigger

/-- Every trigger. -/
def all : List Trigger :=
  [.trip, .attemptReset, .probe, .close, .disable, .forceOpen]

/-- The trigger's name. -/
def label : Trigger → String
  | .trip => "trip"
  | .attemptReset => "attempt_reset"
  | .probe => "probe"
  | .close => "close"
  | .disable => "disable"
  | .forceOpen => "force_open"

/-- The phase a trigger leads to. -/
def target : Trigger → Phase
  | .trip => .open
  | .attemptReset | .probe => .halfOpen
  | .close => .closed
  | .disable => .disabled
  | .forceOpen => .forcedOpen

/-- The unguarded trigger that leads to a phase. -/
def toward : Phase → Trigger
  | .closed => .close
  | .open => .trip
  | .halfOpen => .probe
  | .disabled => .disable
  | .forcedOpen => .forceOpen

@[simp]
theorem target_toward (p : Phase) : (toward p).target = p := by
  cases p <;> rfl

end Trigger

/-- Why a circuit did not move. -/
inductive Refusal where
  | noEdge (source : Phase) (trigger : Trigger)
  | guarded (condition : String) (trigger : Trigger)
deriving DecidableEq, Repr

/-- The phase of a circuit. -/
def phase : Circuit → Phase
  | .closed => .closed
  | .open _ _ => .open
  | .halfOpen _ => .halfOpen
  | .disabled => .disabled
  | .forcedOpen => .forcedOpen

/-- A phase entered anew, with zeroed data. -/
def fresh : Phase → Circuit
  | .closed => .closed
  | .open => .open 0 0
  | .halfOpen => .halfOpen 0
  | .disabled => .disabled
  | .forcedOpen => .forcedOpen

@[simp]
theorem phase_fresh (p : Phase) : (fresh p).phase = p := by
  cases p <;> rfl

/-- Whether an open circuit has waited long enough at a clock reading; a clock that went back has
not moved. -/
def waitElapsed (now openedAt wait : Nat) : Bool :=
  decide (wait ≤ now - openedAt)

/-- Follow the edge of a trigger.  No trigger leads from a phase to itself, and an attempt to reset
leads only out of the open phase, once the wait has passed. -/
def handle
    (c : Circuit)
    (now : Nat)
    (trigger : Trigger) : Except Refusal Circuit :=
  match trigger, c with
  | .attemptReset, .open openedAt wait =>
    if waitElapsed now openedAt wait then .ok (fresh .halfOpen)
    else .error (.guarded "wait_elapsed" .attemptReset)
  | .attemptReset, c => .error (.noEdge c.phase .attemptReset)
  | trigger, c =>
    if c.phase = trigger.target then .error (.noEdge c.phase trigger)
    else .ok (fresh trigger.target)

/-- Replace the data of an open circuit; another phase is answered as it is. -/
def setOpen
    (openedAt wait : Nat) : Circuit → Except Phase Circuit
  | .open _ _ => .ok (.open openedAt wait)
  | c => .error c.phase

/-- Replace the data of a half-open circuit; another phase is answered as it is. -/
def setHalfOpen
    (remaining : Nat) : Circuit → Except Phase Circuit
  | .halfOpen _ => .ok (.halfOpen remaining)
  | c => .error c.phase

end Circuit
end FaultTolerance
