import FaultTolerance.Circuit
import FaultTolerance.Rehearsal.Run
import FaultTolerance.Text.Layout

/-!
# Rehearsing a circuit on its own
-/

namespace FaultTolerance
namespace Rehearsal
namespace CircuitScene

open Time Text

/-- What can be done to a circuit. -/
inductive Instruction where
  | handle (trigger : Circuit.Trigger)
  | setOpen (openedAt wait : Nat)
  | setHalfOpen (remaining : Nat)
  | isIn (phase : Circuit.Phase)
  | inspectContext

/-- What it answers. -/
inductive Answer where
  | done
  | refused (refusal : Circuit.Refusal)
  | wrongPhase (expected actual : Circuit.Phase)
  | flag (b : Bool)
  | text (s : String)

/-- A circuit as text, by its name and its clock. -/
def inspectContext
    (name : String)
    (clock : HandClock) : String :=
  Layout.record "CircuitContext" [("name", Layout.quoted name), ("clock", clock.inspect)]

/-- Keep a changed circuit, or answer why it did not change. -/
def keep
    (changed : Except Answer Circuit) : Activity (World Circuit Empty Answer) Answer :=
  match changed with
  | .ok circuit => do
    World.change fun _ => circuit
    return .done
  | .error answer => return answer

/-- Play an instruction; the circuit goes by the name `machine`. -/
def player : Player Instruction Circuit Empty Answer := fun instruction _ => do
  let w ← get
  match instruction with
  | .handle trigger => keep ((w.subject.handle w.now trigger).mapError .refused)
  | .setOpen openedAt wait =>
    keep ((w.subject.setOpen openedAt wait).mapError (.wrongPhase .open))
  | .setHalfOpen remaining =>
    keep ((w.subject.setHalfOpen remaining).mapError (.wrongPhase .halfOpen))
  | .isIn phase => return .flag (decide (w.subject.phase = phase))
  | .inspectContext => return .text (inspectContext "machine" ⟨w.now⟩)

/-- Rehearse a closed circuit. -/
def rehearse
    (dial : Dial)
    (script : List (Step Instruction)) : List (Report Circuit Empty Answer) :=
  run player script (World.start dial 0 .closed)

end CircuitScene
end Rehearsal
end FaultTolerance
