import FaultTolerance.Rehearsal.Run

/-!
# Rehearsing an interrupt token
-/

namespace FaultTolerance
namespace Rehearsal
namespace TokenScene

open Time

/-- What can be done to a token; a sleeper may be interrupted by somebody else while it sleeps. -/
inductive Instruction where
  | interrupt
  | clear
  | sleep
  | sleepInterrupted
  | inspect

/-- What an instruction answers. -/
inductive Answer where
  | done
  | flag (b : Bool)
  | slept (completed : Bool)
  | text (s : String)

/-- Play an instruction; a sleep of any length ends early just when the token is interrupted. -/
def player : Player Instruction Token Empty Answer := fun instruction _ => do
  match instruction with
  | .interrupt =>
    World.change Token.interrupt
    return .done
  | .clear =>
    let (was, token) := (← get).subject.clear
    World.change fun _ => token
    return .flag was
  | .sleep => return .slept (!(← get).subject.interrupted)
  | .sleepInterrupted =>
    World.change Token.interrupt
    return .slept false
  | .inspect => return .text (← get).subject.inspect

/-- Rehearse a fresh token. -/
def rehearse (script : List (Step Instruction)) : List (Report Token Empty Answer) :=
  run player script (World.start .standing 0 Token.fresh)

end TokenScene
end Rehearsal
end FaultTolerance
