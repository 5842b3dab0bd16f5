import FaultTolerance.Rehearsal.World

/-!
# Running a script

A scripted call turns into an activity, and a step into the activity that its protection's player
makes of its instruction and its calls.  A run plays the steps of a script in turn and reports, for
each, what it answered, what was heard, and the world after it.

## Main definitions

* `Rehearsal.Player`: what a protection does with its special instructions.
* `Rehearsal.playStep`, `Rehearsal.playWork`: steps and calls as activities.
* `Rehearsal.run`: the reports of a script.
-/

namespace FaultTolerance
namespace Rehearsal

open Time

/-- A scripted call as an activity. -/
abbrev Body (σ ε α : Type) := Activity (World σ ε α) (Except Fault Value)

/-- What a protection does with a special instruction and the calls that come with it. -/
abbrev Player (κ σ ε α : Type) := κ → List (Body σ ε α) → Activity (World σ ε α) α

section Play

variable {κ σ ε α : Type}

/-- The end of a scripted call. -/
def finish : Ending → Activity (World σ ε α) (Except Fault Value)
  | .returns value => return .ok value
  | .fails fault => return .error fault
  | .crashes text => throw (.crash text)

/-- The steps that every rehearsal knows. -/
def playInstruction
    (player : Player κ σ ε α)
    (calls : List (Body σ ε α)) : Instruction κ → Activity (World σ ε α) (Answer α)
  | .advance d => do
    modify (·.advance d)
    return .ticks (← get).now
  | .set span => do
    modify (·.setClock span)
    return .ticks (← get).now
  | .now => return .reading (← get).now
  | .interrupt => do
    modify fun w => { w with token := w.token.interrupt }
    return .flag true
  | .clearInterrupt => do
    let w ← get
    let (was, token) := w.token.clear
    set { w with token }
    return .flag was
  | .special instruction => return .special (← player instruction calls)

mutual

/-- A step as an activity. -/
def playStep
    (player : Player κ σ ε α) : Step κ → Activity (World σ ε α) (Answer α)
  | .mk _ instruction calls => playInstruction player (playCalls player calls) instruction

/-- A scripted call as an activity. -/
def playWork
    (player : Player κ σ ε α) : Work κ → Activity (World σ ε α) (Except Fault Value)
  | .mk delay advance interrupts during ending => do
    if let some span := delay then work span
    if let some span := advance then modify (·.advance span)
    if interrupts then modify fun w => { w with token := w.token.interrupt }
    playDuring player during
    finish ending

/-- The calls of a step. -/
def playCalls
    (player : Player κ σ ε α) : List (Work κ) → List (Body σ ε α)
  | [] => []
  | work :: later => playWork player work :: playCalls player later

/-- Steps carried out while a call runs, each noted in the journal. -/
def playDuring
    (player : Player κ σ ε α) : List (Step κ) → Activity (World σ ε α) Unit
  | [] => return ()
  | step :: later => do
    let answer ← playStep player step
    World.note (.during step.name answer)
    playDuring player later

end

/-- The report on a step. -/
structure Report (σ ε α : Type) where
  result : Except Halt (Answer α)
  heard : List (Entry ε α)
  after : World σ ε α

/-- Play the steps of a script in turn. -/
def run
    (player : Player κ σ ε α) : List (Step κ) → World σ ε α → List (Report σ ε α)
  | [], _ => []
  | step :: later, world =>
    let (result, after) := (playStep player step).runIn { world with journal := [] }
    ⟨result, after.journal, after⟩ :: run player later after

end Play

end Rehearsal
end FaultTolerance
