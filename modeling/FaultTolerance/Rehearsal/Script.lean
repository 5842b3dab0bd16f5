import FaultTolerance.Classifier
import FaultTolerance.Time.Span

/-!
# Scripts

A rehearsal plays a script against a protection: a list of steps, some of which make calls through
the protection.  What such a call does is scripted too: it may take time, move the clock, interrupt
the token, carry out further steps while it runs, and then it returns, fails or crashes.

## Main definitions

* `Rehearsal.Value`, `Rehearsal.Ending`: how a scripted call ends.
* `Rehearsal.Step`, `Rehearsal.Work`: steps and scripted calls.
-/

namespace FaultTolerance
namespace Rehearsal

open Time

/-- The value of a scripted call. -/
inductive Value where
  | number (n : Int)
  | text (s : String)
deriving DecidableEq, Repr

/-- How a scripted call ends. -/
inductive Ending where
  | returns (value : Value)
  | fails (fault : Fault)
  | crashes (text : String)
deriving DecidableEq, Repr

/-- Steps that every rehearsal knows, beside the special ones of its protection. -/
inductive Instruction (κ : Type) where
  | advance (span : Span)
  | set (span : Span)
  | now
  | interrupt
  | clearInterrupt
  | special (instruction : κ)

/-- What a step answers. -/
inductive Answer (α : Type) where
  | ticks (nanos : Nat)
  | reading (nanos : Nat)
  | flag (b : Bool)
  | special (answer : α)

mutual

/-- A step with its name and the calls it makes. -/
inductive Step (κ : Type) where
  | mk (name : String) (instruction : Instruction κ) (calls : List (Work κ))

/-- A scripted call: the time it takes on the timeline, the move of the clock, whether it
interrupts the token, the steps carried out while it runs, and its end. -/
inductive Work (κ : Type) where
  | mk (delay advance : Option Span) (interrupts : Bool) (during : List (Step κ)) (ending : Ending)

end

/-- The name of a step. -/
def Step.name
    {κ : Type} : Step κ → String
  | .mk name _ _ => name

end Rehearsal
end FaultTolerance
