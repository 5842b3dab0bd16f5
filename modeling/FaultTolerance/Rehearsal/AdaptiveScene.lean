import FaultTolerance.Adaptive.Basic
import FaultTolerance.Json.Document
import FaultTolerance.Rehearsal.Run

/-!
# Rehearsing an adaptive bulkhead

The policy of a rehearsal may come from a document, which its text then shows.
-/

namespace FaultTolerance
namespace Rehearsal
namespace AdaptiveScene

open Time Text

/-- A policy whose text shows the document it was read from, and the place it has reached in a list
after some judgements. -/
def readFrom
    (document : Json.Document)
    (place : (judged : Nat) → Nat)
    (policy : LimitPolicy) : LimitPolicy :=
  { policy with
    inspect := fun judged => Layout.record "Policy"
      [("spec", document.inspect), ("at", toString (place judged))] }

/-- What can be done to an adaptive bulkhead. -/
inductive Instruction where
  | tryAcquire
  | acquire
  | acquireInterruptibly
  | release
  | complete (elapsed : Span) (failed : Bool)
  | call
  | metrics
  | info
  | inspect
  | unsubscribe

/-- What an instruction answers. -/
inductive Answer where
  | done
  | flag (b : Bool)
  | permission (result : Except Rejection Unit)
  | verdict (v : Window.Verdict)
  | call (answer : Except (CallError Fault) Value)
  | metrics (m : Adaptive.Metrics)
  | info (name : String) (config : Adaptive.Config)
  | text (s : String)

/-- The site of the adaptive bulkhead, which is the whole subject. -/
def site : Site (World Adaptive Adaptive.Event Answer) Adaptive Adaptive.Event :=
  World.site id (fun adaptive _ => adaptive) World.hear

/-- Nobody interrupts, and nothing happens until the time is up. -/
def alone : Bulkhead.Patience (World Adaptive Adaptive.Event Answer) :=
  ⟨return false, [return ()]⟩

/-- The token of the world may be interrupted, and nothing happens until the time is up. -/
def onToken : Bulkhead.Patience (World Adaptive Adaptive.Event Answer) :=
  ⟨return (← get).token.interrupted, [return ()]⟩

/-- Play an instruction. -/
def player : Player Instruction Adaptive Adaptive.Event Answer := fun instruction calls => do
  let body := calls.headD (finish (.crashes ""))
  match instruction with
  | .tryAcquire => return .flag (← Adaptive.acquire site alone).isOk
  | .acquire => return .permission (← Adaptive.acquire site alone)
  | .acquireInterruptibly => return .permission (← Adaptive.acquire site onToken)
  | .release =>
    site.perform Adaptive.release
    return .done
  | .complete elapsed failed => return .verdict (← site.perform (Adaptive.complete elapsed failed))
  | .call => return .call (← Adaptive.call site alone body)
  | .metrics => return .metrics (← site.perform Adaptive.metrics)
  | .info =>
    let a ← site.state
    return .info a.name a.config
  | .inspect => return .text (← site.perform Adaptive.inspect)
  | .unsubscribe =>
    modify fun w => { w with listeners := 0 }
    return .done

/-- Rehearse a new adaptive bulkhead. -/
def rehearse
    (dial : Dial)
    (name : String)
    (config : Adaptive.Config)
    (policy : LimitPolicy)
    (listeners : Nat)
    (script : List (Step Instruction)) :
    Except ConfigError (List (Report Adaptive Adaptive.Event Answer)) := do
  let idle : World Unit Empty Answer := World.start dial 0 ()
  let adaptive ← Adaptive.create name config policy idle.now
  return run player script (World.start dial listeners adaptive)

end AdaptiveScene
end Rehearsal
end FaultTolerance
