import FaultTolerance.Bulkhead.Acquire
import FaultTolerance.Rehearsal.Run

/-!
# Rehearsing a bulkhead

A guard holds a permit until it is dropped.  A waiting caller looks for a permit, then another party
acts, then the caller looks again for the last time.
-/

namespace FaultTolerance
namespace Rehearsal
namespace BulkheadScene

open Time

/-- A bulkhead, the guards given out so far with whether each still holds its permit, the token of a
waiting caller, and whether the other party has acted. -/
structure Cast where
  bulkhead : Bulkhead
  guards : List Bool
  token : Token
  acted : Bool

/-- What another party does while a caller waits. -/
inductive Act where
  | release
  | complete
  | interrupt
  | change (config : Bulkhead.Config)

/-- What can be done to a bulkhead. -/
inductive Instruction where
  | tryAcquire
  | acquire
  | acquireInterruptibly
  | acquireWithin (wait : Span)
  | enter
  | drop (guard : Nat)
  | complete
  | release
  | call
  | change (config : Bulkhead.Config)
  | waiter (wait : Span) (act : Act)
  | info
  | inspect
  | unsubscribe

/-- What an instruction answers. -/
inductive Answer where
  | done
  | flag (b : Bool)
  | permission (result : Except Rejection Unit)
  | entered (result : Except Rejection Nat)
  | call (answer : Except (CallError Fault) Value)
  | checked (result : Checked)
  | info (name : String) (config : Bulkhead.Config)
  | text (s : String)

/-- An activity in the world of a bulkhead. -/
abbrev Play := Activity (World Cast Bulkhead.Event Answer)

/-- The site of the bulkhead. -/
def site : Site (World Cast Bulkhead.Event Answer) Bulkhead Bulkhead.Event :=
  World.site (·.bulkhead) (fun bulkhead cast => { cast with bulkhead }) World.hear

/-! ### Ways to wait -/

/-- Nobody interrupts, and nothing happens until the time is up. -/
def alone : Bulkhead.Patience (World Cast Bulkhead.Event Answer) :=
  ⟨return false, [return ()]⟩

/-- The token of the world may be interrupted, and nothing happens until the time is up. -/
def onToken : Bulkhead.Patience (World Cast Bulkhead.Event Answer) :=
  ⟨return (← get).token.interrupted, [return ()]⟩

/-- Another party acts. -/
def perform (act : Act) : Play Unit := do
  World.change fun cast => { cast with acted := true }
  match act with
  | .release => site.perform Bulkhead.release
  | .complete => site.perform Bulkhead.complete
  | .interrupt => World.change fun cast => { cast with token := cast.token.interrupt }
  | .change config =>
    let _ ← site.perform (Bulkhead.change config)
    return ()

/-- Another party acts while the caller waits on a token of its own. -/
def beside (act : Act) : Bulkhead.Patience (World Cast Bulkhead.Event Answer) :=
  ⟨return (← get).subject.token.interrupted, [perform act]⟩

/-- A caller waits while another party acts; if the caller does not wait, the other party acts
afterwards. -/
def wait
    (span : Span)
    (act : Act) : Play (Except Rejection Unit) := do
  World.change fun cast => { cast with token := Token.fresh, acted := false }
  let result ← Bulkhead.acquireWithin site (beside act) span
  if !(← get).subject.acted then perform act
  return result

/-! ### Guards -/

/-- Acquire a permit under a new guard. -/
def enter : Play (Except Rejection Nat) := do
  match ← Bulkhead.acquire site alone with
  | .error rejection => return .error rejection
  | .ok () =>
    let guard := (← get).subject.guards.length
    World.change fun cast => { cast with guards := cast.guards ++ [true] }
    return .ok guard

/-- Drop a guard; the answer tells whether it still held its permit. -/
def drop (guard : Nat) : Play Bool := do
  if (← get).subject.guards.getD guard false then
    World.change fun cast => { cast with guards := cast.guards.set guard false }
    site.perform Bulkhead.complete
    return true
  else return false

/-- Play an instruction. -/
def player : Player Instruction Cast Bulkhead.Event Answer := fun instruction calls => do
  let body := calls.headD (finish (.crashes ""))
  match instruction with
  | .tryAcquire => return .flag (← Bulkhead.acquire site alone).isOk
  | .acquire => return .permission (← Bulkhead.acquire site alone)
  | .acquireInterruptibly => return .permission (← Bulkhead.acquire site onToken)
  | .acquireWithin wait => return .permission (← Bulkhead.acquireWithin site onToken wait)
  | .enter => return .entered (← enter)
  | .drop guard => return .flag (← drop guard)
  | .complete =>
    site.perform Bulkhead.complete
    return .done
  | .release =>
    site.perform Bulkhead.release
    return .done
  | .call => return .call (← Bulkhead.call site alone body)
  | .change config => return .checked (← site.perform (Bulkhead.change config))
  | .waiter span act => return .permission (← wait span act)
  | .info =>
    let b ← site.state
    return .info b.name b.config
  | .inspect => return .text (← site.state).inspect
  | .unsubscribe =>
    modify fun w => { w with listeners := 0 }
    return .done

/-- Rehearse a new bulkhead. -/
def rehearse
    (dial : Dial)
    (name : String)
    (config : Bulkhead.Config)
    (listeners : Nat)
    (script : List (Step Instruction)) :
    Except ConfigError (List (Report Cast Bulkhead.Event Answer)) := do
  let bulkhead ← Bulkhead.create name config
  return run player script (World.start dial listeners ⟨bulkhead, [], Token.fresh, false⟩)

end BulkheadScene
end Rehearsal
end FaultTolerance
