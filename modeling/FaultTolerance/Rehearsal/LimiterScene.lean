import FaultTolerance.Limiter.Acquire
import FaultTolerance.Rehearsal.Run

/-!
# Rehearsing a rate limiter

A waiting caller is observed while it blocks: the numbers of the limiter at that moment are kept, and
then its token is interrupted.  The answer tells them with the result, and whether the token still is
interrupted.
-/

namespace FaultTolerance
namespace Rehearsal
namespace LimiterScene

open Time

/-- A rate limiter, its numbers when a caller was last seen to block, and the token of that caller. -/
structure Cast where
  limiter : Limiter
  blocked : Option Limiter.Metrics
  waiter : Token

/-- What can be done to a rate limiter. -/
inductive Instruction where
  | tryAcquire
  | acquire (timeout : Span)
  | acquireStrict (timeout : Span)
  | reserve (timeout : Span)
  | acquireLater (timeout : Span) (dropAfter : Option Span)
  | call
  | waiter (timeout : Span)
  | concurrent (callers : Nat)
  | changeLimit (limit : Nat)
  | changePeriod (period : Span)
  | changeTimeout (timeout : Span)
  | metrics
  | info
  | inspect
  | unsubscribe

/-- What an instruction answers. -/
inductive Answer where
  | done
  | flag (b : Bool)
  | permission (result : Except Rejection Unit)
  | reserved (result : Except Rejection Span)
  | timed (answer : Timed (Except Rejection Unit))
  | call (answer : Except (CallError Fault) Value)
  | waited (blocked : Limiter.Metrics) (result : Except Rejection Unit) (interrupted : Bool)
  | granted (callers : Nat)
  | checked (result : Checked)
  | metrics
  | info (name : String) (config : Limiter.Config)
  | text (s : String)

/-- An activity in the world of a rate limiter. -/
abbrev Play := Activity (World Cast Limiter.Event Answer)

/-- The site of the limiter. -/
def site : Site (World Cast Limiter.Event Answer) Limiter Limiter.Event :=
  World.site (·.limiter) (fun limiter cast => { cast with limiter }) World.hear

/-! ### Ways to block -/

/-- Block without being interrupted. -/
def uninterrupted (_ : Span) : Play Bool :=
  return false

/-- Block on the token of the world. -/
def onToken (_ : Span) : Play Bool :=
  return (← get).token.interrupted

/-- Block until interrupted, and let the numbers of the limiter be seen before that. -/
def observed (_ : Span) : Play Bool := do
  let now ← site.now
  World.change fun cast =>
    { cast with
      blocked := some (cast.limiter.metrics now)
      waiter := cast.waiter.interrupt }
  return (← get).subject.waiter.interrupted

/-- Acquire a permit as a caller with a token of its own, which is interrupted once the caller blocks or
has ended. -/
def wait (timeout : Span) : Play Answer := do
  World.change fun cast => { cast with blocked := none, waiter := .fresh }
  let result ← Limiter.acquire site observed timeout
  World.change fun cast => { cast with waiter := cast.waiter.interrupt }
  let w ← get
  let blocked := w.subject.blocked.getD (w.subject.limiter.metrics w.now)
  return .waited blocked result w.subject.waiter.interrupted

/-- Let some callers acquire permits without waiting; the answer counts those who get one. -/
def acquireMany : (callers granted : Nat) → Play Nat
  | 0, granted => return granted
  | callers + 1, granted => do
    let result ← Limiter.acquire site uninterrupted Span.zero
    acquireMany callers (if result.isOk then granted + 1 else granted)

/-- Play an instruction. -/
def player : Player Instruction Cast Limiter.Event Answer := fun instruction calls => do
  let l ← site.state
  let body := calls.headD (finish (.crashes ""))
  match instruction with
  | .tryAcquire => return .flag (← Limiter.acquire site uninterrupted l.timing.timeout).isOk
  | .acquire timeout => return .flag (← Limiter.acquire site uninterrupted timeout).isOk
  | .acquireStrict timeout => return .permission (← Limiter.acquire site onToken timeout)
  | .reserve timeout => return .reserved (← site.perform (Limiter.reserve timeout))
  | .acquireLater timeout dropAfter =>
    return .timed (← timed dropAfter (Limiter.acquireLater site sleep timeout))
  | .call => return .call (← Limiter.call site uninterrupted body)
  | .waiter timeout => wait timeout
  | .concurrent callers => return .granted (← acquireMany callers 0)
  | .changeLimit limit => return .checked (← site.perform (Limiter.changeLimit limit))
  | .changePeriod period => return .checked (← site.perform (Limiter.changePeriod period))
  | .changeTimeout timeout =>
    site.perform (Limiter.changeTimeout timeout)
    return .done
  | .metrics => return .metrics
  | .info => return .info l.name l.config
  | .inspect => return .text (l.inspect (← site.now))
  | .unsubscribe =>
    modify fun w => { w with listeners := 0 }
    return .done

/-- Rehearse a new rate limiter. -/
def rehearse
    (dial : Dial)
    (name : String)
    (config : Limiter.Config)
    (listeners : Nat)
    (script : List (Step Instruction)) :
    Except ConfigError (List (Report Cast Limiter.Event Answer)) := do
  let idle : World Unit Empty Answer := World.start dial 0 ()
  let limiter ← Limiter.create name config idle.now
  return run player script (World.start dial listeners ⟨limiter, none, .fresh⟩)

end LimiterScene
end Rehearsal
end FaultTolerance
