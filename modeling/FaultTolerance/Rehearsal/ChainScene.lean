import FaultTolerance.Breaker.Call
import FaultTolerance.Bulkhead.Acquire
import FaultTolerance.Limiter.Acquire
import FaultTolerance.Rehearsal.RetryScene

/-!
# Rehearsing a chain of protections

A retry around a rate limiter around a bulkhead around a circuit breaker.  Each protection adds its
own layer to the error of the call inside.
-/

namespace FaultTolerance
namespace Rehearsal
namespace ChainScene

open Time

/-- The error of a call that passed through the breaker, the bulkhead and the rate limiter. -/
abbrev LayeredError := CallError (CallError (CallError Fault))

/-- The names of the four protections. -/
structure Names where
  breaker : String
  bulkhead : String
  limiter : String
  retry : String
deriving DecidableEq, Repr

/-- The four protections, and the innermost calls made in the run at hand. -/
structure Cast where
  breaker : Breaker
  bulkhead : Bulkhead
  limiter : Limiter
  retry : Retry LayeredError Value
  calls : Nat

/-- What is heard of a chain. -/
inductive Heard where
  | breaker (e : Breaker.Event)
  | bulkhead (e : Bulkhead.Event)
  | limiter (e : Limiter.Event)
  | retry (e : Retry.Event)

/-- What can be done to a chain. -/
inductive Instruction where
  | call
  | hold
  | unhold
  | metrics

/-- The numbers of the four protections. -/
structure Metrics where
  breaker : Breaker.Metrics
  limiter : Limiter.Metrics
  available : Nat
  retry : Retry.Metrics

/-- What an instruction answers. -/
inductive Answer where
  | done
  | permission (result : Except Rejection Unit)
  | ran (calls : Nat) (answer : Except String (Except (CallError LayeredError) Value))
  | metrics (m : Metrics)

/-- An activity in the world of a chain. -/
abbrev Play := Activity (World Cast Heard Answer)

/-! ### Sites -/

/-- The site of the breaker. -/
def breakerSite : Site (World Cast Heard Answer) Breaker Breaker.Event :=
  World.site (·.breaker) (fun breaker cast => { cast with breaker })
    fun event => World.hear (.breaker event)

/-- The site of the bulkhead. -/
def bulkheadSite : Site (World Cast Heard Answer) Bulkhead Bulkhead.Event :=
  World.site (·.bulkhead) (fun bulkhead cast => { cast with bulkhead })
    fun event => World.hear (.bulkhead event)

/-- The site of the rate limiter. -/
def limiterSite : Site (World Cast Heard Answer) Limiter Limiter.Event :=
  World.site (·.limiter) (fun limiter cast => { cast with limiter })
    fun event => World.hear (.limiter event)

/-- The site of the retry. -/
def retrySite : Site (World Cast Heard Answer) (Retry LayeredError Value) Retry.Event :=
  World.site (·.retry) (fun retry cast => { cast with retry })
    fun event => World.hear (.retry event)

/-! ### Calls -/

/-- Nobody interrupts, and nothing happens until the time is up. -/
def alone : Bulkhead.Patience (World Cast Heard Answer) :=
  ⟨return false, [return ()]⟩

/-- Count an innermost call. -/
def tick : Play Nat := do
  let made := (← get).subject.calls
  World.change fun cast => { cast with calls := made + 1 }
  return made

/-- One attempt: through the rate limiter, the bulkhead and the breaker. -/
def attempt (body : Play (Except Fault Value)) : Play (Except LayeredError Value) :=
  Limiter.call limiterSite (fun _ => return false)
    (Bulkhead.call bulkheadSite alone (Breaker.call breakerSite body))

/-- A call through the whole chain, with the number of innermost calls it made. -/
def call (body : Play (Except Fault Value)) : Play Answer := do
  let around := (← get).subject.calls
  World.change fun cast => { cast with calls := 0 }
  let answer ← RetryScene.catching
    (Retry.execute retrySite RetryScene.uninterrupted (attempt body))
  let made := (← get).subject.calls
  World.change fun cast => { cast with calls := around }
  return .ran made answer

/-- Play an instruction. -/
def player : Player Instruction Cast Heard Answer := fun instruction calls => do
  match instruction with
  | .call => call (inTurn tick calls)
  | .hold => return .permission (← Bulkhead.acquire bulkheadSite alone)
  | .unhold =>
    bulkheadSite.perform Bulkhead.complete
    return .done
  | .metrics =>
    let breaker ← breakerSite.perform Breaker.metrics
    let w ← get
    return .metrics
      { breaker
        limiter := w.subject.limiter.metrics w.now
        available := w.subject.bulkhead.available
        retry := w.subject.retry.metrics }

/-- An error that passed through every layer as the error of the call itself counts. -/
def notRejected : Classifier LayeredError :=
  Classifier.matching fun failure => match failure.error with
    | .execution (.execution (.execution _)) => true
    | _ => false

/-- Rehearse a new chain; the breaker is made first, then the bulkhead, the rate limiter and the
retry. -/
def rehearse
    (dial : Dial)
    (names : Names)
    (breakerConfig : Breaker.Config)
    (bulkheadConfig : Bulkhead.Config)
    (limiterConfig : Limiter.Config)
    (retryConfig : Retry.Config)
    (policy : Retry.Policy LayeredError Value)
    (listeners : Nat)
    (script : List (Step Instruction)) : Except ConfigError (List (Report Cast Heard Answer)) := do
  let idle : World Unit Empty Answer := World.start dial 0 ()
  let breaker ← Breaker.create names.breaker breakerConfig none idle.now
  let bulkhead ← Bulkhead.create names.bulkhead bulkheadConfig
  let limiter ← Limiter.create names.limiter limiterConfig idle.now
  let retry ← Retry.create names.retry retryConfig policy
  return run player script
    (World.start dial listeners { breaker, bulkhead, limiter, retry, calls := 0 })

end ChainScene
end Rehearsal
end FaultTolerance
