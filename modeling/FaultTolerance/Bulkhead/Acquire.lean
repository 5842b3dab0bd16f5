import FaultTolerance.Bulkhead.Basic

/-!
# Acquiring permits of a bulkhead

A caller takes a free permit at once.  A caller that does not wait is refused when there is none;
any other caller looks again and again until its token is interrupted, a permit is free, or its time
is up, and checks these three in this order.

What happens between two looks is an argument: a list of activities, the last of which ends when
the caller's time is up.
-/

namespace FaultTolerance
namespace Bulkhead

open Time

variable {ω ε τ : Type}

/-- How a caller waits: whether its token is interrupted, and what happens between its looks. -/
structure Patience (ω : Type) where
  interrupted : Activity ω Bool
  pauses : List (Activity ω Unit)

/-- Look for a permit until the caller's time is up. -/
def await
    (site : Site ω Bulkhead Event)
    (interrupted : Activity ω Bool) :
    (pauses : List (Activity ω Unit)) → Activity ω (Except Rejection Unit)
  | [] => do
    if ← interrupted then return .error (.interrupted (← site.state).name)
    if ← site.visit fun _ b => b.tryTake then return .ok ()
    return .error (← site.state).full
  | pause :: later => do
    if ← interrupted then return .error (.interrupted (← site.state).name)
    if ← site.visit fun _ b => b.tryTake then return .ok ()
    pause
    await site interrupted later

/-- Take a permit, waiting at most `wait`. -/
def takeWithin
    (site : Site ω Bulkhead Event)
    (patience : Patience ω)
    (wait : Span) : Activity ω (Except Rejection Unit) := do
  if ← site.visit fun _ b => b.tryTake then return .ok ()
  if wait.nanos = 0 then return .error (← site.state).full
  await site patience.interrupted patience.pauses

/-- Acquire a permit, waiting at most `wait`, and announce how it went. -/
def acquireWithin
    (site : Site ω Bulkhead Event)
    (patience : Patience ω)
    (wait : Span) : Activity ω (Except Rejection Unit) := do
  let result ← takeWithin site patience wait
  match result with
  | .ok () => site.announce .callPermitted
  | .error _ => site.announce .callRejected
  return result

/-- Acquire a permit, waiting as long as is set. -/
def acquire
    (site : Site ω Bulkhead Event)
    (patience : Patience ω) : Activity ω (Except Rejection Unit) := do
  acquireWithin site patience (← site.state).wait

/-- Run a call while holding a permit, which returns however the call ends. -/
def call
    (site : Site ω Bulkhead Event)
    (patience : Patience ω)
    (body : Activity ω (Except ε τ)) : Activity ω (Except (CallError ε) τ) := do
  match ← acquire site patience with
  | .error rejection => return .error (.rejected rejection)
  | .ok () =>
    let result ← body.orElseHalt (site.perform complete)
    site.perform complete
    return result.mapError .execution

end Bulkhead
end FaultTolerance
