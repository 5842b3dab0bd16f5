import FaultTolerance.Limiter.Basic

/-!
# Acquiring permits by waiting

A caller that gets its permit at once goes on.  Any other caller blocks: until its permit is
covered, or, when it got none, for as long as it was willing to wait.  A caller that is interrupted
while it blocks hands back what it holds.

The block itself is an argument: it is told how long to last and answers whether it was cut short.
-/

namespace FaultTolerance
namespace Limiter

open Time

variable {ω ε τ : Type}

/-- Block for some nanoseconds, counted among the waiting callers meanwhile; no time at all is no
block. -/
def block
    (site : Site ω Limiter Event)
    (pause : Span → Activity ω Bool)
    (nanos : Nat) : Activity ω Bool := do
  if nanos = 0 then return false
  site.visit fun _ l => ((), { l with waiting := l.waiting + 1 })
  let interrupted ← pause (Span.clip nanos)
  site.visit fun _ l => ((), { l with waiting := l.waiting - 1 })
  return interrupted

/-- Acquire a permit, waiting at most `timeout`. -/
def acquire
    (site : Site ω Limiter Event)
    (pause : Span → Activity ω Bool)
    (timeout : Span) : Activity ω (Except Rejection Unit) := do
  let quote ← site.visit fun r l => l.claim r.now timeout.ticks
  if quote.taken && quote.wait == 0 then
    site.announce .successfulAcquire
    return .ok ()
  let interrupted ← block site pause (min quote.wait timeout.ticks)
  if quote.taken && !interrupted then
    site.announce .successfulAcquire
    return .ok ()
  if quote.taken then site.perform handBack
  site.announce .failedAcquire
  let l ← site.state
  return .error (if interrupted then .interrupted l.name else l.notPermitted)

/-- Acquire a permit by a reservation and a wait on a scheduler; abandoning the wait hands the
reservation back. -/
def acquireLater
    (site : Site ω Limiter Event)
    (sleep : Span → Activity ω Unit)
    (timeout : Span) : Activity ω (Except Rejection Unit) := do
  match ← site.perform (reserve timeout) with
  | .error rejection => return .error rejection
  | .ok wait =>
    if wait.nanos = 0 then return .ok ()
    (sleep wait).orElseHalt (site.perform handBack)
    return .ok ()

/-- Run a call once a permit is acquired within the wait that is set. -/
def call
    (site : Site ω Limiter Event)
    (pause : Span → Activity ω Bool)
    (body : Activity ω (Except ε τ)) : Activity ω (Except (CallError ε) τ) := do
  let l ← site.state
  match ← acquire site pause l.timing.timeout with
  | .error rejection => return .error (.rejected rejection)
  | .ok () => return (← body).mapError .execution

end Limiter
end FaultTolerance
