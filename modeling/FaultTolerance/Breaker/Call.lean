import FaultTolerance.Breaker.Basic

/-!
# Calls through a circuit breaker

A call asks for permission, runs, and reports its outcome with the time it took.  A call that halts
reports nothing.
-/

namespace FaultTolerance
namespace Breaker

open Time

variable {ω τ : Type}

/-- Report the outcome of a call. -/
def report
    (elapsed : Span) : Except Fault τ → Operation Breaker Event Unit
  | .ok _ => onSuccess elapsed
  | .error fault => onError elapsed fault

/-- Run a call under a circuit breaker. -/
def call
    (site : Site ω Breaker Event)
    (body : Activity ω (Except Fault τ)) : Activity ω (Except (CallError Fault) τ) := do
  match ← site.perform acquire with
  | .error rejection => return .error (.rejected rejection)
  | .ok () =>
    let start ← site.now
    let result ← body
    let finish ← site.now
    site.perform (report (elapsed start finish) result)
    return result.mapError .execution

end Breaker
end FaultTolerance
