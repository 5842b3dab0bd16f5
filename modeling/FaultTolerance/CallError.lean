import FaultTolerance.Circuit
import FaultTolerance.Text.Layout

/-!
# Rejections and errors of protected calls

A protected call may be rejected before it starts, may run out of time, may exhaust its attempts,
or may run and fail.  The error of the call itself is a parameter, so that protections can be
nested.

## Main definitions

* `Rejection`: why a call was not started.
* `CallError`: why a protected call has no value.
* `Rejection.message`, `CallError.message`: the wording of each.
-/

namespace FaultTolerance

open Time Text

/-- Why a call was not started. -/
inductive Rejection where
  | callNotPermitted (name : String) (phase : Circuit.Phase)
  | bulkheadFull (name : String) (limit : Nat)
  | requestNotPermitted (name : String)
  | interrupted (name : String)
deriving DecidableEq, Repr

namespace Rejection

/-- The wording of a rejection. -/
def message : Rejection → String
  | .callNotPermitted name phase =>
    "CircuitBreaker '" ++ name ++ "' is " ++ phase.label ++ " and does not permit further calls"
  | .bulkheadFull name limit =>
    "Bulkhead '" ++ name ++ "' is full and does not permit further calls (limit: "
      ++ toString limit ++ ")"
  | .requestNotPermitted name =>
    "RateLimiter '" ++ name ++ "' does not permit further calls"
  | .interrupted name => "'" ++ name ++ "' was interrupted while waiting"

/-- Whether a wait was interrupted. -/
def isInterrupted : Rejection → Bool
  | .interrupted _ => true
  | _ => false

/-- The rejection as text. -/
def inspect : Rejection → String
  | .callNotPermitted name phase =>
    Layout.record "CallNotPermitted" [("name", Layout.quoted name), ("state", phase.inspect)]
  | .bulkheadFull name limit =>
    Layout.record "BulkheadFull"
      [("name", Layout.quoted name), ("max_concurrent_calls", toString limit)]
  | .requestNotPermitted name =>
    Layout.record "RequestNotPermitted" [("name", Layout.quoted name)]
  | .interrupted name => Layout.record "Interrupted" [("name", Layout.quoted name)]

end Rejection

/-- Why a protected call has no value; `ε` is the call's own error. -/
inductive CallError (ε : Type) where
  | rejected (rejection : Rejection)
  | timeout (name : String) (limit : Span)
  | exhausted (name : String) (attempts : Nat) (last : ε)
  | execution (inner : ε)
deriving DecidableEq

namespace CallError

variable {ε : Type}

/-- The wording of an error; the call's own error brings its own words. -/
def message
    (inner : ε → String) : CallError ε → String
  | .rejected rejection => rejection.message
  | .timeout name limit => "TimeLimiter '" ++ name ++ "' recorded a timeout after " ++ limit.text
  | .exhausted name attempts last =>
    "Retry '" ++ name ++ "' exhausted after " ++ toString attempts ++ " attempts: " ++ inner last
  | .execution e => inner e

/-- The error as text. -/
def inspect
    (inner : ε → String) : CallError ε → String
  | .rejected rejection => Layout.wrapped "Rejected" rejection.inspect
  | .timeout name limit =>
    Layout.record "Timeout" [("name", Layout.quoted name), ("timeout", limit.text)]
  | .exhausted name attempts last =>
    Layout.record "RetryExhausted"
      [("name", Layout.quoted name), ("attempts", toString attempts), ("last", inner last)]
  | .execution e => Layout.wrapped "Execution" (inner e)

/-- The failure of the call itself, if it ran and failed. -/
def inner? : CallError ε → Option ε
  | .exhausted _ _ last => some last
  | .execution e => some e
  | _ => none

/-- The rejection, if the call was not started. -/
def rejection? : CallError ε → Option Rejection
  | .rejected rejection => some rejection
  | _ => none

/-- Whether a deadline passed first. -/
def isTimeout : CallError ε → Bool
  | .timeout _ _ => true
  | _ => false

end CallError
end FaultTolerance
