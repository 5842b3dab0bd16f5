import FaultTolerance.Adaptive.Basic
import FaultTolerance.Breaker.Config
import FaultTolerance.Json.Scalar
import FaultTolerance.Limiter.Config
import FaultTolerance.Retry.Basic
import FaultTolerance.TimeLimit.Basic

/-!
# Settings in JSON

The settings of each protection are a record.  What makes a retry decide is not part of its
settings.

## Main definitions

* `Breaker.Config.record`, `Limiter.Config.record`, `Bulkhead.Config.record`,
  `Adaptive.Config.record`, `Retry.Config.record`, `TimeLimit.Config.record`.
-/

namespace FaultTolerance

open Time Numeric Window Json

/-- A span as a field of settings. -/
def Json.spanField
    {α : Type}
    (key : String)
    (get : α → Span)
    (put : Span → α → α) : Field α :=
  Field.of key spanOf? spanDocument get put

/-- A count up to a limit as a field of settings. -/
def Json.countField
    {α : Type}
    (key : String)
    (limit : Nat)
    (get : α → Nat)
    (put : Nat → α → α) : Field α :=
  Field.of key (Document.natural limit) .ofNatural get put

/-- A percentage as a field of settings. -/
def Json.rateField
    {α : Type}
    (key : String)
    (get : α → Binary32)
    (put : Binary32 → α → α) : Field α :=
  Field.of key Document.real .ofReal get put

/-- The shape of a window as a field of settings. -/
def Json.shapeField
    {α : Type}
    (key : String)
    (get : α → Shape)
    (put : Shape → α → α) : Field α :=
  Field.of key shapeOf? (fun shape => .ofText shape.label) get put

/-- An interval function that may be missing. -/
def Json.optionalIntervalOf?
    (level : Nat) : Document → Option (Option Interval)
  | .null => some none
  | document => (intervalOf? level document).map some

/-- Write an interval function that may be missing. -/
def Json.optionalIntervalDocument : Option Interval → Document
  | none => .null
  | some interval => intervalDocument interval

/-- The settings of a circuit breaker. -/
def Breaker.Config.record : Record Breaker.Config where
  standard := Breaker.Config.standard
  fields :=
    [rateField "failure_rate_threshold" (·.failureRate) fun failureRate c =>
        { c with failureRate },
      rateField "slow_call_rate_threshold" (·.slowRate) fun slowRate c => { c with slowRate },
      spanField "slow_call_duration_threshold" (·.slowDuration) fun slowDuration c =>
        { c with slowDuration },
      shapeField "sliding_window_type" (·.shape) fun shape c => { c with shape },
      countField "sliding_window_size" maxCount32 (·.size) fun size c => { c with size },
      countField "minimum_number_of_calls" maxCount32 (·.minimum) fun minimum c =>
        { c with minimum },
      countField "permitted_number_of_calls_in_half_open_state" maxCount32 (·.trials)
        fun trials c => { c with trials },
      spanField "wait_duration_in_open_state" (·.openWait) fun openWait c => { c with openWait },
      Field.of "wait_interval_in_open_state" (optionalIntervalOf? 1) optionalIntervalDocument
        (·.openInterval) fun openInterval c => { c with openInterval }]

/-- The settings of a rate limiter. -/
def Limiter.Config.record : Record Limiter.Config where
  standard := Limiter.Config.standard
  fields :=
    [countField "limit_for_period" maxCount32 (·.limit) fun limit c => { c with limit },
      spanField "limit_refresh_period" (·.period) fun period c => { c with period },
      spanField "timeout_duration" (·.timeout) fun timeout c => { c with timeout }]

/-- The settings of a bulkhead. -/
def Bulkhead.Config.record : Record Bulkhead.Config where
  standard := Bulkhead.Config.standard
  fields :=
    [countField "max_concurrent_calls" maxCount64 (·.limit) fun limit c => { c with limit },
      spanField "max_wait_duration" (·.wait) fun wait c => { c with wait }]

/-- The settings of an adaptive bulkhead. -/
def Adaptive.Config.record : Record Adaptive.Config where
  standard := Adaptive.Config.standard
  fields :=
    [rateField "failure_rate_threshold" (·.failureRate) fun failureRate c =>
        { c with failureRate },
      rateField "slow_call_rate_threshold" (·.slowRate) fun slowRate c => { c with slowRate },
      spanField "slow_call_duration_threshold" (·.slowDuration) fun slowDuration c =>
        { c with slowDuration },
      shapeField "sliding_window_type" (·.shape) fun shape c => { c with shape },
      countField "sliding_window_size" maxCount32 (·.size) fun size c => { c with size },
      countField "minimum_number_of_calls" maxCount32 (·.minimum) fun minimum c =>
        { c with minimum },
      countField "initial_concurrent_calls" maxCount64 (·.initial) fun initial c =>
        { c with initial },
      countField "min_concurrent_calls" maxCount64 (·.least) fun least c => { c with least },
      countField "max_concurrent_calls" maxCount64 (·.most) fun most c => { c with most },
      spanField "max_wait_duration" (·.wait) fun wait c => { c with wait }]

/-- The settings of a retry. -/
def Retry.Config.record : Record Retry.Config where
  standard := Retry.Config.standard
  fields :=
    [countField "max_attempts" maxCount32 (·.maxAttempts) fun maxAttempts c =>
        { c with maxAttempts },
      Field.of "interval" (intervalOf? 1) intervalDocument (·.interval) fun interval c =>
        { c with interval }]

/-- The settings of a time limit. -/
def TimeLimit.Config.record : Record TimeLimit.Config where
  standard := TimeLimit.Config.standard
  fields :=
    [spanField "timeout_duration" (·.timeout) fun timeout c => { c with timeout },
      Field.of "cancel_running_future" Document.boolean .truth (·.cancel) fun cancel c =>
        { c with cancel }]

end FaultTolerance
