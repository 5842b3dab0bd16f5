import FaultTolerance.Interval
import FaultTolerance.Window.Sliding
import FaultTolerance.Window.Threshold

/-!
# Settings of a circuit breaker
-/

namespace FaultTolerance
namespace Breaker

open Time Numeric Text Window

/-- Settings of a circuit breaker. -/
structure Config where
  /-- Failure percentage at which the circuit opens. -/
  failureRate : Binary32
  /-- Slow-call percentage at which the circuit opens. -/
  slowRate : Binary32
  /-- Calls longer than this are slow. -/
  slowDuration : Span
  /-- Shape of the window used while closed. -/
  shape : Shape
  /-- Calls or seconds kept in that window. -/
  size : Nat
  /-- Calls needed before the window is judged. -/
  minimum : Nat
  /-- Trial calls let through while half-open. -/
  trials : Nat
  /-- Wait before an open circuit lets a trial call through. -/
  openWait : Span
  /-- Wait that depends on the number of consecutive openings, in place of the fixed one. -/
  openInterval : Option Interval
deriving DecidableEq

namespace Config

/-- The settings used where none are given. -/
def standard : Config :=
  { failureRate := Binary.ofNat 50
    slowRate := Binary.ofNat 100
    slowDuration := Span.ofSeconds 60
    shape := .countBased
    size := 100
    minimum := 100
    trials := 10
    openWait := Span.ofSeconds 60
    openInterval := none }

/-- The rate thresholds. -/
def thresholds (c : Config) : Thresholds :=
  ⟨c.failureRate, c.slowRate⟩

/-- Which settings are accepted; the first fault is reported. -/
def validate (c : Config) : Checked := do
  c.thresholds.validate
  requirePositive c.size "sliding_window_size"
  requirePositive c.minimum "minimum_number_of_calls"
  requirePositive c.trials "permitted_number_of_calls_in_half_open_state"
  require (nanosPerMilli ≤ c.openWait.nanos) "wait_duration_in_open_state" "must be at least 1ms"
  match c.openInterval with
  | none => .ok ()
  | some interval => interval.validate

/-- The wait of the `opens`-th consecutive opening. -/
def waitAfter
    (c : Config)
    (draw : Binary64)
    (opens : Nat) : Span :=
  match c.openInterval with
  | none => c.openWait
  | some interval => interval.wait draw opens

/-- The empty window used while closed. -/
def closedWindow
    (c : Config)
    (now : Nat) : Sliding :=
  Sliding.ofShape c.shape c.size c.minimum now

/-- The empty window used while half-open: it holds the trial calls and judges them when it is
full. -/
def trialWindow (c : Config) : Sliding :=
  .counted (Counted.ofSize c.trials c.trials)

/-- The settings as text. -/
def inspect (c : Config) : String :=
  Layout.record "CircuitBreakerConfig"
    [("failure_rate_threshold", c.failureRate.graded),
      ("slow_call_rate_threshold", c.slowRate.graded),
      ("slow_call_duration_threshold", c.slowDuration.text),
      ("sliding_window_type", c.shape.inspect),
      ("sliding_window_size", toString c.size),
      ("minimum_number_of_calls", toString c.minimum),
      ("permitted_number_of_calls_in_half_open_state", toString c.trials),
      ("wait_duration_in_open_state", c.openWait.text),
      ("wait_interval_in_open_state", Layout.optional (c.openInterval.map Interval.inspect))]

end Config
end Breaker
end FaultTolerance
