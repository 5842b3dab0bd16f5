import FaultTolerance.ConfigError
import FaultTolerance.Window.Snapshot

/-!
# Rate thresholds

A window is above its thresholds when its failure rate or its slow-call rate has reached the
respective threshold, and is not judged below its minimum number of calls.
-/

namespace FaultTolerance
namespace Window

open Numeric

/-- The judgement on a snapshot. -/
inductive Verdict where
  | belowThresholds
  | aboveThresholds
  | belowMinimumCalls
deriving DecidableEq, Repr

namespace Verdict

/-- The judgement's name. -/
def label : Verdict → String
  | .belowThresholds => "BelowThresholds"
  | .aboveThresholds => "AboveThresholds"
  | .belowMinimumCalls => "BelowMinimumCalls"

end Verdict

/-- Failure and slow-call thresholds in percent. -/
structure Thresholds where
  failureRate : Binary32
  slowRate : Binary32
deriving DecidableEq

namespace Thresholds

/-- A percentage must lie above zero and not above one hundred. -/
def checkPercentage
    (field : String)
    (value : Binary32) : Checked :=
  require ((Binary.zero false).lt value && value.le (Binary.ofNat 100)) field
    ("must be in (0, 100], got " ++ value.plain)

/-- Both percentages must be in range; the failure rate is looked at first. -/
def validate (t : Thresholds) : Checked := do
  checkPercentage "failure_rate_threshold" t.failureRate
  checkPercentage "slow_call_rate_threshold" t.slowRate

/-- A rate that means something and has reached its threshold. -/
def reached (rate threshold : Binary32) : Bool :=
  (Binary.zero false).le rate && threshold.le rate

/-- Whether the failure rate has reached its threshold. -/
def failureExceeded
    (t : Thresholds)
    (s : Snapshot) : Bool :=
  reached s.failureRate t.failureRate

/-- Whether the slow-call rate has reached its threshold. -/
def slowExceeded
    (t : Thresholds)
    (s : Snapshot) : Bool :=
  reached s.slowRate t.slowRate

/-- The judgement on a snapshot. -/
def evaluate
    (t : Thresholds)
    (s : Snapshot) : Verdict :=
  if !s.hasMinimum then .belowMinimumCalls
  else if t.failureExceeded s || t.slowExceeded s then .aboveThresholds
  else .belowThresholds

end Thresholds

end Window
end FaultTolerance
