import FaultTolerance.Time.Span

/-!
# Outcomes of finished calls

A finished call succeeded or failed, and was slow or not; a call is slow when it took strictly
longer than the slow-call threshold.
-/

namespace FaultTolerance
namespace Window

open Time

/-- What is remembered of one finished call. -/
inductive Outcome where
  | success
  | error
  | slowSuccess
  | slowError
deriving DecidableEq, Repr

namespace Outcome

/-- The outcome of a call from its duration and its verdict. -/
def classify
    (duration threshold : Span)
    (failed : Bool) : Outcome :=
  match failed, decide (threshold.nanos < duration.nanos) with
  | false, false => .success
  | true, false => .error
  | false, true => .slowSuccess
  | true, true => .slowError

/-- Whether the call failed. -/
def isFailure : Outcome → Bool
  | .error | .slowError => true
  | .success | .slowSuccess => false

/-- Whether the call was slow. -/
def isSlow : Outcome → Bool
  | .slowSuccess | .slowError => true
  | .success | .error => false

/-- Every outcome. -/
def all : List Outcome :=
  [.success, .error, .slowSuccess, .slowError]

/-- The outcome's name. -/
def label : Outcome → String
  | .success => "Success"
  | .error => "Error"
  | .slowSuccess => "SlowSuccess"
  | .slowError => "SlowError"

@[simp]
theorem isFailure_classify
    (duration threshold : Span)
    (failed : Bool) :
    (classify duration threshold failed).isFailure = failed := by
  unfold classify
  cases failed <;> cases decide (threshold.nanos < duration.nanos) <;> rfl

@[simp]
theorem isSlow_classify
    (duration threshold : Span)
    (failed : Bool) :
    (classify duration threshold failed).isSlow = decide (threshold.nanos < duration.nanos) := by
  unfold classify
  cases failed <;> cases decide (threshold.nanos < duration.nanos) <;> rfl

end Outcome

end Window
end FaultTolerance
