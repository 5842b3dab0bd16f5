import FaultTolerance.Text.Layout
import FaultTolerance.Time.Span

/-!
# Classifying failures

A classifier decides whether a failure counts: a circuit breaker asks it whether to record the
failure, a retry whether to try again.  It sees who asks, the error, how long the call took and
which attempt it was.

## Main definitions

* `Fault`: the errors of protected calls.
* `Failure`: what a classifier is shown.
* `Classifier`: a classifier, with its text.
-/

namespace FaultTolerance

open Time Text

/-- An error of a protected call: a text, a numeric code, or an error of some other kind. -/
inductive Fault where
  | text (content : String)
  | code (value : Nat)
  | other
deriving DecidableEq, Repr

namespace Fault

/-- The wording of a fault. -/
def message : Fault → String
  | .text content => content
  | .code value => toString value
  | .other => ""

/-- The fault as text. -/
def inspect : Fault → String
  | .text content => Layout.quoted content
  | .code value => toString value
  | .other => "()"

end Fault

/-- A failure as a classifier sees it. -/
structure Failure (ε : Type) where
  name : String
  error : ε
  duration : Span
  attempt : Nat

/-- A classifier of errors of type `ε`, with the text it is shown as. -/
structure Classifier (ε : Type) where
  counts : Failure ε → Bool
  inspect : String

namespace Classifier

variable {ε : Type}

/-- Ask a classifier; without one every failure counts. -/
def ask
    (classifier : Option (Classifier ε))
    (failure : Failure ε) : Bool :=
  match classifier with
  | none => true
  | some c => c.counts failure

/-- Every failure counts. -/
def everything : Classifier ε :=
  ⟨fun _ => true, "DefaultClassifier"⟩

/-- The failures that satisfy a condition count. -/
def matching (condition : Failure ε → Bool) : Classifier ε :=
  ⟨condition, Layout.record "PredicateClassifier" [("predicate", Layout.quoted "<closure>")]⟩

/-- No failure counts. -/
def nothing : Classifier ε :=
  matching fun _ => false

/-- Only texts count. -/
def texts : Classifier Fault where
  counts := fun failure => match failure.error with
    | .text _ => true
    | _ => false
  inspect := Layout.record "TypeClassifier" [("type", Layout.quoted "alloc::string::String")]

/-- Only codes count. -/
def codes : Classifier Fault where
  counts := fun failure => match failure.error with
    | .code _ => true
    | _ => false
  inspect := Layout.record "TypeClassifier" [("type", Layout.quoted "u16")]

/-- Codes count from a least one on; other errors count if told so. -/
def codeAtLeast
    (least : Nat)
    (otherwise : Bool) : Classifier Fault :=
  matching fun failure => match failure.error with
    | .code value => decide (least ≤ value)
    | _ => otherwise

/-- Texts that start in a given way are ignored, all else counts. -/
def ignoring (start : String) : Classifier Fault :=
  matching fun failure => match failure.error with
    | .text content => !start.toList.isPrefixOf content.toList
    | _ => true

/-- Failures that took longer than a span count. -/
def slowerThan (span : Span) : Classifier ε :=
  matching fun failure => decide (span.nanos < failure.duration.nanos)

/-- Failures of attempts below a number count. -/
def attemptBelow (bound : Nat) : Classifier ε :=
  matching fun failure => decide (failure.attempt < bound)

/-- Failures seen under one name count. -/
def nameIs (name : String) : Classifier ε :=
  matching fun failure => failure.name == name

/-- A classifier of faults asked about errors of another type: each is a fault of another kind. -/
def ofOthers (classifier : Classifier Fault) : Classifier ε where
  counts := fun failure =>
    classifier.counts ⟨failure.name, .other, failure.duration, failure.attempt⟩
  inspect := classifier.inspect

end Classifier
end FaultTolerance
