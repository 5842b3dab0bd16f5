import FaultTolerance.Activity
import FaultTolerance.CallError
import FaultTolerance.Classifier
import FaultTolerance.Interval

/-!
# Retries

A retry runs a call again while its outcome is worth it and attempts remain, with a wait in
between.  An error is worth it when the classifier counts it, a value when the predicate selects it.

## Main definitions

* `Retry.Config`, `Retry.Policy`: settings, and what is worth another attempt.
* `Retry`: the state of a retry, its counters.
* `Retry.decide`: the operation after an attempt, which ends the run or gives the next wait.
* `Retry.execute`: the loop.
-/

namespace FaultTolerance

open Time Text

namespace Retry

/-- Settings of a retry: attempts in all, and the wait after each. -/
structure Config where
  maxAttempts : Nat
  interval : Interval
deriving DecidableEq

namespace Config

/-- The settings used where none are given. -/
def standard : Config :=
  ⟨3, Interval.standard⟩

/-- Which settings are accepted; the attempts are looked at first. -/
def validate (c : Config) : Checked := do
  requirePositive c.maxAttempts "max_attempts"
  c.interval.validate

end Config

/-- What is worth another attempt: the errors that a classifier counts, all without one, and the
values that a predicate selects, none without one. -/
structure Policy (ε τ : Type) where
  onError : Option (Classifier ε)
  onResult : Option (τ → Bool)

/-- What a retry announces. -/
inductive Event where
  | retry (attempt : Nat) (wait : Span)
  | success (attempts : Nat)
  | error (attempts : Nat)
  | ignoredError
deriving DecidableEq

/-- The event's name. -/
def Event.label : Event → String
  | .retry _ _ => "Retry"
  | .success _ => "Success"
  | .error _ => "Error"
  | .ignoredError => "IgnoredError"

/-- Counters of finished runs. -/
structure Metrics where
  succeededAtOnce : Nat
  succeededLater : Nat
  failedAtOnce : Nat
  failedLater : Nat
deriving DecidableEq, Repr

namespace Metrics

/-- No runs. -/
def none : Metrics :=
  ⟨0, 0, 0, 0⟩

/-- The counters as text. -/
def inspect (m : Metrics) : String :=
  Layout.record "RetryMetrics"
    [("successful_calls_without_retry", toString m.succeededAtOnce),
      ("successful_calls_with_retry", toString m.succeededLater),
      ("failed_calls_without_retry", toString m.failedAtOnce),
      ("failed_calls_with_retry", toString m.failedLater)]

end Metrics
end Retry

/-- A retry of calls with errors `ε` and values `τ`. -/
structure Retry (ε τ : Type) where
  name : String
  config : Retry.Config
  policy : Retry.Policy ε τ
  metrics : Retry.Metrics

namespace Retry

variable {ω ε τ : Type}

/-- A retry that has run nothing. -/
def create
    (name : String)
    (config : Config)
    (policy : Policy ε τ) : Except ConfigError (Retry ε τ) := do
  config.validate
  return ⟨name, config, policy, Metrics.none⟩

/-- What follows an attempt: the end of the run, or a wait and another attempt. -/
inductive Next (ε τ : Type) where
  | done (answer : Except (CallError ε) τ)
  | wait (span : Span)

/-- Whether an outcome is worth another attempt. -/
def worthRetrying
    (p : Retry ε τ)
    (attempt : Nat)
    (elapsed : Span) : Except ε τ → Bool
  | .ok value => match p.policy.onResult with
    | none => false
    | some selects => selects value
  | .error error => Classifier.ask p.policy.onError ⟨p.name, error, elapsed, attempt⟩

/-- The end of a run whose last outcome was not worth another attempt. -/
def settle
    (p : Retry ε τ)
    (attempt : Nat) : Except ε τ → Next ε τ × Retry ε τ × List Event
  | .ok value =>
    if attempt = 1 then
      (.done (.ok value),
        { p with metrics := { p.metrics with succeededAtOnce := p.metrics.succeededAtOnce + 1 } },
        [])
    else
      (.done (.ok value),
        { p with metrics := { p.metrics with succeededLater := p.metrics.succeededLater + 1 } },
        [.success attempt])
  | .error error =>
    (.done (.error (.execution error)),
      { p with metrics := { p.metrics with failedAtOnce := p.metrics.failedAtOnce + 1 } },
      [.ignoredError])

/-- The end of a run that has no attempts left: a value is answered as it is. -/
def exhaust
    (p : Retry ε τ)
    (attempt : Nat)
    (outcome : Except ε τ) : Next ε τ × Retry ε τ × List Event :=
  let answer := match outcome with
    | .ok value => .ok value
    | .error last => .error (.exhausted p.name attempt last)
  (.done answer,
    { p with metrics := { p.metrics with failedLater := p.metrics.failedLater + 1 } },
    [.error attempt])

/-- Decide what follows an attempt. -/
def decide
    (attempt : Nat)
    (elapsed : Span)
    (outcome : Except ε τ) : Operation (Retry ε τ) Event (Next ε τ) :=
  .ofStep fun r p =>
    if !p.worthRetrying attempt elapsed outcome then p.settle attempt outcome
    else if p.config.maxAttempts ≤ attempt then p.exhaust attempt outcome
    else
      let wait := p.config.interval.wait r.draw attempt
      (.wait wait, p, [.retry attempt wait])

/-- Make attempt number `attempt`, and go on with `again` when another one is to follow.  The pause
in between may cut the run short with a rejection. -/
def attemptThen
    (site : Site ω (Retry ε τ) Event)
    (pause : Span → Activity ω (Except Rejection Unit))
    (body : Activity ω (Except ε τ))
    (attempt : Nat)
    (again : Except ε τ → Activity ω (Except (CallError ε) τ)) :
    Activity ω (Except (CallError ε) τ) := do
  let start ← site.now
  let outcome ← body
  let finish ← site.now
  match ← site.perform (decide attempt (elapsed start finish) outcome) with
  | .done answer => return answer
  | .wait span =>
    match ← pause span with
    | .error rejection => return .error (.rejected rejection)
    | .ok () => again outcome

/-- Make the attempts from number `attempt` on, followed by at most `left` others. -/
def attempts
    (site : Site ω (Retry ε τ) Event)
    (pause : Span → Activity ω (Except Rejection Unit))
    (body : Activity ω (Except ε τ)) :
    (left attempt : Nat) → Activity ω (Except (CallError ε) τ)
  | 0, attempt => attemptThen site pause body attempt fun outcome =>
    return outcome.mapError .execution
  | left + 1, attempt => attemptThen site pause body attempt fun _ =>
    attempts site pause body left (attempt + 1)

/-- Run a call until its outcome is not worth another attempt or no attempt is left. -/
def execute
    (site : Site ω (Retry ε τ) Event)
    (pause : Span → Activity ω (Except Rejection Unit))
    (body : Activity ω (Except ε τ)) : Activity ω (Except (CallError ε) τ) := do
  attempts site pause body ((← site.state).config.maxAttempts - 1) 1

/-- The retry as text. -/
def inspect (p : Retry ε τ) : String :=
  Layout.record "Retry"
    [("name", Layout.quoted p.name),
      ("config", Layout.record "RetryConfig"
        [("max_attempts", toString p.config.maxAttempts),
          ("interval", p.config.interval.inspect),
          ("retry_on_error", Layout.optional (p.policy.onError.map Classifier.inspect)),
          ("retry_on_result", Layout.truth p.policy.onResult.isSome)]),
      ("metrics", p.metrics.inspect)]

end Retry
end FaultTolerance
