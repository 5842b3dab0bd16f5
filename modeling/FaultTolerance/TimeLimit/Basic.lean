import FaultTolerance.Activity
import FaultTolerance.CallError
import FaultTolerance.ConfigError

/-!
# Time limits

A time limit lets a call run for at most a set time.  A call that ends in time is answered as it
ended; a call that does not is answered with a timeout, and is cancelled if it is owned by the
caller or if cancelling is set.

## Main definitions

* `TimeLimit.Config`: settings.
* `TimeLimit.finish`, `TimeLimit.expire`: the two ends of a limited call.
* `TimeLimit.awaitCall`, `TimeLimit.awaitTask`: limited calls on a scheduler.
-/

namespace FaultTolerance

open Time Text

namespace TimeLimit

/-- Settings of a time limit: the time a call may take, and whether a detached call is cancelled
when its time is up. -/
structure Config where
  timeout : Span
  cancel : Bool
deriving DecidableEq

namespace Config

/-- The settings used where none are given. -/
def standard : Config :=
  ⟨Span.ofSeconds 1, true⟩

/-- Which settings are accepted. -/
def validate (c : Config) : Checked :=
  requirePositive c.timeout.nanos "timeout_duration"

/-- The settings as text. -/
def inspect (c : Config) : String :=
  Layout.record "TimeLimiterConfig"
    [("timeout_duration", c.timeout.text), ("cancel_running_future", Layout.truth c.cancel)]

end Config

/-- What a time limit announces. -/
inductive Event where
  | success
  | error
  | timeout
deriving DecidableEq, Repr

/-- The event's name. -/
def Event.label : Event → String
  | .success => "Success"
  | .error => "Error"
  | .timeout => "Timeout"

end TimeLimit

/-- A time limit. -/
structure TimeLimit where
  name : String
  config : TimeLimit.Config
deriving DecidableEq

namespace TimeLimit

variable {ω ε τ α : Type}

/-- A time limit with accepted settings. -/
def create
    (name : String)
    (config : Config) : Except ConfigError TimeLimit := do
  config.validate
  return ⟨name, config⟩

/-- A call ended in time. -/
def finish (outcome : Except ε τ) : Operation TimeLimit Event (Except (CallError ε) τ) :=
  .ofStep fun _ l =>
    match outcome with
    | .ok value => (.ok value, l, [.success])
    | .error e => (.error (.execution e), l, [.error])

/-- The time of a call is up. -/
def expire : Operation TimeLimit Event (Except (CallError ε) τ) :=
  .ofStep fun _ l => (.error (.timeout l.name l.config.timeout), l, [.timeout])

/-- How an activity is given a limited time: its answer, or nothing when the time is up first. -/
abbrev Within (ω : Type) :=
  {α : Type} → Span → Activity ω α → Activity ω (Option α)

/-- Wait for a call that is cancelled with its wait. -/
def awaitCall
    (site : Site ω TimeLimit Event)
    (within : Within ω)
    (body : Activity ω (Except ε τ)) : Activity ω (Except (CallError ε) τ) := do
  match ← within (← site.state).config.timeout body with
  | some outcome => site.perform (finish outcome)
  | none => site.perform expire

/-- The end of a detached call: it ran to its end, or was aborted from elsewhere. -/
inductive TaskEnd (ε τ : Type) where
  | finished (outcome : Except ε τ)
  | aborted

/-- Wait for a detached call; when its time is up it is cancelled if that is set. -/
def awaitTask
    (site : Site ω TimeLimit Event)
    (within : Within ω)
    (cancel : Activity ω Unit)
    (task : Activity ω (TaskEnd ε τ)) : Activity ω (Except (CallError ε) τ) := do
  let limit ← site.state
  match ← within limit.config.timeout task with
  | some (.finished outcome) => site.perform (finish outcome)
  | some .aborted => return .error (.rejected (.interrupted limit.name))
  | none =>
    if limit.config.cancel then cancel
    site.perform expire

/-- The time limit as text; `subscribers` hear its announcements. -/
def inspect
    (l : TimeLimit)
    (subscribers : Nat) : String :=
  Layout.record "TimeLimiter"
    [("name", Layout.quoted l.name), ("config", l.config.inspect),
      ("events", Layout.record "EventPublisher" [("consumers", toString subscribers)])]

end TimeLimit
end FaultTolerance
