import FaultTolerance.Bulkhead.Acquire
import FaultTolerance.Window.Sliding
import FaultTolerance.Window.Threshold

/-!
# Adaptive bulkheads

An adaptive bulkhead is a bulkhead whose limit follows the outcomes of its calls.  Each finished
call is recorded in a sliding window and judged; a policy then picks the next limit, which is held
within the bounds that are set.

## Main definitions

* `Adaptive.Config`, `LimitPolicy`: settings and policies.
* `Adaptive`: the state of an adaptive bulkhead.
* `Adaptive.settle`, `Adaptive.adjust`: the two sections that end a call.
* `Adaptive.complete`, `Adaptive.call`: finished calls, and calls from start to end.
-/

namespace FaultTolerance

open Time Numeric Text Window

/-- Picks the next limit from the number of judgements before this one, the limit in force and the
judgement.  Its text may tell how many judgements there were. -/
structure LimitPolicy where
  next : (judged current : Nat) → Verdict → Nat
  inspect : (judged : Nat) → String

namespace LimitPolicy

/-- Keeps the limit. -/
def fixed : LimitPolicy :=
  ⟨fun _ current _ => current, fun _ => "FixedLimit"⟩

/-- Halves the limit above the thresholds, adds one below them, and keeps it below the minimum
number of calls. -/
def halving : LimitPolicy where
  next := fun _ current verdict => match verdict with
    | .aboveThresholds => current / 2
    | .belowThresholds => current + 1
    | .belowMinimumCalls => current
  inspect := fun _ => "Halving"

/-- Gives the limits of a list in turn, and the last one for ever after. -/
def scripted (limits : List Nat) : LimitPolicy where
  next := fun judged current _ => limits.getD judged (limits.getLastD current)
  inspect := fun _ => "Scripted"

end LimitPolicy

namespace Adaptive

/-- Settings of an adaptive bulkhead. -/
structure Config where
  failureRate : Binary32
  slowRate : Binary32
  slowDuration : Span
  shape : Shape
  size : Nat
  minimum : Nat
  initial : Nat
  least : Nat
  most : Nat
  wait : Span
deriving DecidableEq

namespace Config

/-- The settings used where none are given. -/
def standard : Config :=
  { failureRate := Binary.ofNat 50
    slowRate := Binary.ofNat 100
    slowDuration := Span.ofSeconds 60
    shape := .countBased
    size := 100
    minimum := 100
    initial := 25
    least := 2
    most := 200
    wait := Span.zero }

/-- The rate thresholds. -/
def thresholds (c : Config) : Thresholds :=
  ⟨c.failureRate, c.slowRate⟩

/-- Which settings are accepted; the first fault is reported. -/
def validate (c : Config) : Checked := do
  c.thresholds.validate
  requirePositive c.size "sliding_window_size"
  requirePositive c.minimum "minimum_number_of_calls"
  requirePositive c.least "min_concurrent_calls"
  require (c.least ≤ c.most) "min_concurrent_calls"
    ("must not exceed max_concurrent_calls (" ++ toString c.most ++ ")")
  require (c.least ≤ c.initial && c.initial ≤ c.most) "initial_concurrent_calls"
    ("must be within [" ++ toString c.least ++ ", " ++ toString c.most ++ "]")

/-- A limit held within the bounds. -/
def clamp
    (c : Config)
    (limit : Nat) : Nat :=
  min (max limit c.least) c.most

end Config

/-- What an adaptive bulkhead announces. -/
inductive Event where
  | callPermitted
  | callRejected
  | callFinished (verdict : Verdict)
  | limitChanged (old new : Nat)
deriving DecidableEq, Repr

/-- The event's name. -/
def Event.label : Event → String
  | .callPermitted => "CallPermitted"
  | .callRejected => "CallRejected"
  | .callFinished _ => "CallFinished"
  | .limitChanged _ _ => "LimitChanged"

end Adaptive

/-- An adaptive bulkhead; `judged` counts the judgements made so far. -/
structure Adaptive where
  name : String
  config : Adaptive.Config
  pool : Bulkhead
  window : Sliding
  policy : LimitPolicy
  judged : Nat

namespace Adaptive

/-- An adaptive bulkhead at its initial limit with an empty window. -/
def create
    (name : String)
    (config : Config)
    (policy : LimitPolicy)
    (now : Nat) : Except ConfigError Adaptive := do
  config.validate
  let pool ← Bulkhead.create name ⟨config.initial, config.wait⟩
  return { name, config, pool
           window := Sliding.ofShape config.shape config.size config.minimum now
           policy
           judged := 0 }

/-! ### Finished calls -/

/-- Record a finished call, judge the window and return the permit. -/
def settle
    (a : Adaptive)
    (r : Reading)
    (elapsed : Span)
    (failed : Bool) : Verdict × Adaptive :=
  let outcome := Outcome.classify elapsed a.config.slowDuration failed
  let window := a.window.record r.now elapsed outcome
  (a.config.thresholds.evaluate window.snapshot, { a with window, pool := a.pool.giveBack })

/-- Let the policy pick the next limit; a change is announced. -/
def adjust
    (a : Adaptive)
    (verdict : Verdict) : Adaptive × List Event :=
  let current := a.pool.limit
  let next := a.config.clamp (a.policy.next a.judged current verdict)
  let a := { a with judged := a.judged + 1 }
  if next = current then (a, [])
  else
    match a.pool.withConfig ⟨next, a.config.wait⟩ with
    | (.ok (), pool) => ({ a with pool }, [.limitChanged current next])
    | (.error _, _) => (a, [])

/-- Report a finished call: record it, return its permit, and adjust the limit. -/
def complete
    (elapsed : Span)
    (failed : Bool) : Operation Adaptive Event Verdict :=
  .ofStep fun r a =>
    let (verdict, settled) := a.settle r elapsed failed
    let (adjusted, changed) := settled.adjust verdict
    (verdict, adjusted, .callFinished verdict :: changed)

/-- Return the permit of a call that was abandoned before it ran. -/
def release : Operation Adaptive Event Unit :=
  .ofStep fun _ a => ((), { a with pool := a.pool.giveBack }, [])

/-! ### Views -/

/-- The numbers of an adaptive bulkhead. -/
structure Metrics where
  snapshot : Snapshot
  limit : Nat
  available : Nat

/-- Read the numbers of an adaptive bulkhead; a timed window is brought to the present. -/
def metrics : Operation Adaptive Event Metrics :=
  .ofStep fun r a =>
    let window := a.window.catchUp r.now
    (⟨window.snapshot, a.pool.limit, a.pool.available⟩, { a with window }, [])

/-- The numbers as text. -/
def Metrics.inspect (m : Metrics) : String :=
  Layout.record "AdaptiveBulkheadMetrics"
    [("failure_rate", m.snapshot.failureRate.graded),
      ("slow_call_rate", m.snapshot.slowRate.graded),
      ("buffered_calls", toString m.snapshot.total),
      ("failed_calls", toString m.snapshot.failed),
      ("slow_calls", toString m.snapshot.slow),
      ("max_allowed_concurrent_calls", toString m.limit),
      ("available_concurrent_calls", toString m.available)]

/-- The adaptive bulkhead as text: it reads its numbers, as `metrics` does. -/
def inspect : Operation Adaptive Event String :=
  .ofStep fun r a =>
    let (m, after, _) := metrics.run r a
    (Layout.record "AdaptiveBulkhead"
      [("name", Layout.quoted a.name), ("policy", a.policy.inspect a.judged),
      ("metrics", m.inspect)],
      after, [])

/-! ### Calls -/

variable {ω ε τ : Type}

/-- The pool inside an adaptive bulkhead, whose own announcements nobody hears. -/
def poolSite (site : Site ω Adaptive Event) : Site ω Bulkhead Bulkhead.Event where
  view := fun world => (site.view world).pool
  store := fun pool world => site.store { site.view world with pool } world
  reading := site.reading
  announce := fun _ => pure ()

/-- Acquire a permit and announce how it went. -/
def acquire
    (site : Site ω Adaptive Event)
    (patience : Bulkhead.Patience ω) : Activity ω (Except Rejection Unit) := do
  let result ← Bulkhead.acquire (poolSite site) patience
  match result with
  | .ok () => site.announce .callPermitted
  | .error _ => site.announce .callRejected
  return result

/-- Run a call while holding a permit, and report its outcome.  A call that halts reports nothing;
only its permit returns. -/
def call
    (site : Site ω Adaptive Event)
    (patience : Bulkhead.Patience ω)
    (body : Activity ω (Except ε τ)) : Activity ω (Except (CallError ε) τ) := do
  match ← acquire site patience with
  | .error rejection => return .error (.rejected rejection)
  | .ok () =>
    let start ← site.now
    let result ← body.orElseHalt (site.perform release)
    let finish ← site.now
    let failed := match result with
      | .ok _ => false
      | .error _ => true
    let _ ← site.perform (complete (elapsed start finish) failed)
    return result.mapError .execution

end Adaptive
end FaultTolerance
