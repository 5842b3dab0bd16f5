import FaultTolerance.Activity
import FaultTolerance.CallError
import FaultTolerance.Limiter.Cell

/-!
# Rate limiters

A rate limiter hands out a limited number of permits per refill cycle.  A caller takes a permit only
when it will be covered by refills within the wait the caller accepts; a caller that gives up while
it waits for a permit it has taken hands the permit back.

## Main definitions

* `Limiter`: the state of a rate limiter.
* `Limiter.claim`: the section that takes a permit or leaves the count alone.
* `Limiter.reserve`, `Limiter.handBack`: reservations without blocking.
* `Limiter.metrics`: the numbers of a rate limiter.
* `Limiter.changeLimit`, `Limiter.changeTimeout`, `Limiter.changePeriod`: new settings.
-/

namespace FaultTolerance

open Time Text

/-- A rate limiter; `waiting` counts the callers that are blocked. -/
structure Limiter where
  name : String
  timing : Limiter.Timing
  cell : Limiter.Cell
  waiting : Nat

namespace Limiter

/-- What a rate limiter announces. -/
inductive Event where
  | successfulAcquire
  | failedAcquire
deriving DecidableEq, Repr

/-- The event's name. -/
def Event.label : Event → String
  | .successfulAcquire => "SuccessfulAcquire"
  | .failedAcquire => "FailedAcquire"

/-- A limiter with a full cell, whose first cycle begins now. -/
def create
    (name : String)
    (config : Config)
    (now : Nat) : Except ConfigError Limiter := do
  config.validate
  return { name
           timing :=
             { limit := config.limit
               period := config.period.ticks
               timeout := config.timeout
               epoch := now
               epochCycle := 0 }
           cell := ⟨0, config.limit⟩
           waiting := 0 }

/-- The settings in force. -/
def config (l : Limiter) : Config :=
  ⟨l.timing.limit, Span.clip l.timing.period, l.timing.timeout⟩

/-! ### Permits -/

/-- What a caller is told when it asks for a permit: the wait until the permit is covered, and
whether it was taken. -/
structure Quote where
  wait : Nat
  taken : Bool
deriving DecidableEq, Repr

/-- Take a permit if it will be covered within `timeout` nanoseconds; else only refill. -/
def claim
    (l : Limiter)
    (now timeout : Nat) : Quote × Limiter :=
  let cell := l.cell.refresh l.timing now
  let wait := l.timing.wait cell.permits now
  if wait ≤ timeout then (⟨wait, true⟩, { l with cell := cell.take })
  else (⟨wait, false⟩, { l with cell })

/-- Hand back a permit. -/
def restore
    (l : Limiter)
    (now : Nat) : Limiter :=
  { l with cell := (l.cell.refresh l.timing now).giveBack l.timing }

/-- The refusal of a caller that would have to wait too long. -/
def notPermitted (l : Limiter) : Rejection :=
  .requestNotPermitted l.name

/-- Reserve a permit without blocking; the answer is the wait before the permit may be used. -/
def reserve (timeout : Span) : Operation Limiter Event (Except Rejection Span) :=
  .ofStep fun r l =>
    let (quote, after) := l.claim r.now timeout.ticks
    if quote.taken then (.ok (Span.clip quote.wait), after, [.successfulAcquire])
    else (.error l.notPermitted, after, [.failedAcquire])

/-- Hand back a reservation whose wait was abandoned. -/
def handBack : Operation Limiter Event Unit :=
  .ofStep fun r l => ((), l.restore r.now, [])

/-! ### Views -/

/-- The numbers of a rate limiter. -/
structure Metrics where
  available : Int
  wait : Nat
  waiting : Nat
deriving DecidableEq, Repr

/-- The numbers of a rate limiter at a clock reading; nothing is refilled for good. -/
def metrics
    (l : Limiter)
    (now : Nat) : Metrics :=
  let cell := l.cell.refresh l.timing now
  ⟨cell.permits, l.timing.wait cell.permits now, l.waiting⟩

/-- The numbers as text. -/
def Metrics.inspect (m : Metrics) : String :=
  Layout.record "RateLimiterMetrics"
    [("available_permissions", toString m.available), ("nanos_to_wait", toString m.wait),
      ("number_of_waiting_threads", toString m.waiting)]

/-- The rate limiter as text, at a clock reading. -/
def inspect
    (l : Limiter)
    (now : Nat) : String :=
  Layout.record "AtomicRateLimiter"
    [("name", Layout.quoted l.name), ("config", l.config.inspect),
      ("metrics", (l.metrics now).inspect)]

/-! ### New settings -/

/-- A new limit, seen from the next refill on. -/
def changeLimit (limit : Nat) : Operation Limiter Event Checked :=
  .ofStep fun _ l =>
    match Config.checkLimit limit with
    | .ok () => (.ok (), { l with timing := { l.timing with limit } }, [])
    | .error e => (.error e, l, [])

/-- A new wait for callers that name none. -/
def changeTimeout (timeout : Span) : Operation Limiter Event Unit :=
  .ofStep fun _ l => ((), { l with timing := { l.timing with timeout } }, [])

/-- A new cycle length; the present cycle ends one new period from now. -/
def changePeriod (period : Span) : Operation Limiter Event Checked :=
  .ofStep fun r l =>
    match Config.checkPeriod period with
    | .ok () =>
      (.ok (),
        { l with
          timing :=
            { l.timing with
              epochCycle := l.timing.cycleAt r.now
              epoch := r.now
              period := period.ticks } },
        [])
    | .error e => (.error e, l, [])

end Limiter
end FaultTolerance
