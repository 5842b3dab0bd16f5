import FaultTolerance.Adaptive.Basic
import FaultTolerance.Breaker.Basic
import FaultTolerance.Json.Errors
import FaultTolerance.Limiter.Basic
import FaultTolerance.Retry.Basic

/-!
# Numbers in JSON

Snapshots of windows and the numbers of the protections as documents.
-/

namespace FaultTolerance

open Window Json

/-- A snapshot, judged if there are thresholds. -/
def Window.Snapshot.toDocument
    (judges : Option Thresholds)
    (s : Snapshot) : Document :=
  let judged := match judges with
    | none => []
    | some t =>
      [("verdict", Document.ofText (t.evaluate s).label),
        ("failure_exceeded", .truth (t.failureExceeded s)),
        ("slow_exceeded", .truth (t.slowExceeded s))]
  .ofFields
    ([("total", .ofNatural s.total), ("failed", .ofNatural s.failed),
      ("successful", .ofNatural s.successful), ("slow", .ofNatural s.slow),
      ("slow_successful", .ofNatural s.slowSuccessful), ("slow_failed", .ofNatural s.slowFailed),
      ("total_duration", spanPair s.duration), ("average_duration", spanPair s.average),
      ("has_minimum", .truth s.hasMinimum), ("failure_rate", .ofReal s.failureRate),
      ("slow_call_rate", .ofReal s.slowRate)] ++ judged)

/-- The numbers of a circuit breaker. -/
def Breaker.Metrics.toDocument (m : Breaker.Metrics) : Document :=
  let s := m.snapshot
  .ofFields
    [("state", .ofText m.phase.label), ("failure_rate", .ofReal s.failureRate),
      ("slow_call_rate", .ofReal s.slowRate), ("buffered", .ofNatural s.total),
      ("failed", .ofNatural s.failed), ("successful", .ofNatural s.successful),
      ("slow", .ofNatural s.slow), ("slow_successful", .ofNatural s.slowSuccessful),
      ("slow_failed", .ofNatural s.slowFailed), ("not_permitted", .ofNatural m.refused)]

/-- The numbers of a rate limiter. -/
def Limiter.Metrics.toDocument (m : Limiter.Metrics) : Document :=
  .ofFields
    [("available", .ofInteger m.available), ("nanos_to_wait", .ofNatural m.wait),
      ("waiting", .ofNatural m.waiting)]

/-- The numbers of an adaptive bulkhead. -/
def Adaptive.Metrics.toDocument (m : Adaptive.Metrics) : Document :=
  let s := m.snapshot
  .ofFields
    [("failure_rate", .ofReal s.failureRate), ("slow_call_rate", .ofReal s.slowRate),
      ("buffered", .ofNatural s.total), ("failed", .ofNatural s.failed),
      ("slow", .ofNatural s.slow), ("max", .ofNatural m.limit),
      ("available", .ofNatural m.available)]

/-- The counters of a retry. -/
def Retry.Metrics.toDocument (m : Retry.Metrics) : Document :=
  .array
    [.ofNatural m.succeededAtOnce, .ofNatural m.succeededLater, .ofNatural m.failedAtOnce,
      .ofNatural m.failedLater]

end FaultTolerance
