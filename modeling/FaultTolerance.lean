import FaultTolerance.Activity
import FaultTolerance.Adaptive.Basic
import FaultTolerance.Breaker.Basic
import FaultTolerance.Breaker.Call
import FaultTolerance.Breaker.Config
import FaultTolerance.Bulkhead.Acquire
import FaultTolerance.Bulkhead.Basic
import FaultTolerance.CallError
import FaultTolerance.Circuit
import FaultTolerance.Classifier
import FaultTolerance.ConfigError
import FaultTolerance.Interval
import FaultTolerance.Json.Document
import FaultTolerance.Json.Errors
import FaultTolerance.Json.Events
import FaultTolerance.Json.Metrics
import FaultTolerance.Json.Record
import FaultTolerance.Json.Scalar
import FaultTolerance.Json.Settings
import FaultTolerance.Json.Token
import FaultTolerance.Limiter.Acquire
import FaultTolerance.Limiter.Basic
import FaultTolerance.Limiter.Cell
import FaultTolerance.Limiter.Config
import FaultTolerance.Numeric.Binary
import FaultTolerance.Numeric.Decimal
import FaultTolerance.Publisher
import FaultTolerance.Registry
import FaultTolerance.Rehearsal.AdaptiveScene
import FaultTolerance.Rehearsal.BreakerScene
import FaultTolerance.Rehearsal.BulkheadScene
import FaultTolerance.Rehearsal.ChainScene
import FaultTolerance.Rehearsal.CircuitScene
import FaultTolerance.Rehearsal.LimiterScene
import FaultTolerance.Rehearsal.PublisherScene
import FaultTolerance.Rehearsal.RegistryScene
import FaultTolerance.Rehearsal.RetryScene
import FaultTolerance.Rehearsal.Run
import FaultTolerance.Rehearsal.Script
import FaultTolerance.Rehearsal.TimeLimitScene
import FaultTolerance.Rehearsal.TokenScene
import FaultTolerance.Rehearsal.WindowScene
import FaultTolerance.Rehearsal.World
import FaultTolerance.Retry.Basic
import FaultTolerance.Text.Glyph
import FaultTolerance.Text.Layout
import FaultTolerance.Time.Clock
import FaultTolerance.Time.Span
import FaultTolerance.TimeLimit.Basic
import FaultTolerance.TimeLimit.Race
import FaultTolerance.Token
import FaultTolerance.Window.Counted
import FaultTolerance.Window.Outcome
import FaultTolerance.Window.Sliding
import FaultTolerance.Window.Snapshot
import FaultTolerance.Window.Threshold
import FaultTolerance.Window.Timed
import FaultTolerance.Proofs.SharedCalls
import FaultTolerance.Proofs.Limiter.Cycles
import FaultTolerance.Proofs.Limiter.Ledger
import FaultTolerance.Proofs.Limiter.Cumulative
import FaultTolerance.Proofs.Limiter.SharedCycles
import FaultTolerance.Proofs.Limiter.Callers
import FaultTolerance.Proofs.Limiter.NoTrace
import FaultTolerance.Proofs.Window.Calls
import FaultTolerance.Proofs.Window.CountedHistory
import FaultTolerance.Proofs.Window.CountedAccount
import FaultTolerance.Proofs.Window.TimedHistory
import FaultTolerance.Proofs.Window.Judgement
import FaultTolerance.Proofs.Window.SlidingHistory
import FaultTolerance.Proofs.Window.Arithmetic
import FaultTolerance.Proofs.Breaker.ClosedPhase
import FaultTolerance.Proofs.Breaker.HalfOpenPhase
import FaultTolerance.Proofs.Breaker.Traffic
import FaultTolerance.Proofs.Breaker.CallTraffic
import FaultTolerance.Proofs.Breaker.OpenPhase
import FaultTolerance.Proofs.Breaker.OpenWait
import FaultTolerance.Proofs.Breaker.Admissions
import FaultTolerance.Proofs.Breaker.Announcements
import FaultTolerance.Proofs.Breaker.FreshStart
import FaultTolerance.Proofs.TimeLimit.Resolution
import FaultTolerance.Proofs.Retry.Reference
import FaultTolerance.Proofs.Retry.Counters
import FaultTolerance.Proofs.Bulkhead.Acquisitions
import FaultTolerance.Proofs.Bulkhead.Permits
import FaultTolerance.Proofs.Adaptive.LimitHistory
import FaultTolerance.Proofs.Adaptive.Calls
import FaultTolerance.Proofs.Adaptive.Callers
import FaultTolerance.Proofs.Adaptive.Settlement
import FaultTolerance.Proofs.Limiter.Lag
import FaultTolerance.Proofs.Limiter.IdleTime
import FaultTolerance.Proofs.Limiter.EarlierReading
import FaultTolerance.Proofs.Limiter.HandBacks
import FaultTolerance.Proofs.Limiter.Range
import FaultTolerance.Proofs.Limiter.QuotedWait
import FaultTolerance.Proofs.Limiter.NewSettings
import FaultTolerance.Proofs.Json.Record
import FaultTolerance.Proofs.Numeric.Reading
import FaultTolerance.Proofs.Numeric.Value
import FaultTolerance.Proofs.Numeric.Power
import FaultTolerance.Proofs.Window.RoundedRates
import FaultTolerance.Proofs.Interval.Growth
import FaultTolerance.Proofs.Interval.Jitter
import FaultTolerance.Proofs.Interval.Vanishing
import FaultTolerance.Proofs.Json.Scalar
import FaultTolerance.Proofs.Json.Settings
import FaultTolerance.Proofs.Registry.Callers
