import FaultTolerance.ConfigError
import FaultTolerance.Text.Layout
import FaultTolerance.Time.Span

/-!
# Settings of a rate limiter
-/

namespace FaultTolerance
namespace Limiter

open Time Text

/-- The greatest number of permits of a cycle. -/
abbrev maxLimit : Nat := 0x7FFFFFFF

/-- Settings of a rate limiter: permits per cycle, length of a cycle, and the wait a caller accepts
unless it says otherwise. -/
structure Config where
  limit : Nat
  period : Span
  timeout : Span
deriving DecidableEq

namespace Config

/-- The settings used where none are given. -/
def standard : Config :=
  { limit := 50
    period := Span.ofMillis 500
    timeout := Span.ofSeconds 5 }

/-- Which limits are accepted. -/
def checkLimit (limit : Nat) : Checked :=
  require (0 < limit && limit ≤ maxLimit) "limit_for_period"
    ("must be in [1, " ++ toString maxLimit ++ "], got " ++ toString limit)

/-- Which cycle lengths are accepted. -/
def checkPeriod (period : Span) : Checked :=
  require (nanosPerMilli ≤ period.nanos) "limit_refresh_period" "must be at least 1ms"

/-- Which settings are accepted; the limit is looked at first. -/
def validate (c : Config) : Checked := do
  checkLimit c.limit
  checkPeriod c.period

/-- The settings as text. -/
def inspect (c : Config) : String :=
  Layout.record "RateLimiterConfig"
    [("limit_for_period", toString c.limit), ("limit_refresh_period", c.period.text),
      ("timeout_duration", c.timeout.text)]

end Config
end Limiter
end FaultTolerance
