import FaultTolerance.ConfigError
import FaultTolerance.Numeric.Decimal
import FaultTolerance.Text.Layout
import FaultTolerance.Time.Span

/-!
# Wait intervals

An interval function gives the wait after each attempt, numbered from one: the same wait each time,
or one that grows by a factor up to a cap, or such a wait shortened at random.  The random draw, a
number between zero and one, is an argument.

## Main definitions

* `Interval`: the three functions.
* `Interval.validate`: which functions are accepted.
* `Interval.grown`: the capped exponential wait.
* `Interval.shorten`: the wait after a random cut, in whole milliseconds.
* `Interval.wait`: the wait after an attempt.
-/

namespace FaultTolerance

open Time Numeric Text

/-- The wait as a function of the attempt. -/
inductive Interval where
  | fixed (interval : Span)
  | exponential (initial : Span) (multiplier : Binary64) (max : Span)
  | randomized (initial : Span) (multiplier : Binary64) (max : Span) (factor : Binary64)
deriving DecidableEq

namespace Interval

/-- Put a cap on a growing wait; a fixed wait has none. -/
def withMax
    (cap : Span) : Interval → Interval
  | .fixed interval => .fixed interval
  | .exponential initial multiplier _ => .exponential initial multiplier cap
  | .randomized initial multiplier _ factor => .randomized initial multiplier cap factor

/-- A multiplier must be finite and at least one. -/
def checkMultiplier (multiplier : Binary64) : Checked :=
  require (multiplier.isFinite && (Binary.ofNat 1).le multiplier) "multiplier"
    ("must be >= 1.0, got " ++ multiplier.plain)

/-- A factor must lie between zero and one. -/
def checkFactor (factor : Binary64) : Checked :=
  require ((Binary.zero false).le factor && factor.le (Binary.ofNat 1)) "randomization_factor"
    ("must be in [0, 1], got " ++ factor.plain)

/-- Which interval functions are accepted; the multiplier is looked at first. -/
def validate : Interval → Checked
  | .fixed _ => .ok ()
  | .exponential _ multiplier _ => checkMultiplier multiplier
  | .randomized _ multiplier _ factor => do
    checkMultiplier multiplier
    checkFactor factor

/-- The exponent after an attempt: one less than its number, within a signed 32-bit integer. -/
def exponentAfter (attempt : Nat) : Nat :=
  min (attempt - 1) 0x7FFFFFFF

/-- The wait `initial * multiplier ^ (attempt - 1)` in nanoseconds, computed in double precision.
A product that is not finite or has reached the cap gives the cap. -/
def grown
    (initial : Span)
    (multiplier : Binary64)
    (cap : Span)
    (attempt : Nat) : Span :=
  let nanos : Binary64 :=
    (Binary.ofNat initial.nanos).mul (multiplier.pow (exponentAfter attempt))
  if !nanos.isFinite || (Binary.ofNat cap.nanos).le nanos then cap
  else (Span.clip (nanos.truncate maxTicks)).least cap

/-- A number held between zero and one; what is not a number counts as one. -/
def clampFactor (factor : Binary64) : Binary64 :=
  match factor with
  | .nan => Binary.ofNat 1
  | _ =>
    if factor.lt (Binary.zero false) then Binary.zero false
    else if (Binary.ofNat 1).lt factor then Binary.ofNat 1
    else factor

/-- A span cut by up to `factor` of itself: its whole milliseconds times `1 - factor + draw *
factor`, rounded down to whole milliseconds.  A factor of zero or less cuts nothing. -/
def shorten
    (span : Span)
    (factor draw : Binary64) : Span :=
  if factor.le (Binary.zero false) then span
  else
    let share := clampFactor factor
    let scale := ((Binary.ofNat 1).sub share).add (draw.mul share)
    Span.ofMillis (((Binary.ofNat span.millis).mul scale).truncate maxTicks)

/-- The wait after an attempt, for a random draw between zero and one. -/
def wait
    (draw : Binary64)
    (attempt : Nat) : Interval → Span
  | .fixed interval => interval
  | .exponential initial multiplier cap => grown initial multiplier cap attempt
  | .randomized initial multiplier cap factor =>
    shorten (grown initial multiplier cap attempt) factor draw

/-- The wait used when none is set. -/
def standard : Interval :=
  .fixed (Span.ofMillis 500)

/-- The interval function as text. -/
def inspect : Interval → String
  | .fixed interval => Layout.record "Fixed" [("interval", interval.text)]
  | .exponential initial multiplier cap =>
    Layout.record "Exponential"
      [("initial", initial.text), ("multiplier", multiplier.graded), ("max", cap.text)]
  | .randomized initial multiplier cap factor =>
    Layout.record "ExponentialRandom"
      [("initial", initial.text), ("multiplier", multiplier.graded), ("max", cap.text),
        ("randomization_factor", factor.graded)]

/-- The draw in the middle. -/
def middle : Binary64 :=
  (Binary.ofNat 1).div (Binary.ofNat 2)

/-- Evenly spread draws: the middles of `n` equal parts, so that neither end is drawn. -/
def spread (n : Nat) : List Binary64 :=
  (List.range n).map fun k => (Binary.ofNat (2 * k + 1)).div (Binary.ofNat (2 * n))

/-- What a sample of waits shows: whether all lie within bounds, whether all are whole milliseconds,
and whether they differ. -/
structure Sample where
  within : Bool
  wholeMillis : Bool
  varies : Bool
deriving DecidableEq, Repr

/-- Sample the wait after an attempt at evenly spread draws. -/
def sample
    (i : Interval)
    (attempt count : Nat)
    (low high : Span) : Sample :=
  let waits := (spread count).map fun draw => (i.wait draw attempt).nanos
  { within := waits.all fun n => low.nanos ≤ n && n ≤ high.nanos
    wholeMillis := waits.all fun n => n % nanosPerMilli == 0
    varies := waits.any fun n => some n != waits.head? }

end Interval
end FaultTolerance
