/-!
# Spans of time

A span is a whole number of nanoseconds with at most `2 ^ 64 - 1` whole seconds.  Clocks and
deadlines run on 64-bit nanosecond counters, so a span meets them through a saturating count.

## Main definitions

* `Span`: a span, with its bound.
* `Span.clip`: the longest span not above a count of nanoseconds.
* `Span.ticks`: the nanoseconds of a span, saturated at `2 ^ 64 - 1`.
* `Span.text`: the span with the largest unit that keeps a whole part.
-/

namespace FaultTolerance
namespace Time

/-- The greatest value of a 64-bit nanosecond counter. -/
abbrev maxTicks : Nat := 0xFFFFFFFFFFFFFFFF

/-- Nanoseconds in a second. -/
abbrev nanosPerSecond : Nat := 1000000000

/-- Nanoseconds in a millisecond. -/
abbrev nanosPerMilli : Nat := 1000000

/-- The least count of nanoseconds that is no span. -/
abbrev spanLimit : Nat := (maxTicks + 1) * nanosPerSecond

/-- A span of time in nanoseconds. -/
structure Span where
  nanos : Nat
  bounded : nanos < spanLimit
deriving DecidableEq

namespace Span

theorem ext_nanos
    {a b : Span}
    (h : a.nanos = b.nanos) : a = b := by
  cases a; cases b; cases h; rfl

/-- The longest span of at most `n` nanoseconds. -/
def clip (n : Nat) : Span :=
  ⟨min n (spanLimit - 1), Nat.lt_of_le_of_lt (Nat.min_le_right _ _) (by decide)⟩

/-- The empty span. -/
def zero : Span :=
  clip 0

/-- The longest span. -/
def max : Span :=
  clip (spanLimit - 1)

/-- A whole number of milliseconds. -/
def ofMillis (n : Nat) : Span :=
  clip (n * nanosPerMilli)

/-- A whole number of seconds. -/
def ofSeconds (n : Nat) : Span :=
  clip (n * nanosPerSecond)

@[simp]
theorem clip_nanos
    {n : Nat}
    (h : n < spanLimit) : (clip n).nanos = n :=
  Nat.min_eq_left (Nat.le_sub_one_of_lt h)

@[simp]
theorem clip_self (a : Span) : clip a.nanos = a :=
  ext_nanos (clip_nanos a.bounded)

/-- Whole seconds. -/
def seconds (a : Span) : Nat :=
  a.nanos / nanosPerSecond

/-- Nanoseconds past the last whole second. -/
def rest (a : Span) : Nat :=
  a.nanos % nanosPerSecond

/-- Nanoseconds, saturated at the end of a 64-bit counter. -/
def ticks (a : Span) : Nat :=
  min a.nanos maxTicks

/-- Whole milliseconds, saturated at the end of a 64-bit counter. -/
def millis (a : Span) : Nat :=
  min (a.nanos / nanosPerMilli) maxTicks

/-- The shorter of two spans. -/
def least (a b : Span) : Span :=
  if a.nanos ≤ b.nanos then a else b

/-- An equal share of a span, rounded down. -/
def share
    (a : Span)
    (parts : Nat) : Span :=
  clip (a.nanos / parts)

/-- `whole` units with the fraction `part / 10 ^ places` of a unit, trailing zeros dropped. -/
def withUnit
    (whole part places : Nat)
    (unit : String) : String :=
  let figures := Nat.toDigits 10 part
  let padded := List.replicate (places - figures.length) '0' ++ figures
  let kept := (padded.reverse.dropWhile (· == '0')).reverse
  let fraction := if kept.isEmpty then "" else "." ++ String.ofList kept
  toString whole ++ fraction ++ unit

/-- The span in seconds, milliseconds, microseconds or nanoseconds: the largest unit with a nonzero
whole part. -/
def text (a : Span) : String :=
  if 0 < a.seconds then withUnit a.seconds a.rest 9 "s"
  else if nanosPerMilli ≤ a.rest then
    withUnit (a.rest / nanosPerMilli) (a.rest % nanosPerMilli) 6 "ms"
  else if 1000 ≤ a.rest then withUnit (a.rest / 1000) (a.rest % 1000) 3 "µs"
  else withUnit a.rest 0 0 "ns"

end Span

/-- The time that passed between two readings of a 64-bit clock, zero when the clock went back. -/
def elapsed (start finish : Nat) : Span :=
  Span.clip (finish - start)

end Time
end FaultTolerance
