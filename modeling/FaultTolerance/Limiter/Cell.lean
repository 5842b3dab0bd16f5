import FaultTolerance.Limiter.Config

/-!
# Refill cycles and permits

Time is cut into refill cycles of equal length, counted from an epoch.  A cell holds the low 32 bits
of the cycle it was last brought to and a signed number of permits: a negative number means that so
many permits of coming cycles are promised already.  Refilling is lazy: whoever looks at the cell
first brings it to the present cycle, adding one limit for each cycle that has begun since, up to
one limit in all.

## Main definitions

* `Timing`: the limit, the cycles and their epoch.
* `Timing.wait`: the wait until a permit is covered by refills.
* `Cell.refresh`: the cell in the present cycle.
* `Cell.take`, `Cell.giveBack`: a permit fewer, a permit more.
-/

namespace FaultTolerance
namespace Limiter

open Time

/-- The limit and the cycles: cycle `epochCycle` begins at the clock reading `epoch`. -/
structure Timing where
  limit : Nat
  period : Nat
  timeout : Span
  epoch : Nat
  epochCycle : Nat
deriving DecidableEq

namespace Timing

/-- The cycle at a clock reading. -/
def cycleAt
    (t : Timing)
    (now : Nat) : Nat :=
  t.epochCycle + (now - t.epoch) / t.period

/-- The nanoseconds until the next cycle begins. -/
def toNextCycle
    (t : Timing)
    (now : Nat) : Nat :=
  t.period - (now - t.epoch) % t.period

/-- The nanoseconds until the next permit is covered by refills, when `permits` are left: nothing
while permits are left, else the rest of this cycle and a whole cycle for each limit's worth of
promised permits.  The count saturates at the end of a 64-bit counter. -/
def wait
    (t : Timing)
    (permits : Int)
    (now : Nat) : Nat :=
  if 0 < permits then 0
  else
    let whole := min (permits.natAbs / t.limit * t.period) maxTicks
    min (whole + t.toNextCycle now) maxTicks

end Timing

/-- The least number of permits that a cell can hold. -/
abbrev minPermits : Int := -0x80000000

/-- The greatest number of permits that a cell can hold. -/
abbrev maxPermits : Int := 0x7FFFFFFF

/-- A number held within a signed 64-bit integer. -/
def saturate (n : Int) : Int :=
  max (-0x8000000000000000) (min n 0x7FFFFFFFFFFFFFFF)

/-- A number of permits, and the low bits of the cycle it belongs to. -/
structure Cell where
  cycle : UInt32
  permits : Int
deriving DecidableEq

namespace Cell

/-- The cell in the cycle of a clock reading.  Cycles are compared modulo `2 ^ 32`, so that a
wrapped count still refills. -/
def refresh
    (c : Cell)
    (t : Timing)
    (now : Nat) : Cell :=
  let current := UInt32.ofNat (t.cycleAt now)
  let begun := current - c.cycle
  if begun = 0 then c
  else
    { cycle := current
      permits := min (saturate (c.permits + saturate (begun.toNat * t.limit))) t.limit }

/-- One permit fewer. -/
def take (c : Cell) : Cell :=
  { c with permits := max (c.permits - 1) minPermits }

/-- One permit more, up to the limit. -/
def giveBack
    (c : Cell)
    (t : Timing) : Cell :=
  { c with permits := min (min (c.permits + 1) maxPermits) t.limit }

end Cell

end Limiter
end FaultTolerance
