import FaultTolerance.Activity
import FaultTolerance.CallError
import FaultTolerance.ConfigError

/-!
# Bulkheads

A bulkhead is a pool of permits: it lets through as many calls at once as it has permits.  The size
of the pool can change while permits are held; a smaller pool takes none back, and grants none
until enough have returned.

## Main definitions

* `Bulkhead.Config`: settings.
* `Bulkhead`: the state of a bulkhead.
* `Bulkhead.tryTake`, `Bulkhead.giveBack`: a permit taken, a permit returned.
* `Bulkhead.release`, `Bulkhead.complete`, `Bulkhead.change`: the operations that never wait.
-/

namespace FaultTolerance

open Time Text

namespace Bulkhead

/-- Settings of a bulkhead: permits, and how long a caller waits for one. -/
structure Config where
  limit : Nat
  wait : Span
deriving DecidableEq

namespace Config

/-- The settings used where none are given. -/
def standard : Config :=
  ⟨25, Span.zero⟩

/-- Which settings are accepted. -/
def validate (c : Config) : Checked :=
  requirePositive c.limit "max_concurrent_calls"

end Config

/-- What a bulkhead announces. -/
inductive Event where
  | callPermitted
  | callRejected
  | callFinished
deriving DecidableEq, Repr

/-- The event's name. -/
def Event.label : Event → String
  | .callPermitted => "CallPermitted"
  | .callRejected => "CallRejected"
  | .callFinished => "CallFinished"

end Bulkhead

/-- A bulkhead: the permits of the pool, and how many are held. -/
structure Bulkhead where
  name : String
  limit : Nat
  inUse : Nat
  wait : Span
deriving DecidableEq

namespace Bulkhead

/-- A bulkhead whose permits are all free. -/
def create
    (name : String)
    (config : Config) : Except ConfigError Bulkhead := do
  config.validate
  return ⟨name, config.limit, 0, config.wait⟩

/-- The settings in force. -/
def config (b : Bulkhead) : Config :=
  ⟨b.limit, b.wait⟩

/-- The free permits. -/
def available (b : Bulkhead) : Nat :=
  b.limit - b.inUse

/-- Take a permit if one is free; the answer tells whether one was. -/
def tryTake (b : Bulkhead) : Bool × Bulkhead :=
  if b.inUse < b.limit then (true, { b with inUse := b.inUse + 1 }) else (false, b)

/-- Return a permit. -/
def giveBack (b : Bulkhead) : Bulkhead :=
  { b with inUse := b.inUse - 1 }

/-- The refusal of a caller that found no free permit. -/
def full (b : Bulkhead) : Rejection :=
  .bulkheadFull b.name b.limit

/-- Return the permit of a call that was abandoned before it ran. -/
def release : Operation Bulkhead Event Unit :=
  .ofStep fun _ b => ((), b.giveBack, [])

/-- Return the permit of a finished call. -/
def complete : Operation Bulkhead Event Unit :=
  .ofStep fun _ b => ((), b.giveBack, [.callFinished])

/-- The bulkhead with other settings, unless they are refused. -/
def withConfig
    (b : Bulkhead)
    (config : Config) : Checked × Bulkhead :=
  match config.validate with
  | .ok () => (.ok (), { b with limit := config.limit, wait := config.wait })
  | .error e => (.error e, b)

/-- Change the settings. -/
def change (config : Config) : Operation Bulkhead Event Checked :=
  .ofStep fun _ b =>
    let (checked, after) := b.withConfig config
    (checked, after, [])

/-- The bulkhead as text. -/
def inspect (b : Bulkhead) : String :=
  Layout.record "SemaphoreBulkhead"
    [("name", Layout.quoted b.name),
      ("metrics", Layout.record "BulkheadMetrics"
        [("available_concurrent_calls", toString b.available),
          ("max_allowed_concurrent_calls", toString b.limit)])]

end Bulkhead
end FaultTolerance
