import FaultTolerance.Activity
import FaultTolerance.Text.Layout

/-!
# Publishing events

A publisher hands every event to its consumers, in the order in which they subscribed.  Those who
are subscribed when an event is published hear it; a consumer that crashes does not keep the others
from hearing it.

## Main definitions

* `Publisher`: the consumers.
* `Publisher.deliver`: an event handed to every consumer.
-/

namespace FaultTolerance

open Text

/-- The consumers of a kind `κ`, in order of subscription. -/
structure Publisher (κ : Type) where
  consumers : List κ
deriving DecidableEq, Repr

namespace Publisher

variable {ω κ ε : Type}

/-- A publisher nobody listens to. -/
def empty : Publisher κ :=
  ⟨[]⟩

/-- One more consumer. -/
def subscribe
    (p : Publisher κ)
    (consumer : κ) : Publisher κ :=
  ⟨p.consumers ++ [consumer]⟩

/-- Whether anybody listens. -/
def hasConsumers (p : Publisher κ) : Bool :=
  !p.consumers.isEmpty

/-- Hand an event to every consumer in turn, whatever becomes of the others. -/
def deliver
    (p : Publisher κ)
    (hear : κ → ε → Activity ω Unit)
    (event : ε) : Activity ω Unit :=
  p.consumers.forM fun consumer => Activity.guarded (hear consumer event)

/-- The publisher as text. -/
def inspect (p : Publisher κ) : String :=
  Layout.record "EventPublisher" [("consumers", toString p.consumers.length)]

end Publisher
end FaultTolerance
