import FaultTolerance.Rehearsal.Run

/-!
# Rehearsing a publisher of texts

Every consumer writes what it hears into the journal, and some then act on the publisher.
-/

namespace FaultTolerance
namespace Rehearsal
namespace PublisherScene

/-- What a consumer does once it has heard an event. -/
inductive Kind where
  | record
  | crash
  | clear
  | subscribe
  | republish
deriving DecidableEq, Repr

namespace Kind

/-- Every kind. -/
def all : List Kind :=
  [.record, .crash, .clear, .subscribe, .republish]

/-- The name of a kind. -/
def label : Kind → String
  | .record => "record"
  | .crash => "panic"
  | .clear => "clear"
  | .subscribe => "subscribe"
  | .republish => "republish"

end Kind

/-- A consumer. -/
structure Consumer where
  id : String
  kind : Kind
deriving DecidableEq, Repr

/-- A text that a consumer heard. -/
structure Delivery where
  id : String
  event : String
deriving DecidableEq, Repr

/-- What can be done to a publisher; a publication may build its event only when it is needed. -/
inductive Instruction where
  | subscribe (consumer : Consumer)
  | publish (event : String)
  | publishBuilt (event : String)
  | clear
  | inspect

/-- What an instruction answers. -/
inductive Answer where
  | done
  | built (times : Nat)
  | text (s : String)

/-- An activity in the world of a publisher. -/
abbrev Play := Activity (World (Publisher Consumer) Delivery Answer)

/-- A consumer hears an event; `again` publishes another one. -/
def hear
    (again : String → Play Unit)
    (consumer : Consumer)
    (event : String) : Play Unit := do
  World.note (.event ⟨consumer.id, event⟩)
  match consumer.kind with
  | .record => return ()
  | .crash => throw (.crash "consumer")
  | .clear => World.change fun _ => Publisher.empty
  | .subscribe => World.change (·.subscribe ⟨consumer.id ++ "+", .record⟩)
  | .republish => if event.toList.getLast? = some '!' then return () else again (event ++ "!")

/-- Publish an event that no consumer publishes again. -/
def publishLast (event : String) : Play Unit := do
  (← get).subject.deliver (hear fun _ => return ()) event

/-- Publish an event; one that is published again ends with a mark, and is not published a third
time. -/
def publish (event : String) : Play Unit := do
  (← get).subject.deliver (hear publishLast) event

/-- Play an instruction. -/
def player : Player Instruction (Publisher Consumer) Delivery Answer := fun instruction _ => do
  match instruction with
  | .subscribe consumer =>
    World.change (·.subscribe consumer)
    return .done
  | .publish event =>
    publish event
    return .done
  | .publishBuilt event =>
    if (← get).subject.hasConsumers then
      publish event
      return .built 1
    else return .built 0
  | .clear =>
    World.change fun _ => Publisher.empty
    return .done
  | .inspect => return .text (← get).subject.inspect

/-- Rehearse a publisher nobody listens to yet. -/
def rehearse (script : List (Step Instruction)) :
    List (Report (Publisher Consumer) Delivery Answer) :=
  run player script (World.start .standing 0 Publisher.empty)

end PublisherScene
end Rehearsal
end FaultTolerance
