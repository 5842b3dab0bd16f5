import FaultTolerance.Breaker.Call
import FaultTolerance.Rehearsal.Run

/-!
# Rehearsing a circuit breaker

The audience of a breaker writes its events into the journal, and may also react to them: a reaction
operates the breaker from inside an event, a limited number of times.

## Main definitions

* `BreakerScene.Reaction`: what a subscriber does on an event.
* `BreakerScene.announce`: an event handed to the audience.
* `BreakerScene.player`: the instructions.
-/

namespace FaultTolerance
namespace Rehearsal
namespace BreakerScene

open Time

/-! ### The audience -/

/-- What a subscriber does from inside an event. -/
inductive Act where
  | reset
  | metrics
  | acquire
  | success
  | crash
  | move (goal : Circuit.Phase)
deriving DecidableEq, Repr

namespace Act

/-- Every act. -/
def all : List Act :=
  [.reset, .metrics, .acquire, .success, .crash] ++ Circuit.Phase.all.map .move

/-- The name of an act; a move goes by the phase it leads to. -/
def label : Act → String
  | .reset => "reset"
  | .metrics => "metrics"
  | .acquire => "acquire"
  | .success => "success"
  | .crash => "panic"
  | .move goal => goal.label

end Act

/-- A subscriber that acts on events of a name, and on transitions only toward one phase if it names
one.  `left` counts how often it will still act. -/
structure Reaction where
  event : String
  toward : Option Circuit.Phase
  left : Nat
  act : Act
deriving DecidableEq, Repr

/-- Who listens to a breaker: a set of callbacks on transitions, a logger, or a reaction. -/
inductive Listener where
  | callbacks
  | logger
  | reaction (index : Nat)
deriving DecidableEq, Repr

/-- What the audience writes into the journal. -/
inductive Heard where
  | event (e : Breaker.Event)
  | callback (phase : Circuit.Phase)
  | reaction (act : Act)
  | metrics (m : Breaker.Metrics)
  | permission (result : Except Rejection Unit)

/-- A breaker with its audience. -/
structure Cast where
  breaker : Breaker
  audience : Publisher Listener
  reactions : List Reaction

/-! ### Instructions -/

/-- What can be done to a breaker. -/
inductive Instruction where
  | acquire
  | release
  | success (elapsed : Span)
  | error (elapsed : Span) (fault : Fault)
  | call
  | callLater (dropAfter : Option Span)
  | move (goal : Circuit.Phase)
  | reset
  | metrics
  | is
  | info
  | inspect
  | subscribe
  | unsubscribe

/-- The answer of a protected call. -/
abbrev CallAnswer := Except (CallError Fault) Value

/-- What an instruction answers. -/
inductive Answer where
  | done
  | permission (result : Except Rejection Unit)
  | call (answer : CallAnswer)
  | timed (answer : Timed CallAnswer)
  | metrics (m : Breaker.Metrics)
  | phase (phase : Circuit.Phase)
  | info (name : String) (config : Breaker.Config)
  | text (s : String)

/-- An activity in the world of a breaker. -/
abbrev Play := Activity (World Cast Heard Answer)

/-- The site of the breaker. -/
def siteOf (announce : Breaker.Event → Play Unit) :
    Site (World Cast Heard Answer) Breaker Breaker.Event :=
  World.site (·.breaker) (fun breaker cast => { cast with breaker }) announce

/-! ### Hearing events -/

/-- The phase a transition leads to. -/
def towardOf : Breaker.Event → Option Circuit.Phase
  | .transition _ target => some target
  | _ => none

/-- Whether a reaction acts on an event. -/
def Reaction.matches
    (r : Reaction)
    (event : Breaker.Event) : Bool :=
  r.event == event.label && 0 < r.left
    && match r.toward with
      | none => true
      | some phase => towardOf event == some phase

/-- What a callback is called by: it tells of an opening, a closing or a trial phase. -/
def callbackName : Circuit.Phase → String
  | .closed => "close"
  | .halfOpen => "half_open"
  | _ => "open"

/-- Callbacks tell of transitions to open, closed and half-open. -/
def callback : Breaker.Event → List Heard
  | .transition _ .open => [.callback .open]
  | .transition _ .closed => [.callback .closed]
  | .transition _ .halfOpen => [.callback .halfOpen]
  | _ => []

/-- Act from inside an event. -/
def act
    (announce : Breaker.Event → Play Unit) : Act → Play Unit
  | .reset => (siteOf announce).perform Breaker.reset
  | .metrics => do
    let metrics ← (siteOf announce).perform Breaker.metrics
    World.note (.event (.metrics metrics))
  | .acquire => do
    let result ← (siteOf announce).perform Breaker.acquire
    World.note (.event (.permission result))
  | .success => (siteOf announce).perform (Breaker.onSuccess Span.zero)
  | .crash => throw (.crash "reaction")
  | .move goal => (siteOf announce).perform (Breaker.transition goal)

/-- One fewer action left for a reaction. -/
def spend
    (index : Nat)
    (reaction : Reaction)
    (cast : Cast) : Cast :=
  { cast with reactions := cast.reactions.set index { reaction with left := reaction.left - 1 } }

/-- A listener hears an event; a reaction is taken off its count before it acts. -/
def hear
    (announce : Breaker.Event → Play Unit)
    (listener : Listener)
    (event : Breaker.Event) : Play Unit := do
  match listener with
  | .logger => World.note (.event (.event event))
  | .callbacks => (callback event).forM fun heard => World.note (.event heard)
  | .reaction index =>
    match (← get).subject.reactions[index]? with
    | none => return ()
    | some reaction =>
      if reaction.matches event then
        World.change (spend index reaction)
        World.note (.event (.reaction reaction.act))
        act announce reaction.act

/-- Hand an event to the audience.  Every level of nesting uses up an action of some reaction, so
`left` levels are enough when that many actions are left in all. -/
def announce : (left : Nat) → Breaker.Event → Play Unit
  | 0, event => do
    (← get).subject.audience.deliver (hear fun _ => return ()) event
  | left + 1, event => do
    (← get).subject.audience.deliver (hear (announce left)) event

/-- All actions left to the reactions. -/
def actionsLeft (reactions : List Reaction) : Nat :=
  reactions.foldl (fun left reaction => left + reaction.left) 0

/-- The site of the breaker with its audience. -/
def site (cast : Cast) : Site (World Cast Heard Answer) Breaker Breaker.Event :=
  siteOf (announce (actionsLeft cast.reactions))

/-! ### Playing -/

/-- Play an instruction. -/
def player : Player Instruction Cast Heard Answer := fun instruction calls => do
  let site := site (← get).subject
  let body := calls.headD (finish (.crashes ""))
  match instruction with
  | .acquire => return .permission (← site.perform Breaker.acquire)
  | .release =>
    site.perform Breaker.release
    return .done
  | .success elapsed =>
    site.perform (Breaker.onSuccess elapsed)
    return .done
  | .error elapsed fault =>
    site.perform (Breaker.onError elapsed fault)
    return .done
  | .call => return .call (← Breaker.call site body)
  | .callLater dropAfter => return .timed (← timed dropAfter (Breaker.call site body))
  | .move goal =>
    site.perform (Breaker.transition goal)
    return .done
  | .reset =>
    site.perform Breaker.reset
    return .done
  | .metrics => return .metrics (← site.perform Breaker.metrics)
  | .is => return .phase (← site.state).phase
  | .info =>
    let b ← site.state
    return .info b.name b.config
  | .inspect => return .text (← site.state).inspect
  | .subscribe =>
    World.change fun cast => { cast with audience := cast.audience.subscribe .logger }
    return .done
  | .unsubscribe =>
    World.change fun cast => { cast with audience := Publisher.empty }
    return .done

/-- The audience at the start: callbacks, a logger, and the reactions, in this order. -/
def audience
    (callbacks logs : Bool)
    (reactions : List Reaction) : Publisher Listener :=
  ⟨(if callbacks then [.callbacks] else []) ++ (if logs then [.logger] else [])
    ++ (List.range reactions.length).map .reaction⟩

/-- Rehearse a new breaker. -/
def rehearse
    (dial : Dial)
    (name : String)
    (config : Breaker.Config)
    (classifier : Option (Classifier Fault))
    (callbacks logs : Bool)
    (reactions : List Reaction)
    (script : List (Step Instruction)) : Except ConfigError (List (Report Cast Heard Answer)) := do
  let idle : World Unit Empty Answer := World.start dial 0 ()
  let breaker ← Breaker.create name config classifier idle.now
  return run player script
    (World.start dial 0 ⟨breaker, audience callbacks logs reactions, reactions⟩)

end BreakerScene
end Rehearsal
end FaultTolerance
