import FaultTolerance.Bulkhead.Basic
import FaultTolerance.Registry
import FaultTolerance.Rehearsal.Run

/-!
# Rehearsing a registry of bulkheads

Every bulkhead that was created has a number, and keeps it when it is taken out of the registry.
-/

namespace FaultTolerance
namespace Rehearsal
namespace RegistryScene

open Time

/-- A registry of numbered bulkheads, and all that were created. -/
structure Cast where
  registry : Registry Nat
  made : List Bulkhead

/-- What can be done to a registry; a creation may crash. -/
inductive Instruction where
  | getOrInsert (name instanceName : String) (limit : Nat) (crash : Option String)
  | find (name : String)
  | remove (name : String)
  | acquire (id : Nat)
  | release (id : Nat)

/-- A numbered bulkhead, as it is answered. -/
structure Instance where
  id : Nat
  name : String
  limit : Nat
deriving DecidableEq, Repr

/-- What an instruction answers. -/
inductive Answer where
  | done
  | lookup (created : Nat) (result : Except ConfigError Instance)
  | found (held : Option Instance)
  | permission (result : Except Rejection Unit)

/-- An activity in the world of a registry. -/
abbrev Play := Activity (World Cast Empty Answer)

/-- The bulkhead with a number, as it is answered. -/
def Cast.instanceOf
    (cast : Cast)
    (id : Nat) : Instance :=
  match cast.made[id]? with
  | some b => ⟨id, b.name, b.limit⟩
  | none => ⟨id, "", 0⟩

/-- Look up a name, creating a bulkhead if there is none. -/
def getOrInsert
    (name instanceName : String)
    (limit : Nat) : Play Answer := do
  let cast := (← get).subject
  let bulkhead := Bulkhead.create instanceName ⟨limit, Bulkhead.Config.standard.wait⟩
  let (lookup, registry) :=
    cast.registry.getOrInsert name (bulkhead.map fun _ => cast.made.length)
  let made := match lookup.created, bulkhead with
    | 0, _ => cast.made
    | _, .ok b => cast.made ++ [b]
    | _, .error _ => cast.made
  World.change fun _ => ⟨registry, made⟩
  return .lookup lookup.created (lookup.result.map (Cast.instanceOf ⟨registry, made⟩))

/-- Play an instruction. -/
def player : Player Instruction Cast Empty Answer := fun instruction _ => do
  let cast := (← get).subject
  match instruction with
  | .getOrInsert name instanceName limit crash =>
    match crash, cast.registry.find? name with
    | some text, none => throw (.crash text)
    | _, _ => getOrInsert name instanceName limit
  | .find name => return .found ((cast.registry.find? name).map cast.instanceOf)
  | .remove name =>
    let (held, registry) := cast.registry.remove name
    World.change fun cast => { cast with registry }
    return .found (held.map cast.instanceOf)
  | .acquire id =>
    match cast.made[id]? with
    | none => return .done
    | some b =>
      let (taken, after) := b.tryTake
      World.change fun cast => { cast with made := cast.made.set id after }
      return .permission (if taken then .ok () else .error b.full)
  | .release id =>
    World.change fun cast => { cast with made := cast.made.modify id Bulkhead.giveBack }
    return .done

/-- Rehearse an empty registry. -/
def rehearse (script : List (Step Instruction)) : List (Report Cast Empty Answer) :=
  run player script (World.start .standing 0 ⟨Registry.empty, []⟩)

end RegistryScene
end Rehearsal
end FaultTolerance
