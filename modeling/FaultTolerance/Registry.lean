import FaultTolerance.ConfigError

/-!
# Registries

A registry holds one instance under each name, in ascending order of the names.  An instance is
created when its name is looked up for the first time, and again after it was removed; a creation
that fails leaves the registry as it was.

The look-up and the insertion are two sections, so that others may come in between: the insertion
looks again before it creates.

## Main definitions

* `Registry`: names and instances.
* `Registry.find?`, `Registry.insertIfAbsent`, `Registry.remove`: the sections.
* `Registry.getOrInsert`: a look-up followed by an insertion.
-/

namespace FaultTolerance

/-- Instances of a type by name. -/
structure Registry (α : Type) where
  entries : List (String × α)

namespace Registry

variable {α : Type}

/-- A registry without instances. -/
def empty : Registry α :=
  ⟨[]⟩

/-- The registered names, ascending by code point. -/
def names (r : Registry α) : List String :=
  r.entries.map (·.1)

/-- The number of registered names. -/
def size (r : Registry α) : Nat :=
  r.entries.length

/-- The instance under a name. -/
def find?
    (r : Registry α)
    (name : String) : Option α :=
  r.entries.lookup name

/-- Entries with one more, before the first greater name. -/
def insertSorted
    (name : String)
    (instance_ : α) : List (String × α) → List (String × α)
  | [] => [(name, instance_)]
  | (other, held) :: later =>
    if name < other then (name, instance_) :: (other, held) :: later
    else (other, held) :: insertSorted name instance_ later

/-- What a look-up with creation answers, and how often it created. -/
structure Lookup (α : Type) where
  created : Nat
  result : Except ConfigError α

/-- Create an instance under a name unless there is one. -/
def insertIfAbsent
    (r : Registry α)
    (name : String)
    (create : Except ConfigError α) : Lookup α × Registry α :=
  match r.find? name with
  | some held => (⟨0, .ok held⟩, r)
  | none =>
    match create with
    | .ok made => (⟨1, .ok made⟩, ⟨insertSorted name made r.entries⟩)
    | .error e => (⟨1, .error e⟩, r)

/-- The instance under a name, created if there is none. -/
def getOrInsert
    (r : Registry α)
    (name : String)
    (create : Except ConfigError α) : Lookup α × Registry α :=
  match r.find? name with
  | some held => (⟨0, .ok held⟩, r)
  | none => r.insertIfAbsent name create

/-- Take a name out; the answer is the instance it had. -/
def remove
    (r : Registry α)
    (name : String) : Option α × Registry α :=
  (r.find? name, ⟨r.entries.filter fun entry => entry.1 != name⟩)

end Registry
end FaultTolerance
