import FaultTolerance.Circuit
import FaultTolerance.Interval
import FaultTolerance.Json.Record
import FaultTolerance.Window.Sliding

/-!
# Spans, names and intervals in JSON

A span is a record of seconds and nanoseconds, both required and nothing else allowed.  A name out
of a fixed list is written as text, and may also be read from an object with the name as its only
key and null as its value.  An interval function is a record tagged by its type.

## Main definitions

* `Json.spanOf?`, `Json.spanDocument`.
* `Json.nameOf?`, `Json.shapeOf?`, `Json.phaseOf?`.
* `Json.intervalOf?`, `Json.intervalDocument`.
-/

namespace FaultTolerance
namespace Json

open Time Numeric Window

/-! ### Spans -/

/-- The greatest 32-bit count. -/
abbrev maxCount32 : Nat := 0xFFFFFFFF

/-- The greatest 64-bit count. -/
abbrev maxCount64 : Nat := 0xFFFFFFFFFFFFFFFF

/-- The seconds and nanoseconds of a span. -/
def spanRecord : Record (Nat × Nat) where
  standard := (0, 0)
  fields :=
    [Field.of "secs" (Document.natural maxCount64) .ofNatural (·.1) fun n p => (n, p.2),
      Field.of "nanos" (Document.natural maxCount32) .ofNatural (·.2) fun n p => (p.1, n)]

/-- Whether an object has no keys but those of a span. -/
def onlySpanKeys : Document → Bool
  | .object entries => entries.all fun entry => entry.1 == some "secs" || entry.1 == some "nanos"
  | _ => true

/-- The span of some seconds and nanoseconds; nanoseconds carry over into seconds, as long as there
is room for them. -/
def spanOfParts? (seconds nanos : Nat) : Option Span :=
  if fits : seconds * nanosPerSecond + nanos < spanLimit then some ⟨_, fits⟩ else none

/-- Read a span. -/
def spanOf? (document : Document) : Option Span := do
  if !onlySpanKeys document then none
  let (seconds, nanos) ← spanRecord.ofWhole? document
  spanOfParts? seconds nanos

/-- Write a span. -/
def spanDocument (span : Span) : Document :=
  spanRecord.toDocument (span.seconds, span.rest)

/-! ### Names -/

/-- Read one of several values by its name. -/
def nameOf?
    {α : Type}
    (all : List α)
    (label : α → String) : Document → Option α
  | .string (some name) => all.find? fun value => label value == name
  | .object [(some name, .null)] => all.find? fun value => label value == name
  | _ => none

/-- Read the shape of a window. -/
def shapeOf? : Document → Option Shape :=
  nameOf? Shape.all Shape.label

/-- Read the phase of a circuit. -/
def phaseOf? : Document → Option Circuit.Phase :=
  nameOf? Circuit.Phase.all Circuit.Phase.label

/-! ### Intervals -/

/-- The parts of an interval function; a type has some of them. -/
structure IntervalParts where
  interval : Span
  initial : Span
  multiplier : Binary64
  max : Span
  factor : Binary64

namespace IntervalParts

/-- The field of a fixed wait. -/
def intervalField : Field IntervalParts :=
  Field.of "interval" spanOf? spanDocument (·.interval) fun interval p => { p with interval }

/-- The field of a first wait. -/
def initialField : Field IntervalParts :=
  Field.of "initial" spanOf? spanDocument (·.initial) fun initial p => { p with initial }

/-- The field of the growth. -/
def multiplierField : Field IntervalParts :=
  Field.of "multiplier" Document.real .ofReal (·.multiplier) fun multiplier p =>
    { p with multiplier }

/-- The field of the cap. -/
def maxField : Field IntervalParts :=
  Field.of "max" spanOf? spanDocument (·.max) fun max p => { p with max }

/-- The field of the random cut. -/
def factorField : Field IntervalParts :=
  Field.of "randomization_factor" Document.real .ofReal (·.factor) fun factor p =>
    { p with factor }

/-- Parts to start from; each type replaces all of its own. -/
def blank : IntervalParts :=
  ⟨Span.zero, Span.zero, Binary.zero false, Span.zero, Binary.zero false⟩

end IntervalParts

/-- The type of an interval function. -/
inductive IntervalType where
  | fixed
  | exponential
  | randomized
deriving DecidableEq, Repr

namespace IntervalType

/-- Every type. -/
def all : List IntervalType :=
  [.fixed, .exponential, .randomized]

/-- The tag of a type. -/
def label : IntervalType → String
  | .fixed => "fixed"
  | .exponential => "exponential"
  | .randomized => "exponential_random"

/-- The fields of a type, in order. -/
def record (t : IntervalType) : Record IntervalParts where
  standard := IntervalParts.blank
  fields := match t with
    | .fixed => [IntervalParts.intervalField]
    | .exponential =>
      [IntervalParts.initialField, IntervalParts.multiplierField, IntervalParts.maxField]
    | .randomized =>
      [IntervalParts.initialField, IntervalParts.multiplierField, IntervalParts.maxField,
        IntervalParts.factorField]

/-- The interval function of a type with these parts. -/
def build
    (p : IntervalParts) : IntervalType → Interval
  | .fixed => .fixed p.interval
  | .exponential => .exponential p.initial p.multiplier p.max
  | .randomized => .randomized p.initial p.multiplier p.max p.factor

/-- Read the tag of a type. -/
def ofTag? : Document → Option IntervalType
  | .string (some tag) => all.find? fun t => t.label == tag
  | _ => none

end IntervalType

/-- The type of an interval function. -/
def intervalType : Interval → IntervalType
  | .fixed _ => .fixed
  | .exponential _ _ _ => .exponential
  | .randomized _ _ _ _ => .randomized

/-- The parts of an interval function. -/
def intervalParts : Interval → IntervalParts
  | .fixed interval => { IntervalParts.blank with interval }
  | .exponential initial multiplier max => { IntervalParts.blank with initial, multiplier, max }
  | .randomized initial multiplier max factor =>
    { IntervalParts.blank with initial, multiplier, max, factor }

/-- The deepest nesting of containers in a document with an interval function, which is read as a
whole before its type is known. -/
abbrev maxDepth : Nat := 127

/-- Read an interval function that stands inside `level` containers: an object with one tag, or an
array that starts with the tag.  Unknown fields are ignored once they prove sound. -/
def intervalOf?
    (level : Nat)
    (document : Document) : Option Interval :=
  if document.sound && decide (level + document.depth ≤ maxDepth) then
    match document with
    | .object entries =>
      match valuesAt "type" entries with
      | [tag] => do
        let t ← IntervalType.ofTag? tag
        return t.build (← t.record.ofAllEntries? entries)
      | _ => none
    | .array (tag :: items) => do
      let t ← IntervalType.ofTag? tag
      return t.build (← t.record.ofWhole? (.array items))
    | _ => none
  else none

/-- Write an interval function: its tag, then its parts. -/
def intervalDocument (i : Interval) : Document :=
  .object ((some "type", .ofText (intervalType i).label)
    :: (intervalType i).record.fields.map fun field =>
      (some field.key, field.write (intervalParts i)))

end Json
end FaultTolerance
