import FaultTolerance.Json.Token
import FaultTolerance.Text.Layout

/-!
# JSON documents

A document is a tree of objects, arrays and scalars.  An object keeps its fields in the order
written, repeated keys included, since a repeated setting is refused.

## Main definitions

* `Document`: documents.
* `Document.ofText?`: the document written in a text.
* `Document.depth`: how deep containers are nested.
* `Document.sound`: whether every string has a content and every number a finite value.
* `Document.inspect`: the inspection text of a document.
-/

namespace FaultTolerance
namespace Json

open Numeric Text

/-- A JSON document. -/
inductive Document where
  | null
  | truth (b : Bool)
  | number (n : Numeral)
  | string (content : Option String)
  | array (items : List Document)
  | object (fields : List (Option String × Document))

namespace Document

/-! ### Reading -/

mutual

/-- The document at the head of the tokens. -/
def first : (bound : Nat) → List Token → Option (Document × List Token)
  | 0, _ => none
  | bound + 1, tokens =>
    match tokens with
    | .null :: rest => some (.null, rest)
    | .truth b :: rest => some (.truth b, rest)
    | .number n :: rest => some (.number n, rest)
    | .string s :: rest => some (.string s, rest)
    | .openArray :: .closeArray :: rest => some (.array [], rest)
    | .openArray :: rest => (items bound rest).map fun (found, rest) => (.array found, rest)
    | .openObject :: .closeObject :: rest => some (.object [], rest)
    | .openObject :: rest => (fields bound rest).map fun (found, rest) => (.object found, rest)
    | _ => none

/-- The items of an array that has at least one more. -/
def items : (bound : Nat) → List Token → Option (List Document × List Token)
  | 0, _ => none
  | bound + 1, tokens => do
    let (item, rest) ← first bound tokens
    match rest with
    | .comma :: rest =>
      let (later, rest) ← items bound rest
      return (item :: later, rest)
    | .closeArray :: rest => return ([item], rest)
    | _ => none

/-- The fields of an object that has at least one more. -/
def fields : (bound : Nat) → List Token → Option (List (Option String × Document) × List Token)
  | 0, _ => none
  | bound + 1, tokens =>
    match tokens with
    | .string key :: .colon :: rest => do
      let (value, rest) ← first bound rest
      match rest with
      | .comma :: rest =>
        let (later, rest) ← fields bound rest
        return ((key, value) :: later, rest)
      | .closeObject :: rest => return ([(key, value)], rest)
      | _ => none
    | _ => none

end

/-- The document written in a text, with nothing but blanks around it. -/
def ofText? (text : String) : Option Document := do
  let tokens ← Json.tokens text
  match ← first (2 * tokens.length) tokens with
  | (document, []) => return document
  | _ => none

/-! ### Measures -/

mutual

/-- How deep containers are nested: none in a scalar. -/
def depth : Document → Nat
  | .array items => depthOfItems items + 1
  | .object fields => depthOfFields fields + 1
  | _ => 0

/-- The greatest depth of the items of an array. -/
def depthOfItems : List Document → Nat
  | [] => 0
  | item :: later => max item.depth (depthOfItems later)

/-- The greatest depth of the values of an object. -/
def depthOfFields : List (Option String × Document) → Nat
  | [] => 0
  | (_, value) :: later => max value.depth (depthOfFields later)

end

mutual

/-- Whether every string has a content and every number lies within double precision. -/
def sound : Document → Bool
  | .number n => (n.value.toBinary : Binary64).isFinite
  | .string content => content.isSome
  | .array items => soundItems items
  | .object fields => soundFields fields
  | _ => true

/-- Whether every item of an array is sound. -/
def soundItems : List Document → Bool
  | [] => true
  | item :: later => item.sound && soundItems later

/-- Whether every key and every value of an object is sound. -/
def soundFields : List (Option String × Document) → Bool
  | [] => true
  | (key, value) :: later => key.isSome && value.sound && soundFields later

end

/-! ### Inspection -/

/-- A number as text: an integer of 64 bits by its digits, any other number in graded text. -/
def numeralText (n : Numeral) : String :=
  let real := (n.value.toBinary : Binary64).gradedTo 5
  match n.integer with
  | some i => if -0x8000000000000000 ≤ i ∧ i < 0x10000000000000000 then toString i else real
  | none => real

mutual

/-- The document as text: each part with the name of its kind. -/
def inspect : Document → String
  | .null => "Null"
  | .truth b => Layout.wrapped "Bool" (Layout.truth b)
  | .number n => Layout.wrapped "Number" (numeralText n)
  | .string content => Layout.wrapped "String" (Layout.quoted (content.getD ""))
  | .array items => "Array " ++ Layout.listed (inspectItems items)
  | .object fields => "Object \x7b" ++ ", ".intercalate (inspectFields fields) ++ "\x7d"

/-- The items of an array as text. -/
def inspectItems : List Document → List String
  | [] => []
  | item :: later => item.inspect :: inspectItems later

/-- The fields of an object as text. -/
def inspectFields : List (Option String × Document) → List String
  | [] => []
  | (key, value) :: later =>
    (Layout.quoted (key.getD "") ++ ": " ++ value.inspect) :: inspectFields later

end

/-! ### Scalars -/

/-- The natural number up to `limit` that a document is. -/
def natural
    (limit : Nat) : Document → Option Nat
  | .number ⟨⟨false, n, _⟩, true⟩ => if n ≤ limit then some n else none
  | _ => none

/-- The integer that a document is. -/
def integer : Document → Option Int
  | .number n => n.integer
  | _ => none

/-- The truth value that a document is. -/
def boolean : Document → Option Bool
  | .truth b => some b
  | _ => none

/-- The text that a document is. -/
def text : Document → Option String
  | .string content => content
  | _ => none

/-- The first value that an object has under a key. -/
def member?
    (document : Document)
    (key : String) : Option Document :=
  match document with
  | .object fields => fields.lookup (some key)
  | _ => none

/-- A negative integer below the signed and within the unsigned 64-bit range. -/
def isLongNegative (n : Numeral) : Bool :=
  n.integral && n.value.negative
    && decide (0x8000000000000000 < n.value.digits)
    && decide (n.value.digits < 0x10000000000000000)

/-- The finite value that a document is, in either format.  A negative integer that needs more than
64 bits with its sign is first rounded to double precision. -/
def real
    {f : Format} : Document → Option (Binary f)
  | .number n =>
    let value : Binary f :=
      if isLongNegative n then (n.value.toBinary : Binary64).convert else n.value.toBinary
    if value.isFinite then some value else none
  | _ => none

/-- The document of a natural number. -/
def ofNatural (n : Nat) : Document :=
  .number ⟨⟨false, n, 0⟩, true⟩

/-- The document of an integer. -/
def ofInteger (n : Int) : Document :=
  .number ⟨⟨decide (n < 0), n.natAbs, 0⟩, true⟩

/-- The document of a text. -/
def ofText (s : String) : Document :=
  .string (some s)

/-- An object with these fields. -/
def ofFields (fields : List (String × Document)) : Document :=
  .object (fields.map fun field => (some field.1, field.2))

/-- The document of a finite value, written out exactly; there is none for any other value. -/
def ofReal
    {f : Format} : Binary f → Document
  | .finite negative quanta _ => .number ⟨Decimal.ofQuanta f negative quanta, false⟩
  | _ => .null

end Document

end Json
end FaultTolerance
