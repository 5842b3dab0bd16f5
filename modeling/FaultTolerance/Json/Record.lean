import FaultTolerance.Json.Document

/-!
# Records in JSON

A record is written as an object.  It is read from an object whose missing fields keep their
standard values and whose unknown fields are ignored, or from an array that gives the first few
fields in order.  A repeated field is refused.

## Main definitions

* `Field`: one field of a record, how it is read and written.
* `Record`: the standard value of a record and its fields.
* `Record.ofDocument?`, `Record.toDocument`: reading and writing.
-/

namespace FaultTolerance
namespace Json

/-- A field of a record of type `α`. -/
structure Field (α : Type) where
  key : String
  read : Document → α → Option α
  write : α → Document

namespace Field

variable {α β : Type}

/-- A field that is read and written by its own rules and kept in one place of the record. -/
def of
    (key : String)
    (decode : Document → Option β)
    (encode : β → Document)
    (get : α → β)
    (put : β → α → α) : Field α where
  key := key
  read := fun document record => (decode document).map (put · record)
  write := fun record => encode (get record)

end Field

/-- The values that an object gives to a key, in order. -/
def valuesAt
    (key : String)
    (entries : List (Option String × Document)) : List Document :=
  (entries.filter fun entry => entry.1 == some key).map (·.2)

/-- Whether every key of an object has a content. -/
def keysSound (entries : List (Option String × Document)) : Bool :=
  entries.all fun entry => entry.1.isSome

/-- A record: its standard value, and its fields in order. -/
structure Record (α : Type) where
  standard : α
  fields : List (Field α)

namespace Record

variable {α : Type}

/-- Read one field from an object, if the object has it, once. -/
def readField
    (entries : List (Option String × Document))
    (record : α)
    (field : Field α) : Option α :=
  match valuesAt field.key entries with
  | [] => some record
  | [value] => field.read value record
  | _ => none

/-- Read a record from an object. -/
def ofEntries?
    (r : Record α)
    (entries : List (Option String × Document)) : Option α :=
  if keysSound entries then r.fields.foldlM (readField entries) r.standard else none

/-- Read the first fields of a record from as many items. -/
def ofItems?
    (record : α) : List (Field α) → List Document → Option α
  | _, [] => some record
  | [], _ :: _ => none
  | field :: fields, item :: items => do
    ofItems? (← field.read item record) fields items

/-- Read a record. -/
def ofDocument?
    (r : Record α) : Document → Option α
  | .object entries => r.ofEntries? entries
  | .array items => ofItems? r.standard r.fields items
  | _ => none

/-- Write a record as an object with every field. -/
def toDocument
    (r : Record α)
    (record : α) : Document :=
  .object (r.fields.map fun field => (some field.key, field.write record))

/-! ### Complete records -/

/-- Read one field that an object must have, once. -/
def demandField
    (entries : List (Option String × Document))
    (record : α)
    (field : Field α) : Option α :=
  match valuesAt field.key entries with
  | [value] => field.read value record
  | _ => none

/-- Read a record whose fields must all be there, from an object. -/
def ofAllEntries?
    (r : Record α)
    (entries : List (Option String × Document)) : Option α :=
  if keysSound entries then r.fields.foldlM (demandField entries) r.standard else none

/-- Read a record whose fields must all be there. -/
def ofWhole?
    (r : Record α) : Document → Option α
  | .object entries => r.ofAllEntries? entries
  | .array items =>
    if items.length = r.fields.length then ofItems? r.standard r.fields items else none
  | _ => none

end Record

end Json
end FaultTolerance
