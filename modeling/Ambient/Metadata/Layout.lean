import Ambient.Metadata.DecodeError

/-!
# Records in JSON

Every record of the metadata can be written in two ways: as an object with a key for each field,
and as an array of the fields in a fixed order.  Fields may be left out; at most the first one is
needed.

## What is here

* `Layout α` — how the records of type `α` are written: name, fields, and the record with nothing
  given.
* `Layout.Content` — what the value of a field is.  A field may hold records of the same layout.
* `Layout.decode` — the record that a value writes, or the first error.  An object is read in the
  order of its keys, an array in the order of its items; keys that name no field are passed over.
-/

set_option autoImplicit false

namespace Ambient

/-- The result of reading a value as a part of the metadata. -/
abbrev Decoded (α : Type) := Except DecodeError α

/-! ## Values without a layout -/

namespace Json

/-- A string. -/
def decodeString : Json → Decoded String
  | .string s => .ok s
  | other => .error (.wrongType other .string)

/-- A truth value. -/
def decodeBool : Json → Decoded Bool
  | .bool b => .ok b
  | other => .error (.wrongType other .boolean)

/-- A value that may be `null`. -/
def decodeOption {α : Type} (decode : Json → Decoded α) : Json → Decoded (Option α)
  | .null => .ok none
  | value => (decode value).map some

/-- An array of values; `null` stands for the empty one. -/
def decodeList {α : Type} (decode : Json → Decoded α) : Json → Decoded (List α)
  | .null => .ok []
  | .array items => items.mapM decode
  | other => .error (.wrongType other .sequence)

end Json

/-! ## Layouts -/

/-- What the value of a field is, and where it goes. -/
inductive Layout.Content (α : Type) where
  /-- A value of its own. -/
  | plain (decode : Json → α → Decoded α)
  /-- A record of the same layout, or `null` for none. -/
  | one (store : Option α → α → α)
  /-- An array of records of the same layout, or `null` for none. -/
  | many (store : List α → α → α)

/-- A field: its key and what it holds. -/
structure Layout.Field (α : Type) where
  key : String
  content : Layout.Content α

/-- How the records of a type are written. -/
structure Layout (α : Type) where
  name : String
  /-- The first field must be given. -/
  needsFirst : Bool
  /-- The record with nothing given. -/
  blank : α
  /-- The fields in the order in which an array lists them. -/
  fields : List (Layout.Field α)

namespace Layout

variable {α : Type}

/-- A field that holds a value of its own. -/
def Field.of {β : Type} (key : String) (decode : Json → Decoded β) (store : β → α → α) : Field α :=
  ⟨key, .plain fun value record => (decode value).map fun b => store b record⟩

/-- The field with a key. -/
def field? (layout : Layout α) (key : String) : Option (Field α) :=
  layout.fields.find? fun f => f.key == key

/-- Puts the value of a field into a record, given its readings as one record of the same layout
and as an array of such records. -/
def Content.put (content : Content α) (value : Json) (asOne : Unit → Decoded α)
    (asMany : Unit → Decoded (List α)) (record : α) : Decoded α :=
  match content, value with
  | .plain decode, _ => decode value record
  | .one store, .null => .ok (store none record)
  | .one store, _ => (asOne ()).map fun r => store (some r) record
  | .many store, _ => (asMany ()).map fun rs => store rs record

/-- The key of the field that must be given, if it is not among the given keys. -/
def missing? (layout : Layout α) (given : List (String × Json)) : Option String :=
  match layout.needsFirst, layout.fields with
  | true, f :: _ => if (given.lookup f.key).isSome then none else some f.key
  | _, _ => none

/-- What an object yields once its fields have been read. -/
def closeObject (layout : Layout α) (given : List (String × Json)) (record : α) : Decoded α :=
  match layout.missing? given with
  | some key => .error (.missingField key)
  | none => .ok record

/-- What an array of `size` items yields once its fields have been read. -/
def closeArray (layout : Layout α) (size : Nat) (record : α) : Decoded α :=
  if layout.fields.length < size then .error (.tooManyItems size)
  else if layout.needsFirst && size == 0 then
    .error (.tooFewItems 0 layout.name layout.fields.length)
  else .ok record

/-! ## Reading -/

mutual

/-- The record that a value writes. -/
def decode (layout : Layout α) : Json → Decoded α
  | .object given => do layout.closeObject given (← decodeFields layout given layout.blank)
  | .array items => do
    layout.closeArray items.length (← decodeItems layout layout.fields items layout.blank)
  | other => .error (.wrongType other (.record layout.name))

/-- Puts the given fields of an object into a record. -/
def decodeFields (layout : Layout α) : List (String × Json) → α → Decoded α
  | [], record => .ok record
  | (key, value) :: rest, record => do
    let record ← match layout.field? key with
      | none => .ok record
      | some f =>
        f.content.put value (fun _ => decode layout value) (fun _ => decodeMany layout value) record
    decodeFields layout rest record

/-- Puts the items of an array into the fields of a record, in their order. -/
def decodeItems (layout : Layout α) : List (Field α) → List Json → α → Decoded α
  | f :: fields, value :: rest, record => do
    let record ←
      f.content.put value (fun _ => decode layout value) (fun _ => decodeMany layout value) record
    decodeItems layout fields rest record
  | _, _, record => .ok record

/-- The records that an array writes; `null` stands for the empty one. -/
def decodeMany (layout : Layout α) : Json → Decoded (List α)
  | .null => .ok []
  | .array items => decodeAll layout items
  | other => .error (.wrongType other .sequence)

/-- The records that several values write. -/
def decodeAll (layout : Layout α) : List Json → Decoded (List α)
  | [] => .ok []
  | value :: rest => do
    let record ← decode layout value
    let records ← decodeAll layout rest
    .ok (record :: records)

end

end Layout
end Ambient
