import Ambient.Json.Value
import Ambient.Text.Quoted

/-!
# JSON that is no metadata

Why a JSON value cannot be read as a part of the metadata.

## What is here

* `Wanted` — what should have stood in the place of a value.
* `DecodeError` — the causes, with a sentence for each in `DecodeError.message`.
-/

set_option autoImplicit false

namespace Ambient

open Text

/-! ## What was found and what was wanted -/

/-- A value as an error names it. -/
def Json.described : Json → String
  | .null => "null"
  | .bool true => "boolean `true`"
  | .bool false => "boolean `false`"
  | .number (.integer n) => s!"integer `{n}`"
  | .number (.float negative x) => s!"floating point `{Json.numberFormat.text negative x}`"
  | .string s => s!"string {quoted s}"
  | .array _ => "sequence"
  | .object _ => "map"

/-- What should have stood in the place of a value. -/
inductive Wanted where
  | string
  | boolean
  | sequence
  | unit
  | stringOrMap
  /-- A record of the metadata, by its name. -/
  | record (name : String)
deriving Repr, DecidableEq

/-- What was wanted, as an error names it. -/
def Wanted.described : Wanted → String
  | string => "a string"
  | boolean => "a boolean"
  | sequence => "a sequence"
  | unit => "unit"
  | stringOrMap => "string or map"
  | record name => s!"struct {name}"

/-! ## Errors -/

/-- Why a JSON value cannot be read as a part of the metadata. -/
inductive DecodeError where
  /-- A value of another type stands in the place. -/
  | wrongType (found : Json) (wanted : Wanted)
  /-- A kind that is written as an object must be its only key. -/
  | notSingleKey
  /-- A record lacks a field that it must have. -/
  | missingField (key : String)
  /-- A record that is written as an array of `size` items lacks an item that it must have. -/
  | tooFewItems (size : Nat) (record : String) (fields : Nat)
  /-- A record that is written as an array has more items than fields. -/
  | tooManyItems (size : Nat)
  /-- No kind of module is called so. -/
  | unknownKind (name : String)
  /-- Neither a name of a type nor an array of types. -/
  | noType
deriving Repr

/-- The error in one sentence. -/
def DecodeError.message : DecodeError → String
  | wrongType found wanted => s!"invalid type: {found.described}, expected {wanted.described}"
  | notSingleKey => "invalid value: map, expected map with a single key"
  | missingField key => s!"missing field `{key}`"
  | tooFewItems size record fields =>
    s!"invalid length {size}, expected struct {record} with {fields} elements"
  | tooManyItems size => s!"invalid length {size}, expected fewer elements in array"
  | unknownKind name =>
    s!"unknown variant `{name}`, expected one of `Class`, `Module`, `Structure`"
  | noType => "data did not match any variant of untagged enum TypeRef"

end Ambient
