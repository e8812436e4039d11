import Ambient.Decimal.Shortest

/-!
# JSON values

The metadata is written in JSON.  A value keeps what the metadata may depend on and no more:
integers that fit 64 bits are told from other numbers, and the fields of an object are in the order
of their keys, with one field for each key.

## What is here

* `Json.Number` — an integer, or a number of double precision with its sign.
* `Json` — values.
* `Json.insertField` — the fields of an object with one more; of two fields with one key the later
  stays.
* `Json.field` — the value under a key.
-/

set_option autoImplicit false

namespace Ambient

namespace Json

/-- A number: an integer that fits 64 bits, signed or unsigned, or anything else. -/
inductive Number where
  | integer (value : Int)
  | float (negative : Bool) (magnitude : Binary64)
deriving DecidableEq, Repr

/-- Numbers whose leading digit has an exponent from -5 to 15 are shown without an exponent. -/
def numberFormat : Decimal.Format := ⟨-5, 15⟩

end Json

/-- A JSON value. -/
inductive Json where
  | null
  | bool (value : Bool)
  | number (value : Json.Number)
  | string (value : String)
  | array (items : List Json)
  | object (fields : List (String × Json))
deriving Repr, Inhabited

namespace Json

/-! ## Objects -/

/-- The fields of an object with one more, in the order of their keys.  A field that is there
already under the same key is replaced. -/
def insertField (key : String) (value : Json) : List (String × Json) → List (String × Json)
  | [] => [(key, value)]
  | e :: rest =>
    if key = e.1 then (key, value) :: rest
    else if key < e.1 then (key, value) :: e :: rest
    else e :: insertField key value rest

/-- The value under a key of an object, and `null` if there is none. -/
def field (value : Json) (key : String) : Json :=
  match value with
  | object fields => (fields.lookup key).getD null
  | _ => null

end Json
end Ambient
