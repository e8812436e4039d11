import Ambient.TypeMap

/-!
# Keys of object shapes

Objects with the same fields share one interface.  The key of a shape is a text from which that can
be read off: the name, the optionality and the type of every field, in an order that does not
depend on the order in which the fields are described.  Descriptions play no part.

## What is here

* `optionalMark p` — the `?` behind the name of an optional value.
* `typeKey`, `fieldKey` — the key of the type of a value, and of a value with its name.
* `shapeKey types fields` — the key of an object with these fields.
-/

set_option autoImplicit false

namespace Ambient

/-! ## Pieces of keys -/

/-- What stands behind the name of a value: a question mark if it is optional. -/
def optionalMark (p : Param) : String := if p.isOptional then "?" else ""

/-- A string between single quotes. -/
def literal (v : PossibleValue) : String := "'" ++ v.value ++ "'"

/-- The keys of the fields of an object, in order, between braces. -/
def joinFieldKeys (keys : List String) : String :=
  "\x7b" ++ String.intercalate ";" (keys.mergeSort fun a b => !decide (b < a)) ++ "\x7d"

/-! ## Keys -/

mutual

/-- The key of the type of a value. -/
def typeKey (types : TypeMap) : Param → String
  | ⟨name, type, description, required, collection, properties, parameters, returns,
      possibleValues⟩ =>
    let p : Param := ⟨name, type, description, required, collection, properties, parameters,
      returns, possibleValues⟩
    let base :=
      if !possibleValues.isEmpty then String.intercalate "|" (possibleValues.map literal)
      else if p.isObjectShape then joinFieldKeys (fieldKeys types properties)
      else if p.isCallback then
        "(" ++ String.intercalate "," (fieldKeys types parameters) ++ ")=>"
          ++ resultKey types returns
      else types.mapType type
    if collection then base ++ "[]" else base

/-- The keys of values with their names. -/
def fieldKeys (types : TypeMap) : List Param → List String
  | [] => []
  | p :: rest => (p.name ++ optionalMark p ++ ":" ++ typeKey types p) :: fieldKeys types rest

/-- The key of what a function returns. -/
def resultKey (types : TypeMap) : Option Param → String
  | none => "void"
  | some p => typeKey types p

end

/-- The key of a value with its name. -/
def fieldKey (types : TypeMap) (p : Param) : String :=
  p.name ++ optionalMark p ++ ":" ++ typeKey types p

/-- The key of an object with these fields. -/
def shapeKey (types : TypeMap) (fields : List Param) : String :=
  joinFieldKeys (fieldKeys types fields)

theorem fieldKeys_eq_map (types : TypeMap) (fields : List Param) :
    fieldKeys types fields = fields.map (fieldKey types) := by
  induction fields with
  | nil => rfl
  | cons p rest ih => rw [fieldKeys, ih, List.map_cons, fieldKey]

end Ambient
