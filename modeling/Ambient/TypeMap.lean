import Ambient.Dictionary
import Ambient.Metadata.Basic

/-!
# Names of types

The documentation names types in its own words (`Integer`, `URL`, `BrowserWindow[]`); a type map
says how each is spelled in a declaration.  A name that is not mapped is spelled as it is, which is
how references to other declarations pass through.

## What is here

* `arrayOf t` — the array type of a type expression.  A union and a function type are put between
  parentheses first.
* `TypeMap` — spellings by name, without regard to letter case; `TypeMap.builtin` has the usual
  ones.
* `TypeMap.mapName` — a name with any number of `[]` behind it: the element is spelled, and
  `arrayOf` is applied for each `[]`.
* `TypeMap.mapType`, `TypeMap.mapParam` — a choice of types, and the type of a value.
-/

set_option autoImplicit false

namespace Ambient

open Text

/-! ## Arrays -/

/-- The array type of a type expression. -/
def arrayOf (element : String) : String :=
  if occursIn " | ".toList element.toList || occursIn "=>".toList element.toList then
    "(" ++ element ++ ")[]"
  else element ++ "[]"

/-- The array type of an array type, and so on. -/
def arrayOfDepth : Nat → String → String
  | 0, element => element
  | depth + 1, element => arrayOf (arrayOfDepth depth element)

theorem arrayOfDepth_succ (depth : Nat) (element : String) :
    arrayOfDepth (depth + 1) element = arrayOf (arrayOfDepth depth element) := rfl

/-- Takes `[]` off the end of a name, which is read backwards, as long as there is one, along with
the blanks that come to light; counts how many. -/
def peelArrays (s : List Char) : Nat × List Char :=
  match s with
  | ']' :: '[' :: rest =>
    let (depth, element) := peelArrays (rest.dropWhile Character.isBlank)
    (depth + 1, element)
  | other => (0, other)
termination_by s.length
decreasing_by
  have h := (List.dropWhile_sublist Character.isBlank (l := rest)).length_le
  simp only [List.length_cons]
  omega

/-! ## Type maps -/

/-- How the names of types are spelled.  The keys are in small letters. -/
structure TypeMap where
  spellings : Dictionary String

namespace TypeMap

/-- Maps no name. -/
def empty : TypeMap := ⟨Dictionary.empty⟩

instance : Inhabited TypeMap := ⟨empty⟩

/-- Maps a name, in whatever case it is written. -/
def register (types : TypeMap) (name spelling : String) : TypeMap :=
  ⟨types.spellings.insert (lowercase name) spelling⟩

/-- Maps a name no longer. -/
def unregister (types : TypeMap) (name : String) : TypeMap :=
  ⟨types.spellings.erase (lowercase name)⟩

/-- The spelling of a name. -/
def get? (types : TypeMap) (name : String) : Option String :=
  types.spellings.get? (lowercase name)

/-- The name is mapped. -/
def contains (types : TypeMap) (name : String) : Bool := (types.get? name).isSome

/-- The usual spellings. -/
def builtinSpellings : List (String × String) := [
  ("string", "string"),
  ("url", "string"),
  ("number", "number"),
  ("integer", "number"),
  ("double", "number"),
  ("float", "number"),
  ("boolean", "boolean"),
  ("object", "any"),
  ("any", "any"),
  ("array", "any[]"),
  ("buffer", "Buffer"),
  ("promise", "Promise<any>"),
  ("function", "Function"),
  ("undefined", "void")]

/-- Adds the usual spellings. -/
def registerBuiltins (types : TypeMap) : TypeMap :=
  builtinSpellings.foldl (fun ts e => ts.register e.1 e.2) types

/-- Has the usual spellings. -/
def builtin : TypeMap := empty.registerBuiltins

theorem get?_register_self (types : TypeMap) (name spelling : String) :
    (types.register name spelling).get? name = some spelling :=
  Dictionary.get?_insert_self _ _ _

theorem get?_register_of_ne (types : TypeMap) {name other : String} (spelling : String)
    (h : lowercase other ≠ lowercase name) :
    (types.register name spelling).get? other = types.get? other :=
  Dictionary.get?_insert_of_ne _ h _

/-! ## Spelling -/

/-- The spelling of a name without `[]`. -/
def mapElement (types : TypeMap) (name : String) : String :=
  if name.isEmpty then "any" else (types.get? name).getD name

/-- The spelling of a name with any number of `[]` behind it. -/
def mapName (types : TypeMap) (name : String) : String :=
  let (depth, element) := peelArrays (trim name.toList).reverse
  arrayOfDepth depth (types.mapElement (String.ofList element.reverse))

mutual

/-- The spelling of a type. -/
def mapType (types : TypeMap) : TypeRef → String
  | .name n => types.mapName n
  | .union members => String.intercalate " | " (mapTypes types members)

/-- The spellings of several types. -/
def mapTypes (types : TypeMap) : List TypeRef → List String
  | [] => []
  | member :: rest => mapType types member :: mapTypes types rest

end

theorem mapTypes_eq_map (types : TypeMap) (members : List TypeRef) :
    types.mapTypes members = members.map types.mapType := by
  induction members with
  | nil => rfl
  | cons m rest ih => rw [mapTypes, ih, List.map_cons]

/-- The spelling of a type, as an array if it is the type of a collection. -/
def mapCollection (types : TypeMap) (type : TypeRef) (collection : Bool) : String :=
  if collection then arrayOf (types.mapType type) else types.mapType type

/-- The spelling of the type of a value. -/
def mapParam (types : TypeMap) (p : Param) : String := types.mapCollection p.type p.collection

end TypeMap
end Ambient
