import Ambient.Metadata.Basic
import Ambient.Metadata.Layout

/-!
# Metadata in JSON

The layouts of the records of the metadata, and with them the reading of a whole document.

## What is here

* `TypeRef.ofJson?` — a type is a string, or an array of types.
* `ModuleKind.decode` — a kind is its name, or an object with that name as its only key and `null`
  under it.
* `Param.layout`, `Method.layout`, … `Module.layout` — one layout for each record, and `decode` in
  the namespace of each.
* `Module.decodeAll` — a document is an array of modules, or one module.
-/

set_option autoImplicit false

namespace Ambient

open Layout Json

/-! ## Types and kinds -/

mutual

/-- The type that a value writes. -/
def TypeRef.ofJson? : Json → Option TypeRef
  | .string n => some (.name n)
  | .array items => (TypeRef.ofItems? items).map .union
  | _ => none

/-- The types that several values write. -/
def TypeRef.ofItems? : List Json → Option (List TypeRef)
  | [] => some []
  | value :: rest => do
    let type ← TypeRef.ofJson? value
    let types ← TypeRef.ofItems? rest
    some (type :: types)

end

/-- The type that a value writes, or the error. -/
def TypeRef.decode (value : Json) : Decoded TypeRef :=
  match TypeRef.ofJson? value with
  | some type => .ok type
  | none => .error .noType

/-- The kind of a name. -/
def ModuleKind.named : String → Decoded ModuleKind
  | "Class" => .ok .classKind
  | "Module" => .ok .moduleKind
  | "Structure" => .ok .structureKind
  | other => .error (.unknownKind other)

/-- The kind that a value writes. -/
def ModuleKind.decode : Json → Decoded ModuleKind
  | .string name => ModuleKind.named name
  | .object [(name, value)] => do
    let kind ← ModuleKind.named name
    match value with
    | .null => .ok kind
    | other => .error (.wrongType other .unit)
  | .object _ => .error .notSingleKey
  | other => .error (.wrongType other .stringOrMap)

/-! ## Values -/

/-- How a possible value is written. -/
def PossibleValue.layout : Layout PossibleValue where
  name := "PossibleValue"
  needsFirst := true
  blank := { value := "" }
  fields := [
    .of "value" decodeString fun v r => { r with value := v },
    .of "description" (decodeOption decodeString) fun v r => { r with description := v }]

/-- The possible value that a JSON value writes. -/
def PossibleValue.decode (value : Json) : Decoded PossibleValue := PossibleValue.layout.decode value

/-- How a value of the API is written. -/
def Param.layout : Layout Param where
  name := "ParamDescriptor"
  needsFirst := false
  blank := {}
  fields := [
    .of "name" decodeString fun v r => { r with name := v },
    .of "type" TypeRef.decode fun v r => { r with type := v },
    .of "description" (decodeOption decodeString) fun v r => { r with description := v },
    .of "required" (decodeOption decodeBool) fun v r => { r with required := v },
    .of "collection" decodeBool fun v r => { r with collection := v },
    ⟨"properties", .many fun v r => { r with properties := v }⟩,
    ⟨"parameters", .many fun v r => { r with parameters := v }⟩,
    ⟨"returns", .one fun v r => { r with returns := v }⟩,
    .of "possibleValues" (decodeList PossibleValue.decode) fun v r =>
      { r with possibleValues := v }]

/-- The value of the API that a JSON value writes. -/
def Param.decode (value : Json) : Decoded Param := Param.layout.decode value

/-! ## Members -/

/-- How a method is written. -/
def Method.layout : Layout Method where
  name := "MethodDescriptor"
  needsFirst := true
  blank := { name := "" }
  fields := [
    .of "name" decodeString fun v r => { r with name := v },
    .of "description" (decodeOption decodeString) fun v r => { r with description := v },
    .of "parameters" (decodeList Param.decode) fun v r => { r with parameters := v },
    .of "returns" (decodeOption Param.decode) fun v r => { r with returns := v }]

/-- The method that a JSON value writes. -/
def Method.decode (value : Json) : Decoded Method := Method.layout.decode value

/-- How a constructor is written. -/
def Constructor.layout : Layout Constructor where
  name := "ConstructorDescriptor"
  needsFirst := false
  blank := {}
  fields := [
    .of "description" (decodeOption decodeString) fun v r => { r with description := v },
    .of "parameters" (decodeList Param.decode) fun v r => { r with parameters := v }]

/-- The constructor that a JSON value writes. -/
def Constructor.decode (value : Json) : Decoded Constructor := Constructor.layout.decode value

/-- How an event is written. -/
def Event.layout : Layout Event where
  name := "EventDescriptor"
  needsFirst := true
  blank := { name := "" }
  fields := [
    .of "name" decodeString fun v r => { r with name := v },
    .of "description" (decodeOption decodeString) fun v r => { r with description := v },
    .of "returns" (decodeList Param.decode) fun v r => { r with arguments := v }]

/-- The event that a JSON value writes. -/
def Event.decode (value : Json) : Decoded Event := Event.layout.decode value

/-! ## Modules -/

/-- How the processes of a module are written. -/
def Availability.layout : Layout Availability where
  name := "ProcessAvailability"
  needsFirst := false
  blank := {}
  fields := [
    .of "main" decodeBool fun v r => { r with main := v },
    .of "renderer" decodeBool fun v r => { r with renderer := v }]

/-- The processes that a JSON value writes. -/
def Availability.decode (value : Json) : Decoded Availability := Availability.layout.decode value

/-- How a module is written. -/
def Module.layout : Layout Module where
  name := "ModuleDescriptor"
  needsFirst := true
  blank := { name := "" }
  fields := [
    .of "name" decodeString fun v r => { r with name := v },
    .of "type" ModuleKind.decode fun v r => { r with kind := v },
    .of "description" (decodeOption decodeString) fun v r => { r with description := v },
    .of "websiteUrl" decodeString fun v r => { r with websiteUrl := v },
    .of "process" (decodeOption Availability.decode) fun v r => { r with availability := v },
    .of "constructorMethod" (decodeOption Constructor.decode) fun v r =>
      { r with construction := v },
    .of "staticMethods" (decodeList Method.decode) fun v r => { r with staticMethods := v },
    .of "methods" (decodeList Method.decode) fun v r => { r with methods := v },
    .of "instanceMethods" (decodeList Method.decode) fun v r => { r with instanceMethods := v },
    .of "instanceProperties" (decodeList Param.decode) fun v r =>
      { r with instanceProperties := v },
    .of "properties" (decodeList Param.decode) fun v r => { r with properties := v },
    .of "events" (decodeList Event.decode) fun v r => { r with events := v },
    .of "instanceEvents" (decodeList Event.decode) fun v r => { r with instanceEvents := v }]

/-- The module that a JSON value writes. -/
def Module.decode (value : Json) : Decoded Module := Module.layout.decode value

/-- The modules of a document: an array of them, or one. -/
def Module.decodeAll : Json → Decoded (List Module)
  | .array items => items.mapM Module.decode
  | value => (Module.decode value).map fun m => [m]

end Ambient
