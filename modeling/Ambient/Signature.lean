import Ambient.DocComment
import Ambient.Interner
import Ambient.MissingName
import Ambient.ParameterName
import Ambient.ShapeKey
import Ambient.Text.CamelCase

/-!
# Signatures

The type expressions of a declaration: parameter lists, results, listeners of events, and the
fields of interfaces.  Writing one may intern object shapes, so every function here runs on an
interner; when a name is missing the interner keeps what has been claimed so far.

## What is here

* `Synthesis α` — a result or a missing name, and the interner afterwards in both cases.
* `Site`, `Naming` — where a type is written, and from which words the name of an interface is made
  there.
* `intern` — the interface for a key: the one that has it, or a new one whose body is written now.
* `valueType`, `parameterTexts`, `resultType`, `interfaceLines` — one recursion over a value and all
  that it is made of.
* `parameterList`, `functionType`, `returnType`, `listener`, `internShape` — what declarations are
  put together from.
-/

set_option autoImplicit false

namespace Ambient

open Text

/-- A computation that may intern shapes and may find a name missing. -/
abbrev Synthesis (α : Type) := ExceptT MissingName (StateM Interner) α

/-- Where a type is written. -/
structure Site where
  /-- The module, or the interface, whose declaration is written. -/
  owner : String
  /-- The member of it. -/
  member : String
  /-- Words that constructors put in front of the names of their interfaces. -/
  seed : Option String := none
deriving Repr, BEq, DecidableEq

/-- From which words the name of a new interface is made, in front of the name of the value. -/
structure Naming where
  /-- In front of the first choice. -/
  seed : String := ""
  /-- In front of the second. -/
  fallback : String := ""
deriving Repr, BEq, DecidableEq

namespace Naming

/-- Names for the shapes of parameters.  Options are named after the module and the member that
take them. -/
def ofParameter (site : Site) (name : String) : Naming :=
  if name = "options" then ⟨upperFirst site.owner ++ upperFirst site.member, ""⟩
  else ⟨(site.seed.map upperFirst).getD "", upperFirst site.member⟩

/-- Names for the shapes of results. -/
def ofResult (member : String) : Naming := ⟨upperFirst member, ""⟩

/-- Names for the shapes of fields. -/
def ofField (owner : String) : Naming := ⟨"", owner⟩

/-- Names for the shapes of the arguments of a listener. -/
def ofArgument (event name : String) : Naming :=
  let words := upperFirst (camelCase event)
  if name = "params" then ⟨words, ""⟩ else ⟨"", words⟩

end Naming

namespace Signature

/-! ## Pieces -/

/-- The array type if the value is a collection, and the type itself otherwise. -/
def collected (collection : Bool) (type : String) : String :=
  if collection then arrayOf type else type

/-- The possible values, each between single quotes. -/
def literalUnion (values : List PossibleValue) : String :=
  String.intercalate " | " (values.map literal)

/-- A function type. -/
def arrow (parameters : List String) (result : String) : String :=
  "(" ++ String.intercalate ", " parameters ++ ") => " ++ result

/-- The name of a parameter or argument with its mark and its type. -/
def parameterText (p : Param) (type : String) : String :=
  parameterName p.name ++ optionalMark p ++ ": " ++ type

/-- A statement of an interface. -/
def fieldText (p : Param) (type : String) : String :=
  p.name ++ optionalMark p ++ ": " ++ type ++ ";"

/-- The interface for a key.  A new one is claimed, and then its body is written. -/
def intern (key shapeName : String) (naming : Naming)
    (body : String → Synthesis (List String)) : Synthesis String := do
  match (← get).lookup? key with
  | some name => return name
  | none =>
    let suffix := upperFirst (camelCase shapeName)
    let name ← modifyGet (·.claim key naming.seed naming.fallback suffix)
    let lines ← body name
    modify (·.define name lines)
    return name

/-! ## Types of values -/

mutual

/-- The type of a value.  An object shape is interned if a naming is given for it; other values are
a choice of strings, a function type, or a mapped name. -/
def valueType (types : TypeMap) (site : Site) (naming : Option Naming) : Param → Synthesis String
  | ⟨name, type, description, required, collection, properties, parameters, returns,
      possibleValues⟩ =>
    let p : Param := ⟨name, type, description, required, collection, properties, parameters,
      returns, possibleValues⟩
    match naming, p.isObjectShape with
    | some naming, true => do
      let interface ← intern (shapeKey types properties) name naming fun owner =>
        interfaceLines types owner properties
      return collected collection interface
    | _, _ =>
      if !possibleValues.isEmpty then return collected collection (literalUnion possibleValues)
      else if p.isCallback then do
        let taken ← parameterTexts types site parameters
        let result ← resultType types site returns
        return collected collection (arrow taken result)
      else return types.mapCollection type collection

/-- Parameters with their types. -/
def parameterTexts (types : TypeMap) (site : Site) : List Param → Synthesis (List String)
  | [] => return []
  | p :: rest => do
    if p.name.isEmpty then throw (.within site.owner (.parameterOf site.member))
    let type ← valueType types site (some (Naming.ofParameter site p.name)) p
    let texts ← parameterTexts types site rest
    return parameterText p type :: texts

/-- What a function returns. -/
def resultType (types : TypeMap) (site : Site) : Option Param → Synthesis String
  | none => return "void"
  | some p => valueType types site (some (Naming.ofResult site.member)) p

/-- The body of an interface: each field with its comment in front. -/
def interfaceLines (types : TypeMap) (owner : String) : List Param → Synthesis (List String)
  | [] => return []
  | p :: rest => do
    if p.name.isEmpty then throw (.within owner (.fieldOf owner))
    let type ← valueType types ⟨owner, owner, none⟩ (some (Naming.ofField owner)) p
    let lines ← interfaceLines types owner rest
    return DocComment.ofDescription p.description ++ fieldText p type :: lines

end

/-! ## Whole signatures -/

/-- A parameter list, without its parentheses. -/
def parameterList (types : TypeMap) (site : Site) (ps : List Param) : Synthesis String :=
  return String.intercalate ", " (← parameterTexts types site ps)

/-- A function type. -/
def functionType (types : TypeMap) (site : Site) (ps : List Param) (returns : Option Param) :
    Synthesis String := do
  let taken ← parameterTexts types site ps
  let result ← resultType types site returns
  return arrow taken result

/-- The interface for a shape, as an array if the shape is that of a collection. -/
def internShape (types : TypeMap) (shape : Param) (naming : Naming) : Synthesis String := do
  let interface ← intern (shapeKey types shape.properties) shape.name naming fun owner =>
    interfaceLines types owner shape.properties
  return collected shape.collection interface

/-- Methods that return their object, so that calls can be chained. -/
def chainable : List String := ["on", "once", "removeAllListeners", "removeListener"]

/-- What a method without a declared result returns. -/
def implicitResult (method : String) : String :=
  if chainable.contains method then "this" else "void"

/-- The result of a method. -/
def returnType (types : TypeMap) (site : Site) (method : Method) : Synthesis String :=
  match method.returns with
  | none => return implicitResult method.name
  | some p =>
    if p.type.isNamed "undefined" then return implicitResult method.name
    else valueType types site (some (Naming.ofResult method.name)) p

/-! ## Listeners -/

/-- The width of what stands around the name of an event in front of the arguments of its listener:
four blanks, `on(event: '` and `', listener: (`. -/
def listenerMargin : Nat := 29

/-- The margin under which the arguments of a listener stand. -/
def listenerIndent (event : String) : String :=
  String.ofList (List.replicate (event.utf8ByteSize + listenerMargin) ' ')

/-- The comment lines of an argument, each with a line feed and the margin behind it. -/
def argumentComment (indent : String) (description : Option String) : String :=
  String.join ((DocComment.ofDescription description).map fun line => line ++ "\n" ++ indent)

/-- One argument of a listener. -/
def argumentText (types : TypeMap) (owner : String) (event : Event) (p : Param) :
    Synthesis String := do
  if p.name.isEmpty then throw (.within owner (.argumentOf event.name))
  let naming := Naming.ofArgument event.name p.name
  let type ← valueType types ⟨owner, event.name, none⟩ (some naming) p
  return argumentComment (listenerIndent event.name) p.description ++ parameterText p type

/-- The type of a listener.  Its arguments stand one under the other. -/
def listener (types : TypeMap) (owner : String) (event : Event) : Synthesis String := do
  let arguments ← event.arguments.mapM (argumentText types owner event)
  return "(" ++ String.intercalate (",\n" ++ listenerIndent event.name) arguments ++ ") => void"

end Signature
end Ambient
