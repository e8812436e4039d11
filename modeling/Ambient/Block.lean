import Ambient.Roster
import Ambient.Signature

/-!
# Declaration blocks

All modules with one key are declared in one block: the first of them opens it, and each adds its
members.  The members of a module stand in groups, and within a group in the order of their names,
so that the order in which the metadata lists them does not show.

## What is here

* `Inheritance` — which modules emit events, and what the declarations of those extend.
* `headerLine` — the line that opens the block of a module.
* `memberLines` — the lines that a module adds to its block.
* `Block`, `Blocks` — a block, and all blocks by key in the order in which they were opened.
* `Blocks.emit` — adds a module; if a name is missing, no block changes.
-/

set_option autoImplicit false

namespace Ambient

open Text

/-! ## What declarations extend -/

/-- Which modules emit events, and what the declarations of those extend. -/
structure Inheritance where
  /-- What the declaration of a module that emits events extends. -/
  base : String
  /-- Keys of the modules that do not emit events. -/
  silent : List String
  /-- What the declarations of some modules extend instead, by key. -/
  parents : Dictionary String

namespace Inheritance

/-- Keys of the modules that are known not to emit events. -/
def usualSilent : List String := [
  "menuitem", "nativeimage", "shell", "browserview", "webrequest", "crashreporter", "dock",
  "commandline", "debugger"]

/-- The usual rules. -/
def usual : Inheritance where
  base := "EventEmitter"
  silent := usualSilent
  parents := Dictionary.ofList [("remote", "MainInterface")]

instance : Inhabited Inheritance := ⟨usual⟩

/-- The module emits events. -/
def isEmitter (rules : Inheritance) (m : Module) : Bool :=
  !m.isStructure && !rules.silent.contains m.key

/-- What the declaration of a module that emits events extends. -/
def parent (rules : Inheritance) (m : Module) : String := (rules.parents.get? m.key).getD rules.base

end Inheritance

/-! ## Lines -/

/-- The line that opens the block of a module. -/
def headerLine (rules : Inheritance) (roster : Roster) (m : Module) : String :=
  if m.isStructure then "type " ++ m.declarationName ++ " = \x7b"
  else
    let keyword := if roster.isClassLike m then "class " else "interface "
    let clause := if rules.isEmitter m then " extends " ++ rules.parent m else ""
    keyword ++ m.declarationName ++ clause ++ " \x7b"

/-- The lines under it that refer to the documentation. -/
def docsLines (m : Module) : List String := ["", "// Docs: " ++ m.websiteUrl, ""]

/-- The lines of several members, one after the other. -/
def collect {α : Type} (lines : α → Synthesis (List String)) (members : List α) :
    Synthesis (List String) :=
  return (← members.mapM lines).flatten

/-- An event: its comment, and the overload of `on` for it. -/
def eventLines (types : TypeMap) (m : Module) (event : Event) : Synthesis (List String) := do
  if event.name.isEmpty then throw (.within m.name .event)
  let listener ← Signature.listener types m.name event
  return DocComment.ofDescription event.description ++
    ["on(event: '" ++ event.name ++ "', listener: " ++ listener ++ "): this;"]

/-- The result of a method behind its parameters. -/
def resultSuffix (types : TypeMap) (site : Site) (method : Method) : Synthesis String :=
  return ": " ++ (← Signature.returnType types site method)

/-- A method: its comment and its signature.  What is called `constructor` has no result. -/
def methodLines (types : TypeMap) (m : Module) (modifier : String) (seed : Option String)
    (method : Method) : Synthesis (List String) := do
  if method.name.isEmpty then throw (.within m.name .method)
  let site : Site := ⟨m.name, method.name, seed⟩
  let taken ← Signature.parameterList types site method.parameters
  let result ← if method.name = "constructor" then pure "" else resultSuffix types site method
  return DocComment.ofDescription method.description ++
    [modifier ++ method.name ++ "(" ++ taken ++ ")" ++ result ++ ";"]

/-- The constructor as a method. -/
def Constructor.asMethod (c : Constructor) : Method where
  name := "constructor"
  description := c.description
  parameters := c.parameters

/-- The constructor, if there is one. -/
def constructorLines (types : TypeMap) (m : Module) : Synthesis (List String) :=
  match m.construction with
  | none => return []
  | some c => methodLines types m "" (some (m.name ++ "Constructor")) c.asMethod

/-- A property: its name, mark and type. -/
def propertyLine (modifier : String) (p : Param) (type : String) : String :=
  modifier ++ p.name ++ optionalMark p ++ ": " ++ type ++ ";"

/-- A property of the instances of a class. -/
def instancePropertyLines (types : TypeMap) (m : Module) (p : Param) :
    Synthesis (List String) := do
  if p.name.isEmpty then throw (.within m.name .instanceProperty)
  return [propertyLine "" p (← Signature.valueType types ⟨m.name, p.name, none⟩ none p)]

/-- A property of a module, or a field of a structure. -/
def propertyLines (types : TypeMap) (m : Module) (modifier : String) (p : Param) :
    Synthesis (List String) := do
  if p.name.isEmpty then throw (.within m.name .property)
  let type ← Signature.valueType types ⟨m.name, p.name, none⟩ (some {}) p
  return [propertyLine modifier p type]

/-- The lines that a module adds to its block. -/
def memberLines (types : TypeMap) (roster : Roster) (m : Module) : Synthesis (List String) := do
  let modifier := if roster.isStaticHalf m then "static " else ""
  let events ← collect (eventLines types m)
    (sortedByName Event.name (m.instanceEvents ++ m.events))
  let construction ← constructorLines types m
  let staticMethods ← collect (methodLines types m "static " none)
    (sortedByName Method.name m.staticMethods)
  let methods ← collect (methodLines types m modifier none) (sortedByName Method.name m.methods)
  let instanceMethods ← collect (methodLines types m "" none)
    (sortedByName Method.name m.instanceMethods)
  let instanceProperties ← collect (instancePropertyLines types m)
    (sortedByName Param.name m.instanceProperties)
  let properties ← collect (propertyLines types m modifier) (sortedByName Param.name m.properties)
  return events ++ construction ++ staticMethods ++ methods ++ instanceMethods ++
    instanceProperties ++ properties

/-! ## Blocks -/

/-- A block: the name it declares, the line that opens it, and its body. -/
structure Block where
  name : String
  header : String
  body : List String
deriving Repr, BEq, DecidableEq

/-- All blocks by key, in the order in which they were opened. -/
structure Blocks where
  byKey : Dictionary Block

namespace Blocks

/-- No blocks. -/
def empty : Blocks := ⟨Dictionary.empty⟩

instance : Inhabited Blocks := ⟨empty⟩

/-- The block for a name, in whatever case it is written. -/
def get? (blocks : Blocks) (name : String) : Option Block := blocks.byKey.get? (lowercase name)

/-- There is a block for the name. -/
def contains (blocks : Blocks) (name : String) : Bool := (blocks.get? name).isSome

/-- The blocks in order. -/
def toList (blocks : Blocks) : List Block := blocks.byKey.values

/-- The number of blocks. -/
def size (blocks : Blocks) : Nat := blocks.byKey.size

/-- The block to which a module adds: the one of its key, or a new one. -/
def blockFor (blocks : Blocks) (rules : Inheritance) (roster : Roster) (m : Module) : Block :=
  match blocks.byKey.get? m.key with
  | some block => block
  | none => ⟨m.declarationName, headerLine rules roster m, docsLines m⟩

/-- Adds lines to the block of a module. -/
def append (blocks : Blocks) (rules : Inheritance) (roster : Roster) (m : Module)
    (lines : List String) : Blocks :=
  let block := blocks.blockFor rules roster m
  ⟨blocks.byKey.insert m.key { block with body := block.body ++ lines }⟩

/-- Adds a module to its block. -/
def emit (blocks : Blocks) (types : TypeMap) (rules : Inheritance) (roster : Roster) (m : Module) :
    Synthesis Blocks :=
  return blocks.append rules roster m (← memberLines types roster m)

end Blocks
end Ambient
