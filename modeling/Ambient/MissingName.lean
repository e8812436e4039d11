/-!
# Missing names

A declaration needs a name for everything it declares.  The metadata may leave one out, and then
there is nothing to declare.

## What is here

* `MissingName.Place` — what has no name, within a module.
* `MissingName` — a module without a name, by its position, or a place within a module.
-/

set_option autoImplicit false

namespace Ambient

/-- What has no name, within a module. -/
inductive MissingName.Place where
  | event
  | method
  | instanceProperty
  | property
  /-- A parameter of a member. -/
  | parameterOf (member : String)
  /-- An argument that the listeners of an event are called with. -/
  | argumentOf (event : String)
  /-- A field of an interface. -/
  | fieldOf (owner : String)
deriving Repr, BEq, DecidableEq

/-- The place in words. -/
def MissingName.Place.described : MissingName.Place → String
  | event => "event"
  | method => "method"
  | instanceProperty => "instance property"
  | property => "property"
  | parameterOf member => s!"parameter of `{member}`"
  | argumentOf name => s!"listener argument of `{name}`"
  | fieldOf owner => s!"property of `{owner}`"

/-- A name that the metadata leaves out. -/
inductive MissingName where
  /-- The module at a position of the list, counted from zero. -/
  | ofModule (index : Nat)
  /-- A place within the module, or within the interface, of the given name. -/
  | within (owner : String) (place : MissingName.Place)
deriving Repr, BEq, DecidableEq

/-- The missing name in one sentence. -/
def MissingName.message : MissingName → String
  | ofModule index => "module descriptor #" ++ toString index ++ " has no name"
  | within owner place => s!"module `{owner}`: {place.described} has no name"

end Ambient
