import Ambient.Text.Lines
import Ambient.Text.Casing

/-!
# API metadata

What the documentation of an API says about its modules, as data: which methods, properties and
events they have, which values those take and return, and in which processes they are available.

## What is here

* `TypeRef`, `Param` — a type as the documentation names it, and a value of some type: a parameter,
  a property, an argument or a result.  An object lists its fields in `properties`, a function its
  parameters and result.
* `TypeRef.induct`, `Param.induct` — types and values by what they are made of.
* `Method`, `Constructor`, `Event`, `Module` — the members of a module, and the module.
* `Param.isOptional`, `Param.isObjectShape`, `Param.isCallback` — the readings of a value on which
  its declaration depends.
* `Module.key` — modules whose names agree but for letter case describe one entity.
* `sortedByName` — members in the order of their names; members of one name keep their order.
-/

set_option autoImplicit false

namespace Ambient

open Text

/-! ## Types and values -/

/-- A type as the documentation writes it: a name, or a choice of types. -/
inductive TypeRef where
  | name (name : String)
  | union (members : List TypeRef)
deriving Repr, BEq

namespace TypeRef

/-- The type that says nothing. -/
def unknown : TypeRef := .name "any"

instance : Inhabited TypeRef := ⟨unknown⟩

/-- The type is the named one, in whatever case its ASCII letters are. -/
def isNamed (type : TypeRef) (expected : String) : Bool :=
  match type with
  | .name n => lowercaseAscii n == lowercaseAscii expected
  | .union _ => false

end TypeRef

/-- Types by what they are made of: names, and choices of types that are already known. -/
theorem TypeRef.induct {motive : TypeRef → Prop} (name : ∀ n, motive (.name n))
    (union : ∀ members, (∀ m ∈ members, motive m) → motive (.union members)) :
    ∀ type, motive type
  | .name n => name n
  | .union members => union members (fun m hm => by
      have : sizeOf m < sizeOf members := List.sizeOf_lt_of_mem hm
      exact TypeRef.induct name union m)

/-- One of the strings that a value may be. -/
structure PossibleValue where
  value : String
  description : Option String := none
deriving Repr, BEq, DecidableEq

/-- A value: a parameter, a property, an argument of a listener, or a result. -/
structure Param where
  name : String := ""
  type : TypeRef := TypeRef.unknown
  description : Option String := none
  required : Option Bool := none
  collection : Bool := false
  properties : List Param := []
  parameters : List Param := []
  returns : Option Param := none
  possibleValues : List PossibleValue := []
deriving Repr, BEq, Inhabited

/-- Values by what they are made of. -/
theorem Param.induct {motive : Param → Prop}
    (step : ∀ p : Param, (∀ q ∈ p.properties, motive q) → (∀ q ∈ p.parameters, motive q) →
      (∀ q, p.returns = some q → motive q) → motive p) : ∀ p, motive p
  | ⟨name, type, description, required, collection, properties, parameters, returns, values⟩ =>
    step _
      (fun q hq => by
        have hlt : sizeOf q < sizeOf properties := List.sizeOf_lt_of_mem hq
        exact Param.induct step q)
      (fun q hq => by
        have hlt : sizeOf q < sizeOf parameters := List.sizeOf_lt_of_mem hq
        exact Param.induct step q)
      (fun q hq => by
        have hlt : sizeOf q < sizeOf returns := by
          have hreturns : returns = some q := hq
          rw [hreturns]
          simp
        exact Param.induct step q)

namespace Param

/-- The value may be left out.  If the metadata does not say so outright, it is optional if its
description has the word “optional”. -/
def isOptional (p : Param) : Bool :=
  match p.required with
  | some required => !required
  | none => p.description.any fun d => occursIn "optional".toList (lowercaseAscii d)

/-- An object of which at least one field is known. -/
def isObjectShape (p : Param) : Bool := p.type.isNamed "Object" && !p.properties.isEmpty

/-- A function. -/
def isFunction (p : Param) : Bool := p.type.isNamed "Function"

/-- A function of which the parameters or the result are known. -/
def isCallback (p : Param) : Bool :=
  p.isFunction && (!p.parameters.isEmpty || p.returns.isSome)

theorem isOptional_of_required {p : Param} {required : Bool} (h : p.required = some required) :
    p.isOptional = !required := by
  simp [isOptional, h]

theorem isFunction_of_isCallback {p : Param} (h : p.isCallback = true) : p.isFunction = true := by
  rw [isCallback, Bool.and_eq_true] at h
  exact h.1

end Param

/-! ## Members -/

/-- A method, static method or instance method. -/
structure Method where
  name : String
  description : Option String := none
  parameters : List Param := []
  returns : Option Param := none
deriving Repr, BEq, Inhabited

/-- A constructor, which has no name of its own. -/
structure Constructor where
  description : Option String := none
  parameters : List Param := []
deriving Repr, BEq, Inhabited

/-- An event, with the arguments that its listeners are called with. -/
structure Event where
  name : String
  description : Option String := none
  arguments : List Param := []
deriving Repr, BEq, Inhabited

/-! ## Modules -/

/-- What kind of entity a module describes. -/
inductive ModuleKind where
  | classKind
  | moduleKind
  | structureKind
deriving Repr, BEq, DecidableEq, Inhabited

/-- The processes in which a module is available. -/
structure Availability where
  main : Bool := false
  renderer : Bool := false
deriving Repr, BEq, DecidableEq, Inhabited

/-- A module, a class or a structure. -/
structure Module where
  name : String
  kind : ModuleKind := .moduleKind
  description : Option String := none
  websiteUrl : String := ""
  availability : Option Availability := none
  construction : Option Constructor := none
  staticMethods : List Method := []
  methods : List Method := []
  instanceMethods : List Method := []
  instanceProperties : List Param := []
  properties : List Param := []
  events : List Event := []
  instanceEvents : List Event := []
deriving Repr, BEq, Inhabited

namespace Module

/-- What identifies the entity that a module describes: its name in small letters. -/
def key (m : Module) : String := lowercase m.name

/-- The name of the declaration of a module. -/
def declarationName (m : Module) : String := upperFirst m.name

/-- The module is a structure. -/
def isStructure (m : Module) : Bool := m.kind == .structureKind

end Module

/-! ## Order -/

/-- Members in the order of their names, code point by code point.  Members of one name keep the
order in which they were given. -/
def sortedByName {α : Type} (name : α → String) (members : List α) : List α :=
  members.mergeSort fun a b => !decide (name b < name a)

theorem sortedByName_perm {α : Type} (name : α → String) (members : List α) :
    (sortedByName name members).Perm members :=
  List.mergeSort_perm _ _

theorem mem_sortedByName {α : Type} {name : α → String} {members : List α} {x : α} :
    x ∈ sortedByName name members ↔ x ∈ members :=
  (sortedByName_perm name members).mem_iff

end Ambient
