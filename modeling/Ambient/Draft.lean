import Ambient.Block
import Ambient.Composite

/-!
# Drafts

A draft is what a declaration file is made from: the modules that have been collected, and how the
file is to be written.  Building it declares everything; nothing is written yet.

## What is here

* `Draft` — modules and settings.
* `Declarations` — what a draft declares: blocks, interned interfaces and composite interfaces.
* `Draft.build` — the declarations of a draft, or the first name that is missing.
-/

set_option autoImplicit false

namespace Ambient

open Text

/-! ## Drafts and declarations -/

/-- The modules that have been collected, and how the file is to be written. -/
structure Draft where
  modules : List Module := []
  /-- The comment at the head of the file, if it is not the usual one. -/
  header : Option String := none
  /-- The namespace around the declarations. -/
  space : String := "Electron"
  /-- The name under which the module is imported. -/
  specifier : String := "electron"
  /-- What stands behind each property of a composite interface. -/
  terminator : String := ";"
  /-- Declares the types that the declarations rely on as well. -/
  withPrelude : Bool := true
  inheritance : Inheritance := Inheritance.usual
  types : TypeMap := TypeMap.builtin

instance : Inhabited Draft := ⟨{}⟩

/-- What a draft declares. -/
structure Declarations where
  blocks : Blocks
  interfaces : List Interface
  composites : Composites

namespace Draft

/-! ## Settings -/

/-- More modules, behind those that are there. -/
def add (draft : Draft) (ms : List Module) : Draft := { draft with modules := draft.modules ++ ms }

/-- One more module that does not emit events. -/
def addSilent (draft : Draft) (name : String) : Draft :=
  { draft with inheritance := { draft.inheritance with
      silent := lowercase name :: draft.inheritance.silent } }

/-- What the declaration of a module extends if the module emits events. -/
def setParent (draft : Draft) (name parent : String) : Draft :=
  { draft with inheritance := { draft.inheritance with
      parents := draft.inheritance.parents.insert (lowercase name) parent } }

/-- How a type is spelled. -/
def registerType (draft : Draft) (name spelling : String) : Draft :=
  { draft with types := draft.types.register name spelling }

/-- A type is no longer spelled in a way of its own. -/
def unregisterType (draft : Draft) (name : String) : Draft :=
  { draft with types := draft.types.unregister name }

/-! ## Building -/

/-- The types that the prelude declares. -/
def preludeNames : List String := ["EventEmitter", "Accelerator", "Event"]

/-- The names that no interned interface may take. -/
def reservedNames (draft : Draft) : List String :=
  draft.modules.map Module.declarationName ++ preludeNames ++ Composites.names

/-- The name has no characters but blanks. -/
def isBlankName (name : String) : Bool := (trim name.toList).isEmpty

/-- The position of the first module without a name. -/
def nameless? (draft : Draft) : Option Nat :=
  draft.modules.findIdx? fun m => isBlankName m.name

/-- The blocks of all modules. -/
def emitAll (draft : Draft) : Synthesis Blocks :=
  draft.modules.foldlM
    (fun blocks m => blocks.emit draft.types draft.inheritance (Roster.ofModules draft.modules) m)
    Blocks.empty

/-- What a draft declares. -/
def build (draft : Draft) : Except MissingName Declarations :=
  match draft.nameless? with
  | some index => .error (.ofModule index)
  | none =>
    match draft.emitAll.run (Interner.empty.reserve draft.reservedNames) with
    | (.error e, _) => .error e
    | (.ok blocks, interner) =>
      .ok ⟨blocks, interner.interfaces,
        Composites.ofModules draft.modules (Roster.ofModules draft.modules) draft.space⟩

end Draft
end Ambient
