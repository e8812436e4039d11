import Ambient.Metadata.Basic

/-!
# The roster of modules

Some facts about a module depend on the other modules of the list: whether another one describes
the same entity, and therefore whether the two are the halves of a class.

## What is here

* `Roster` — the keys of all modules.
* `Roster.isRepeated` — another module has the same key.
* `Roster.isClassLike` — the module is declared as a class: it is one, or it has another half.
* `Roster.isStaticHalf` — its members are the static ones of a class whose other half is another
  module.
-/

set_option autoImplicit false

namespace Ambient

/-- The keys of all modules, in order. -/
structure Roster where
  keys : List String
deriving Repr

namespace Roster

/-- The roster of a list of modules. -/
def ofModules (ms : List Module) : Roster := ⟨ms.map Module.key⟩

/-- More than one module has this one's key. -/
def isRepeated (roster : Roster) (m : Module) : Bool := decide (1 < roster.keys.count m.key)

/-- The module is declared as a class. -/
def isClassLike (roster : Roster) (m : Module) : Bool :=
  m.kind == .classKind || roster.isRepeated m

/-- The module holds the static members of a class. -/
def isStaticHalf (roster : Roster) (m : Module) : Bool :=
  m.kind == .moduleKind && roster.isRepeated m

/-- A static half is declared as a class. -/
theorem isClassLike_of_isStaticHalf {roster : Roster} {m : Module}
    (h : roster.isStaticHalf m = true) : roster.isClassLike m = true := by
  rw [isStaticHalf, Bool.and_eq_true] at h
  rw [isClassLike, h.2, Bool.or_true]

end Roster
end Ambient
