import Ambient.Dictionary

/-!
# Interned interfaces

An object shape has no name in the metadata.  The interner gives it one, and remembers under which
key, so that the next shape with that key gets the same interface.  A name is claimed before the
body of its interface is known, because the body may need names as well.

## What is here

* `Interface` — a named interface with the lines of its body.
* `Interner` — the names by key, the interfaces in the order in which they were claimed, and the
  names that belong to other declarations.
* `Interner.choose` — the name for a new shape: `seed` and `suffix` together, or `fallback` and
  `suffix` if that is taken, or else the first name with the least number from two on.
* `Interner.claim`, `Interner.define` — binds a key to a new name, and gives a name its body.
-/

set_option autoImplicit false

namespace Ambient

/-! ## Interfaces -/

/-- An interface: its name and the lines of its body, each statement with its semicolon. -/
structure Interface where
  name : String
  lines : List String
deriving Repr, BEq, DecidableEq

/-- The line that opens an interface. -/
def Interface.header (i : Interface) : String := "interface " ++ i.name ++ " \x7b"

/-! ## The interner -/

/-- Names given to shapes so far. -/
structure Interner where
  /-- The name for each key. -/
  names : Dictionary String
  /-- The body of each named interface, in the order in which the names were claimed. -/
  bodies : Dictionary (List String)
  /-- Names that belong to other declarations. -/
  reserved : List String

namespace Interner

/-- No names yet. -/
def empty : Interner := ⟨Dictionary.empty, Dictionary.empty, []⟩

instance : Inhabited Interner := ⟨empty⟩

/-- Keeps names for other declarations. -/
def reserve (interner : Interner) (names : List String) : Interner :=
  { interner with reserved := interner.reserved ++ names }

/-- The name for a key. -/
def lookup? (interner : Interner) (key : String) : Option String := interner.names.get? key

/-- The name belongs to an interface or to another declaration. -/
def isTaken (interner : Interner) (name : String) : Bool :=
  interner.bodies.contains name || interner.reserved.contains name

/-- The number of interfaces. -/
def size (interner : Interner) : Nat := interner.bodies.size

/-- The interfaces in the order in which they were claimed. -/
def interfaces (interner : Interner) : List Interface :=
  interner.bodies.entries.map fun e => ⟨e.1, e.2⟩

/-! ## Choosing names -/

/-- The first name with a number from two on.  One of the numbers up to two more than there are
names must be free. -/
def numbered (interner : Interner) (primary : String) : String :=
  let candidates := (List.range (interner.bodies.size + interner.reserved.length + 1)).map
    fun i => primary ++ toString (i + 2)
  (candidates.find? fun candidate => !interner.isTaken candidate).getD ""

/-- The first choice for a name. -/
def primaryName (seed suffix : String) : String :=
  if (seed ++ suffix).isEmpty then "Anonymous" else seed ++ suffix

/-- The name for a new shape. -/
def choose (interner : Interner) (seed fallback suffix : String) : String :=
  let primary := primaryName seed suffix
  if !interner.isTaken primary then primary
  else if !fallback.isEmpty && !interner.isTaken (fallback ++ suffix) then fallback ++ suffix
  else interner.numbered primary

/-- Binds a key to a new name, whose body is still empty. -/
def claim (interner : Interner) (key seed fallback suffix : String) : String × Interner :=
  let name := interner.choose seed fallback suffix
  (name, { interner with
    names := interner.names.insert key name
    bodies := interner.bodies.insert name [] })

/-- Gives a name its body. -/
def define (interner : Interner) (name : String) (lines : List String) : Interner :=
  { interner with bodies := interner.bodies.insert name lines }

theorem isTaken_iff {interner : Interner} {name : String} :
    interner.isTaken name = true ↔ name ∈ interner.bodies.keys ∨ name ∈ interner.reserved := by
  rw [isTaken, Bool.or_eq_true, Dictionary.contains_iff, List.contains_iff_mem]

/-- A key that has been claimed is bound to the name that was chosen. -/
theorem lookup?_claim (interner : Interner) (key seed fallback suffix : String) :
    (interner.claim key seed fallback suffix).2.lookup? key
      = some (interner.choose seed fallback suffix) :=
  Dictionary.get?_insert_self _ _ _

end Interner
end Ambient
