import Ambient.Roster

/-!
# Composite interfaces

Which modules a process sees depends on where the process runs.  Four interfaces list the modules
as properties: those of both processes, those of each alone, and all of them.

## What is here

* `exposedName` — the name of the property under which a module is found.
* `Exposed`, `exposed?` — the entry of a module, if it is available anywhere and is no structure.
* `exposures` — the entries of a list of modules.  Of entries with one name, but for letter case,
  the first stays.
* `Composite`, `Composites.ofModules` — the four interfaces.
* `Composite.lines` — an interface with a terminator behind each property.
-/

set_option autoImplicit false

namespace Ambient

open Text

/-! ## Entries -/

/-- The name of the property under which a module is found.  Some modules are found under one name
however the metadata writes it. -/
def exposedName (name : String) : String :=
  match lowercase name with
  | "session" => "session"
  | "nativeimage" => "nativeImage"
  | "webcontents" => "webContents"
  | _ => name

/-- The entry of a module. -/
structure Exposed where
  name : String
  availability : Availability
  line : String
deriving Repr, BEq, DecidableEq

/-- A property that holds a module, or the class that it declares. -/
def propertyOf (roster : Roster) (space : String) (m : Module) : String :=
  let qualifier := if roster.isClassLike m then "typeof " else ""
  exposedName m.name ++ ": " ++ qualifier ++ space ++ "." ++ m.declarationName

/-- The entry of a module that is available in some process and is no structure. -/
def exposed? (roster : Roster) (space : String) (m : Module) : Option Exposed :=
  match m.availability with
  | none => none
  | some availability =>
    if m.isStructure then none
    else if !availability.main && !availability.renderer then none
    else some ⟨exposedName m.name, availability, propertyOf roster space m⟩

/-- The elements of a list whose key is neither among `seen` nor that of an earlier one. -/
def distinctFrom {α : Type} (key : α → String) (seen : List String) : List α → List α
  | [] => []
  | x :: rest =>
    if seen.contains (key x) then distinctFrom key seen rest
    else x :: distinctFrom key (key x :: seen) rest

/-- Every key that is kept is new. -/
theorem key_notMem_seen {α : Type} {key : α → String} {seen : List String} {xs : List α} {x : α}
    (h : x ∈ distinctFrom key seen xs) : key x ∉ seen := by
  induction xs generalizing seen with
  | nil => simp [distinctFrom] at h
  | cons y rest ih =>
    rw [distinctFrom] at h
    split at h
    · exact ih h
    · rename_i hy
      rcases List.mem_cons.1 h with rfl | h2
      · simpa using hy
      · exact fun hx => ih h2 (List.mem_cons_of_mem _ hx)

/-- The entries of a list of modules. -/
def exposures (roster : Roster) (space : String) (ms : List Module) : List Exposed :=
  distinctFrom (fun e => lowercase e.name) [] (ms.filterMap (exposed? roster space))

/-! ## Interfaces -/

/-- An interface: the line that opens it, and its properties without terminators. -/
structure Composite where
  header : String
  members : List String
deriving Repr, BEq, DecidableEq

/-- The lines of an interface, with a terminator behind each property. -/
def Composite.lines (c : Composite) (terminator : String) : List String :=
  c.header :: c.members.map (· ++ terminator) ++ ["\x7d"]

/-- The four interfaces. -/
structure Composites where
  common : Composite
  main : Composite
  renderer : Composite
  all : Composite
deriving Repr, BEq, DecidableEq

namespace Composites

/-- The names that the four interfaces declare. -/
def names : List String := ["CommonInterface", "MainInterface", "RendererInterface", "AllElectron"]

/-- The four interfaces in order. -/
def toList (c : Composites) : List Composite := [c.common, c.main, c.renderer, c.all]

/-- The four interfaces with these entries. -/
def ofExposures (es : List Exposed) : Composites where
  common := ⟨"interface CommonInterface \x7b",
    (es.filter fun e => e.availability.main && e.availability.renderer).map Exposed.line⟩
  main := ⟨"interface MainInterface extends CommonInterface \x7b",
    (es.filter fun e => e.availability.main && !e.availability.renderer).map Exposed.line⟩
  renderer := ⟨"interface RendererInterface extends CommonInterface \x7b",
    (es.filter fun e => !e.availability.main && e.availability.renderer).map Exposed.line⟩
  all := ⟨"interface AllElectron \x7b", es.map Exposed.line⟩

/-- The four interfaces for a list of modules, whose declarations stand in the namespace `space`. -/
def ofModules (ms : List Module) (roster : Roster) (space : String) : Composites :=
  ofExposures (exposures roster space ms)

end Composites
end Ambient
