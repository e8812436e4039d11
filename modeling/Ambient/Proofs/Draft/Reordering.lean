import Mathlib.Data.List.Forall2
import Ambient.Draft
import Ambient.Proofs.Member.Order

/-!
# The order in which the metadata lists members

The members of a module are sorted before anything is done with them.  So a draft whose modules list
their members in another order declares the same, or fails for the same name: the interner meets the
same shapes in the same order.

## What is here

* `Module.Reordered` — the same module, with the members of each group reordered.
* `memberLines_of_reordered`, `emit_of_reordered` — the same lines are written.
* `map_eq_of_reordered` — what is the same for reordered modules is the same along their lists.
* `build_of_reordered` — the same is declared.
-/

set_option autoImplicit false

namespace Ambient

/-! ## Modules -/

/-- The same module, except that its members may be listed in another order: each group is
reordered, and an event may be listed with the instance events instead. -/
structure Module.Reordered (m n : Module) : Prop where
  /-- Nothing but the order of members is different. -/
  others : n = { m with
    staticMethods := n.staticMethods
    methods := n.methods
    instanceMethods := n.instanceMethods
    instanceProperties := n.instanceProperties
    properties := n.properties
    events := n.events
    instanceEvents := n.instanceEvents }
  staticMethods : Ambient.Reordered Method.name m.staticMethods n.staticMethods
  methods : Ambient.Reordered Method.name m.methods n.methods
  instanceMethods : Ambient.Reordered Method.name m.instanceMethods n.instanceMethods
  instanceProperties : Ambient.Reordered Param.name m.instanceProperties n.instanceProperties
  properties : Ambient.Reordered Param.name m.properties n.properties
  events : Ambient.Reordered Event.name (m.instanceEvents ++ m.events)
    (n.instanceEvents ++ n.events)

section

variable {m n : Module} (types : TypeMap) (rules : Inheritance) (roster : Roster)

/-- Reordered modules add the same lines. -/
theorem memberLines_of_reordered (h : m.Reordered n) :
    memberLines types roster m = memberLines types roster n := by
  have hevents := sortedByName_eq_iff.2 h.events
  have hstatics := sortedByName_eq_iff.2 h.staticMethods
  have hmethods := sortedByName_eq_iff.2 h.methods
  have hinstances := sortedByName_eq_iff.2 h.instanceMethods
  have hvalues := sortedByName_eq_iff.2 h.instanceProperties
  have hproperties := sortedByName_eq_iff.2 h.properties
  rw [memberLines, memberLines, hevents, hstatics, hmethods, hinstances, hvalues, hproperties,
    h.others]
  rfl

/-- Reordered modules open the same block. -/
theorem blockFor_of_reordered (h : m.Reordered n) (blocks : Blocks) :
    blocks.blockFor rules roster m = blocks.blockFor rules roster n := by
  rw [h.others]
  rfl

/-- Reordered modules are added to the blocks alike. -/
theorem emit_of_reordered (h : m.Reordered n) (blocks : Blocks) :
    blocks.emit types rules roster m = blocks.emit types rules roster n := by
  have hkey : m.key = n.key := by
    rw [h.others]
    rfl
  have happend : blocks.append rules roster m = blocks.append rules roster n := by
    funext lines
    rw [Blocks.append, Blocks.append, blockFor_of_reordered rules roster h, hkey]
  rw [Blocks.emit, Blocks.emit, memberLines_of_reordered types roster h, happend]

end

/-! ## Lists of modules -/

/-- What is the same for reordered modules is the same along their lists. -/
theorem map_eq_of_reordered {β : Type} {f : Module → β} {ms ns : List Module}
    (hf : ∀ m n : Module, m.Reordered n → f m = f n) (h : List.Forall₂ Module.Reordered ms ns) :
    ms.map f = ns.map f := by
  induction h with
  | nil => rfl
  | cons hhead _ ih => rw [List.map_cons, List.map_cons, hf _ _ hhead, ih]

section

variable {ms ns : List Module} (h : List.Forall₂ Module.Reordered ms ns)

include h

theorem ofModules_of_reordered : Roster.ofModules ms = Roster.ofModules ns := by
  have hkeys := map_eq_of_reordered (f := Module.key) (fun m n hmn => by rw [hmn.others]; rfl) h
  rw [Roster.ofModules, Roster.ofModules, hkeys]

theorem composites_of_reordered (roster : Roster) (space : String) :
    Composites.ofModules ms roster space = Composites.ofModules ns roster space := by
  have hentries := map_eq_of_reordered (f := exposed? roster space)
    (fun m n hmn => by rw [hmn.others]; rfl) h
  have hfilter : ms.filterMap (exposed? roster space) = ns.filterMap (exposed? roster space) := by
    have hcomp := congrArg (List.filterMap id) hentries
    rwa [List.filterMap_map, List.filterMap_map] at hcomp
  rw [Composites.ofModules, Composites.ofModules, exposures, exposures, hfilter]

theorem foldlM_emit_of_reordered (types : TypeMap) (rules : Inheritance) (roster : Roster)
    (blocks : Blocks) :
    ms.foldlM (fun blocks m => blocks.emit types rules roster m) blocks
      = ns.foldlM (fun blocks m => blocks.emit types rules roster m) blocks := by
  have hsteps := map_eq_of_reordered
    (f := fun m (blocks : Blocks) => blocks.emit types rules roster m)
    (fun m n hmn => funext fun blocks => emit_of_reordered types rules roster hmn blocks) h
  have hfold := congrArg
    (List.foldlM (fun (blocks : Blocks) step => step blocks) blocks) hsteps
  rwa [List.foldlM_map, List.foldlM_map] at hfold

end

/-! ## Building -/

section

variable {draft : Draft} {ms : List Module} (h : List.Forall₂ Module.Reordered draft.modules ms)

include h

theorem nameless?_of_reordered :
    draft.nameless? = ({ draft with modules := ms } : Draft).nameless? := by
  have hnames := map_eq_of_reordered (f := Module.name) (fun m n hmn => by rw [hmn.others]) h
  have hfind := congrArg (List.findIdx? Draft.isBlankName) hnames
  rwa [List.findIdx?_map, List.findIdx?_map] at hfind

theorem reservedNames_of_reordered :
    draft.reservedNames = ({ draft with modules := ms } : Draft).reservedNames := by
  have hnames := map_eq_of_reordered (f := Module.declarationName)
    (fun m n hmn => by rw [hmn.others]; rfl) h
  rw [Draft.reservedNames, Draft.reservedNames, hnames]

theorem emitAll_of_reordered :
    draft.emitAll = ({ draft with modules := ms } : Draft).emitAll := by
  rw [Draft.emitAll, Draft.emitAll, ofModules_of_reordered h, foldlM_emit_of_reordered h]

end

/-- **The order in which members are listed does not matter.**  A draft whose modules list the
members of each group in another order declares the same, with the same interfaces in the same
order, or fails for the same name, as long as members of one name keep their order. -/
theorem build_of_reordered {draft : Draft} {ms : List Module}
    (h : List.Forall₂ Module.Reordered draft.modules ms) :
    ({ draft with modules := ms } : Draft).build = draft.build := by
  rw [Draft.build, Draft.build, ← nameless?_of_reordered h, ← reservedNames_of_reordered h,
    ← emitAll_of_reordered h, ← ofModules_of_reordered h,
    ← composites_of_reordered h (Roster.ofModules draft.modules)]

/-- A module whose methods are not in the order of their names, two of them called `on`. -/
def scattered : Draft where
  modules := [{
    name := "app"
    methods := [{ name := "quit" }, { name := "on", description := some "First." },
      { name := "on" }]
    events := [{ name := "ready" }]
    instanceEvents := [{ name := "close" }] }]

/-- The same module with its events exchanged, and with its methods in the order of their names. -/
def gathered : List Module := [{
  name := "app"
  methods := [{ name := "on", description := some "First." }, { name := "on" },
    { name := "quit" }]
  events := [{ name := "close" }]
  instanceEvents := [{ name := "ready" }] }]

theorem reordered_gathered : List.Forall₂ Module.Reordered scattered.modules gathered := by
  have hnone {α : Type} (name : α → String) : Reordered name [] [] := ⟨.refl _, fun _ => rfl⟩
  refine .cons ⟨rfl, hnone _, ⟨?_, fun n => ?_⟩, hnone _, hnone _, hnone _, ?_⟩ .nil
  · exact (List.Perm.swap _ _ _).trans ((List.Perm.swap _ _ _).cons _)
  · by_cases hon : "on" = n
    · simp [← hon]
    · simp [List.filter_cons, hon]
  · refine ⟨.swap _ _ _, fun n => ?_⟩
    by_cases hready : "ready" = n
    · simp [← hready]
    · simp [List.filter_cons, hready]

theorem build_of_reordered_gathered :
    gathered ≠ scattered.modules ∧ List.Forall₂ Module.Reordered scattered.modules gathered ∧
      ({ scattered with modules := gathered } : Draft).build = scattered.build :=
  ⟨by simp [gathered, scattered], reordered_gathered, build_of_reordered reordered_gathered⟩

end Ambient
