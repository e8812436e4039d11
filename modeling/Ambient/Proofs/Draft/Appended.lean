import Ambient.Proofs.Composite.Routing
import Ambient.Proofs.Draft.Closed
import Ambient.Proofs.Synthesis.Reserving

/-!
# One more module at the end

Appending a module changes two things that are looked up while the modules in front of it are
written: the roster has one more key, and one more name is reserved.  A module whose key is new
repeats none of the others, so they are declared as before.  If moreover no interface had its name,
reserving the name changes no interface.  All that is declared stays, and what is new stands behind
it.

## What is here

* `isRepeated_concat`, `foldlM_emit_congr` — modules whose key is not the new one are written as
  before.
* `GainsOne`, `Composite.GrowsTo`, `composites_concat` — each composite interface gains at most one
  member.
* `build_of_appended` — what a draft declares with one more module.
* `build_of_appended_dialog` — an example in which every part of it grows.
-/

set_option autoImplicit false

namespace Ambient

open Signature Synthesis

/-! ## The roster -/

section

variable {ms : List Module} {m o : Module}

/-- A module of another key is as repeated as before. -/
theorem isRepeated_concat (h : o.key ≠ m.key) :
    (Roster.ofModules (ms ++ [m])).isRepeated o = (Roster.ofModules ms).isRepeated o := by
  have hcount : ([m].map Module.key).count o.key = 0 :=
    List.count_eq_zero.2 fun hmem => h (List.mem_singleton.1 hmem)
  rw [Roster.isRepeated, Roster.isRepeated, Roster.ofModules, Roster.ofModules, List.map_append,
    List.count_append, hcount, Nat.add_zero]

theorem isClassLike_concat (h : o.key ≠ m.key) :
    (Roster.ofModules (ms ++ [m])).isClassLike o = (Roster.ofModules ms).isClassLike o := by
  rw [Roster.isClassLike, Roster.isClassLike, isRepeated_concat h]

theorem isStaticHalf_concat (h : o.key ≠ m.key) :
    (Roster.ofModules (ms ++ [m])).isStaticHalf o = (Roster.ofModules ms).isStaticHalf o := by
  rw [Roster.isStaticHalf, Roster.isStaticHalf, isRepeated_concat h]

end

/-! ## Blocks -/

section

variable {types : TypeMap} {rules : Inheritance} {roster other : Roster}

/-- Of a roster, the block of a module depends on what it says about that module. -/
theorem emit_congr {m : Module} (hclass : other.isClassLike m = roster.isClassLike m)
    (hstatic : other.isStaticHalf m = roster.isStaticHalf m) (blocks : Blocks) :
    blocks.emit types rules other m = blocks.emit types rules roster m := by
  have hlines : memberLines types other m = memberLines types roster m := by
    rw [memberLines, memberLines, hstatic]
  have hblock : blocks.blockFor rules other m = blocks.blockFor rules roster m := by
    rw [Blocks.blockFor, Blocks.blockFor, headerLine, headerLine, hclass]
  have happend : blocks.append rules other m = blocks.append rules roster m := by
    funext lines
    rw [Blocks.append, Blocks.append, hblock]
  rw [Blocks.emit, Blocks.emit, hlines, happend]

theorem foldlM_emit_congr {ms : List Module}
    (hclass : ∀ m ∈ ms, other.isClassLike m = roster.isClassLike m)
    (hstatic : ∀ m ∈ ms, other.isStaticHalf m = roster.isStaticHalf m) (blocks : Blocks) :
    ms.foldlM (fun (b : Blocks) m => b.emit types rules other m) blocks
      = ms.foldlM (fun (b : Blocks) m => b.emit types rules roster m) blocks := by
  induction ms generalizing blocks with
  | nil => rw [List.foldlM_nil, List.foldlM_nil]
  | cons m rest ih =>
    have hrest := funext (ih (fun o ho => hclass o (List.mem_cons_of_mem m ho))
      (fun o ho => hstatic o (List.mem_cons_of_mem m ho)))
    rw [List.foldlM_cons, List.foldlM_cons, hrest,
      emit_congr (hclass m List.mem_cons_self) (hstatic m List.mem_cons_self)]

/-- A module whose key is new adds a block behind the others. -/
theorem entries_append_of_notMem {blocks : Blocks} {m : Module} (lines : List String)
    (h : m.key ∉ blocks.byKey.keys) :
    ∃ block : Block, block.name = m.declarationName ∧
      (blocks.append rules roster m lines).byKey.entries
        = blocks.byKey.entries ++ [(m.key, block)] := by
  refine ⟨{ blocks.blockFor rules roster m with
      body := (blocks.blockFor rules roster m).body ++ lines }, ?_,
    Dictionary.entries_insert_of_notMem _ h⟩
  show (blocks.blockFor rules roster m).name = m.declarationName
  rw [Blocks.blockFor, Dictionary.get?_eq_none_iff.2 h]

end

/-! ## Composite interfaces -/

/-- The lines are the first ones, and at most one behind them. -/
def GainsOne (lines others : List String) : Prop :=
  ∃ more : List String, others = lines ++ more ∧ more.length ≤ 1

/-- The interface keeps its members, and gains at most one behind them. -/
structure Composite.GrowsTo (c d : Composite) : Prop where
  header : d.header = c.header
  members : GainsOne c.members d.members

/-- The headers of the four interfaces are always the same. -/
theorem forall₂_growsTo {c d : Composites} {es fs : List Exposed}
    (hc : c = Composites.ofExposures es) (hd : d = Composites.ofExposures fs)
    (common : GainsOne c.common.members d.common.members)
    (main : GainsOne c.main.members d.main.members)
    (renderer : GainsOne c.renderer.members d.renderer.members)
    (all : GainsOne c.all.members d.all.members) :
    List.Forall₂ Composite.GrowsTo c.toList d.toList := by
  subst hc hd
  exact .cons ⟨rfl, common⟩ (.cons ⟨rfl, main⟩ (.cons ⟨rfl, renderer⟩ (.cons ⟨rfl, all⟩ .nil)))

section

variable {ms : List Module} {m : Module} (space : String)

/-- The properties of a module of another key are as before. -/
theorem propertyOf_concat {o : Module} (h : o.key ≠ m.key) :
    propertyOf (Roster.ofModules (ms ++ [m])) space o
      = propertyOf (Roster.ofModules ms) space o := by
  rw [propertyOf, propertyOf, isClassLike_concat h]

/-- Behind the properties of some modules stands that of the new one, if anything. -/
theorem gainsOne_properties {kept : List Module} (hkey : ∀ o ∈ kept, o.key ≠ m.key)
    (p : Module → Bool) :
    GainsOne (kept.map (propertyOf (Roster.ofModules ms) space))
      ((kept ++ [m].filter p).map (propertyOf (Roster.ofModules (ms ++ [m])) space)) := by
  refine ⟨([m].filter p).map (propertyOf (Roster.ofModules (ms ++ [m])) space), ?_, ?_⟩
  · rw [List.map_append, List.map_congr_left fun o ho => propertyOf_concat space (hkey o ho)]
  · rw [List.length_map]
    exact List.length_filter_le p [m]

/-- **Each composite interface gains at most one member.** -/
theorem composites_concat (hkey : ∀ o ∈ ms, o.key ≠ m.key) :
    List.Forall₂ Composite.GrowsTo (Composites.ofModules ms (Roster.ofModules ms) space).toList
      (Composites.ofModules (ms ++ [m]) (Roster.ofModules (ms ++ [m])) space).toList := by
  obtain ⟨hall, hcommon, hmain, hrenderer⟩ :=
    members_ofModules (Roster.ofModules ms) space ms
  obtain ⟨hall2, hcommon2, hmain2, hrenderer2⟩ :=
    members_ofModules (Roster.ofModules (ms ++ [m])) space (ms ++ [m])
  have hplaced : ∀ o ∈ placed ms, o.key ≠ m.key := fun o ho =>
    hkey o (isExposed_of_mem_firstExposed (firstExposed_eq ms ▸ ho)).1
  have hsome (a : Availability) :
      GainsOne ((placedIn a ms).map (propertyOf (Roster.ofModules ms) space))
        ((placedIn a (ms ++ [m])).map (propertyOf (Roster.ofModules (ms ++ [m])) space)) := by
    rw [placedIn, placedIn, placed_concat, List.filter_append, List.filter_filter]
    exact gainsOne_properties space (fun o ho => hplaced o (List.mem_filter.1 ho).1) _
  refine forall₂_growsTo rfl rfl ?_ ?_ ?_ ?_
  · rw [hcommon, hcommon2]
    exact hsome _
  · rw [hmain, hmain2]
    exact hsome _
  · rw [hrenderer, hrenderer2]
    exact hsome _
  · rw [hall, hall2, placed_concat]
    exact gainsOne_properties space hplaced _

end

/-! ## Building -/

section

variable {draft : Draft} {m : Module}

/-- One more module reserves its name. -/
theorem reserves_start_add (draft : Draft) (m : Module) :
    draft.start.Reserves m.declarationName (draft.add [m]).start := by
  refine ⟨rfl, rfl, fun name => ?_⟩
  simp only [Draft.start, Draft.add, Interner.empty, Interner.reserve, List.nil_append,
    Draft.reservedNames, List.map_append, List.map_singleton, List.mem_append, List.mem_singleton]
  grind

/-- The modules are written first, as before, and the new one behind them. -/
theorem emitAll_add (hkey : ∀ o ∈ draft.modules, o.key ≠ m.key) :
    (draft.add [m]).emitAll = draft.emitAll >>= fun blocks =>
      blocks.emit draft.types draft.inheritance (Roster.ofModules (draft.modules ++ [m])) m := by
  have hclass : ∀ o ∈ draft.modules, (Roster.ofModules (draft.modules ++ [m])).isClassLike o
      = (Roster.ofModules draft.modules).isClassLike o := fun o ho => isClassLike_concat (hkey o ho)
  have hstatic : ∀ o ∈ draft.modules, (Roster.ofModules (draft.modules ++ [m])).isStaticHalf o
      = (Roster.ofModules draft.modules).isStaticHalf o := fun o ho =>
    isStaticHalf_concat (hkey o ho)
  show (draft.modules ++ [m]).foldlM _ Blocks.empty = _
  rw [List.foldlM_append, Draft.emitAll, ← foldlM_emit_congr hclass hstatic]
  refine congrArg _ (funext fun blocks => ?_)
  simp only [List.foldlM_cons, List.foldlM_nil, bind_pure]
  rfl

/-- The keys of the blocks are keys of modules. -/
theorem key_notMem_keys {blocks : Blocks} {s t : Interner}
    (hrun : draft.emitAll.run s = (.ok blocks, t)) (hkey : ∀ o ∈ draft.modules, o.key ≠ m.key) :
    m.key ∉ blocks.byKey.keys := by
  have hempty : Blocks.empty.declared = [] := rfl
  rw [Blocks.keys_eq, declared_foldlM hrun, hempty, List.nil_append, List.map_map]
  intro hmem
  obtain ⟨o, ho, hkey2⟩ := List.mem_map.1 hmem
  exact hkey o (List.mem_of_find?_eq_some (mem_distinctFrom_iff.1 ho).2) hkey2

end

/-- **What a draft declares with one more module.**  If no module has the key of the new one, and no
interface has its name, all blocks stay as they are and one more stands behind them, the interfaces
stay as they are and in front of those that are new, and each composite interface keeps its members
and gains at most one. -/
theorem build_of_appended {draft : Draft} {m : Module} {d e : Declarations}
    (hd : draft.build = .ok d) (hkey : ∀ o ∈ draft.modules, o.key ≠ m.key)
    (hname : m.declarationName ∉ d.interfaces.map Interface.name)
    (he : (draft.add [m]).build = .ok e) :
    (∃ block : Block, block.name = m.declarationName ∧
      e.blocks.byKey.entries = d.blocks.byKey.entries ++ [(m.key, block)] ∧
      e.blocks.toList = d.blocks.toList ++ [block]) ∧
    d.interfaces <+: e.interfaces ∧
    List.Forall₂ Composite.GrowsTo d.composites.toList e.composites.toList := by
  obtain ⟨s, hrun, hinterfaces, hcomposites⟩ := exists_of_build_eq_ok hd
  obtain ⟨t, hrun2, hinterfaces2, hcomposites2⟩ := exists_of_build_eq_ok he
  have hnew : m.declarationName ∉ s.bodies.keys := by
    rwa [hinterfaces, interfaces_names] at hname
  -- The modules in front are written as before, with the name of the new one reserved.
  obtain ⟨s2, hrun3, hsame⟩ :=
    run_of_reserves (composed_emitAll draft) hrun hnew (reserves_start_add draft m)
  rw [emitAll_add hkey] at hrun2
  have hrun4 : (d.blocks.emit draft.types draft.inheritance
      (Roster.ofModules (draft.modules ++ [m])) m).run s2 = (.ok e.blocks, t) :=
    (run_bind_of_ok _ hrun3).symm.trans hrun2
  obtain ⟨lines, u, hlines, happend⟩ := exists_of_run_bind_eq_ok hrun4
  have hpair : (Except.ok (d.blocks.append draft.inheritance _ m lines), u) = (.ok e.blocks, t) :=
    happend
  rw [Prod.mk.injEq, Except.ok.injEq] at hpair
  obtain ⟨hblocks, rfl⟩ := hpair
  refine ⟨?_, ?_, ?_⟩
  · obtain ⟨block, hblock, hentries⟩ := entries_append_of_notMem lines (key_notMem_keys hrun hkey)
    rw [hblocks] at hentries
    refine ⟨block, hblock, hentries, ?_⟩
    rw [Blocks.toList, Dictionary.values, hentries, List.map_append]
    rfl
  · have hext := extends_of_run (composed_memberLines _ _ m) hlines
    rw [hinterfaces, hinterfaces2, Interner.interfaces, Interner.interfaces, ← hsame.bodies]
    exact hext.bodies.map _
  · rw [hcomposites, hcomposites2]
    exact composites_concat draft.space hkey

/-- The module that is appended to `opening` in the example. -/
def dialog : Module where
  name := "dialog"
  availability := some ⟨true, false⟩
  methods := [{
    name := "show"
    parameters := [{
      name := "options", type := .name "Object"
      properties := [{ name := "title", type := .name "String" }] }] }]

/-- `dialog` brings a block, an interface and a member of two composite interfaces. -/
theorem build_of_appended_dialog :
    (∀ o ∈ opening.modules, o.key ≠ dialog.key) ∧
    ∃ d e, opening.build = .ok d ∧ (opening.add [dialog]).build = .ok e ∧
      dialog.declarationName ∉ d.interfaces.map Interface.name ∧
      e.interfaces.map Interface.name = ["AppOpenOptions", "Bounds", "DialogShowOptions"] ∧
      e.composites.main.members = ["dialog: Electron.Dialog"] ∧
      (∃ block : Block, block.name = dialog.declarationName ∧
        e.blocks.byKey.entries = d.blocks.byKey.entries ++ [(dialog.key, block)] ∧
        e.blocks.toList = d.blocks.toList ++ [block]) ∧
      d.interfaces <+: e.interfaces ∧
      List.Forall₂ Composite.GrowsTo d.composites.toList e.composites.toList := by
  have hkey : ∀ o ∈ opening.modules, o.key ≠ dialog.key := by decide +kernel
  have hfirst : opening.build.toOption.map (fun d => d.interfaces.map Interface.name)
      = some ["AppOpenOptions", "Bounds"] := by
    decide +kernel
  have hsecond : (opening.add [dialog]).build.toOption.map
      (fun e => e.interfaces.map Interface.name)
        = some ["AppOpenOptions", "Bounds", "DialogShowOptions"] := by
    decide +kernel
  have hmembers : (opening.add [dialog]).build.toOption.map (fun e => e.composites.main.members)
      = some ["dialog: Electron.Dialog"] := by
    decide +kernel
  obtain ⟨d, hd, hnames⟩ := exists_of_map_build hfirst
  obtain ⟨e, he, hnames2⟩ := exists_of_map_build hsecond
  rw [he] at hmembers
  have hname : dialog.declarationName ∉ d.interfaces.map Interface.name := by
    rw [hnames]
    decide +kernel
  exact ⟨hkey, d, e, hd, he, hname, hnames2, Option.some.inj hmembers,
    build_of_appended hd hkey hname he⟩

end Ambient
