import Ambient.Document
import Ambient.Proofs.Composite.Routing
import Ambient.Proofs.Draft.Closed
import Ambient.Proofs.Member.Flat

/-!
# Declarations, cut at line feeds

However a declaration came about, it is written as a line that opens it and the lines of its body.
If nothing in a draft has a line feed, descriptions left aside, the first is on one line and the
others hang.

## What is here

* `Stanza` — a declaration as it is written; `Declarations.stanzas` — all that a draft declares.
* `Stanza.IsTidy` — the header is on one line and is not indented, and the body hangs.
* `Draft.IsFlat` — a draft without line feeds, descriptions left aside.
* `Blocks.AreTidy`, `yields_emit` — the blocks of such drafts.
* `isTidy_of_build` — everything that such a draft declares is tidy.
-/

set_option autoImplicit false

namespace Ambient

open Signature Synthesis

/-! ## Declarations as they are written -/

/-- A declaration as it is written: the line that opens it, and its body. -/
structure Stanza where
  header : String
  body : List String
deriving Repr, BEq, DecidableEq

def Block.stanza (b : Block) : Stanza := ⟨b.header, b.body⟩

def Interface.stanza (i : Interface) : Stanza := ⟨i.header, i.lines⟩

def Composite.stanza (c : Composite) (terminator : String) : Stanza :=
  ⟨c.header, c.members.map (· ++ terminator)⟩

/-- All declarations in order: the blocks, the interned interfaces and the composite interfaces. -/
def Declarations.stanzas (d : Declarations) (terminator : String) : List Stanza :=
  d.blocks.toList.map Block.stanza ++ d.interfaces.map Interface.stanza ++
    d.composites.toList.map (Composite.stanza · terminator)

theorem groups_eq_map_stanzas (d : Declarations) (terminator : String) :
    d.groups terminator = (d.stanzas terminator).map fun s => group s.header s.body := by
  rw [Declarations.groups, Declarations.stanzas, List.map_append, List.map_append, List.map_map,
    List.map_map, List.map_map]
  rfl

/-- What is added to a text does not change its first character. -/
theorem head?_append {s : String} {c : Char} (h : s.toList.head? = some c) (t : String) :
    (s ++ t).toList.head? = some c := by
  rw [String.toList_append, List.head?_append, h, Option.some_or]

/-- The text begins with a character that is no blank. -/
def Opens (s : String) : Prop := ∃ c, s.toList.head? = some c ∧ c ≠ ' '

theorem Opens.append {s : String} (h : Opens s) (t : String) : Opens (s ++ t) :=
  h.imp fun _ hc => ⟨head?_append hc.1 t, hc.2⟩

theorem opens_interface (name : String) : Opens ("interface " ++ name) :=
  Opens.append ⟨_, rfl, by decide⟩ name

/-- The header is on one line and is not indented, and the body hangs. -/
structure Stanza.IsTidy (s : Stanza) : Prop where
  header : IsFlat s.header
  opens : Opens s.header
  body : AllHang s.body

/-! ## Drafts without line feeds -/

/-- No line feed is in what the declarations of modules extend. -/
structure Inheritance.IsFlat (rules : Inheritance) : Prop where
  base : Ambient.IsFlat rules.base
  parents : ∀ e ∈ rules.parents.entries, Ambient.IsFlat e.2

/-- No line feed is in the modules and in the settings, descriptions and the comment at the head
left aside.  The name under which the module is imported may be any text, too: it stands behind all
declarations. -/
structure Draft.IsFlat (draft : Draft) : Prop where
  modules : ∀ m ∈ draft.modules, m.IsFlat
  space : Ambient.IsFlat draft.space
  terminator : Ambient.IsFlat draft.terminator
  inheritance : draft.inheritance.IsFlat
  types : draft.types.IsFlat

theorem Module.IsFlat.declarationName {m : Module} (h : m.IsFlat) :
    Ambient.IsFlat m.declarationName := isFlat_upperFirst h.name

/-! ## Blocks -/

/-- All blocks are tidy. -/
def Blocks.AreTidy (blocks : Blocks) : Prop := ∀ e ∈ blocks.byKey.entries, e.2.stanza.IsTidy

section

variable {rules : Inheritance} {roster : Roster} {m : Module}

theorem isFlat_parent (h : rules.IsFlat) (m : Module) : IsFlat (rules.parent m) := by
  rw [Inheritance.parent]
  cases hget : rules.parents.get? m.key with
  | none => exact h.base
  | some parent => exact h.parents _ (Dictionary.get?_eq_some_iff.1 hget)

theorem isFlat_headerLine (hrules : rules.IsFlat) (hm : m.IsFlat) :
    IsFlat (headerLine rules roster m) := by
  have hname := hm.declarationName
  have hkeyword : IsFlat (if roster.isClassLike m then "class " else "interface ") := by
    split <;> decide
  have hclause : IsFlat (if rules.isEmitter m then " extends " ++ rules.parent m else "") := by
    split
    · exact IsFlat.append (by decide) (isFlat_parent hrules m)
    · decide
  rw [headerLine]
  split
  · exact (IsFlat.append (by decide) hname).append (by decide)
  · exact ((hkeyword.append hname).append hclause).append (by decide)

theorem opens_headerLine (rules : Inheritance) (roster : Roster) (m : Module) :
    Opens (headerLine rules roster m) := by
  have hkeyword : Opens (if roster.isClassLike m then "class " else "interface ") := by
    split
    · exact ⟨_, rfl, by decide⟩
    · exact ⟨_, rfl, by decide⟩
  have htype : Opens "type " := ⟨_, rfl, by decide⟩
  rw [headerLine]
  split
  · exact (htype.append _).append _
  · exact ((hkeyword.append _).append _).append _

theorem allHang_docsLines (hm : m.IsFlat) : AllHang (docsLines m) := by
  have haddress : IsFlat ("// Docs: " ++ m.websiteUrl) := IsFlat.append (by decide) hm.websiteUrl
  exact List.forall_mem_cons.2 ⟨rfl, List.forall_mem_cons.2
    ⟨haddress.hangs, List.forall_mem_singleton.2 rfl⟩⟩

namespace Blocks

theorem AreTidy.blockFor {blocks : Blocks} (h : blocks.AreTidy) (hrules : rules.IsFlat)
    (hm : m.IsFlat) : (blocks.blockFor rules roster m).stanza.IsTidy := by
  rw [Blocks.blockFor]
  cases hget : blocks.byKey.get? m.key with
  | none =>
    exact ⟨isFlat_headerLine hrules hm, opens_headerLine rules roster m, allHang_docsLines hm⟩
  | some block => exact h _ (Dictionary.get?_eq_some_iff.1 hget)

/-- Blocks stay tidy when a module adds lines that hang. -/
theorem AreTidy.append {blocks : Blocks} (h : blocks.AreTidy) (hrules : rules.IsFlat)
    (hm : m.IsFlat) {lines : List String} (hlines : AllHang lines) :
    (blocks.append rules roster m lines).AreTidy := by
  intro e he
  have hblock : (blocks.blockFor rules roster m).stanza.IsTidy := h.blockFor hrules hm
  rcases Dictionary.mem_entries_insert he with rfl | he
  · exact ⟨hblock.header, hblock.opens, hblock.body.append hlines⟩
  · exact h e he

end Blocks

variable {types : TypeMap} (htypes : types.IsFlat) (hrules : rules.IsFlat) (roster : Roster)

include htypes hrules

/-- **Adding a module leaves the blocks tidy**, and the interfaces on one line each. -/
theorem yields_emit {blocks : Blocks} (h : blocks.AreTidy) (hm : m.IsFlat) :
    Yields IsFlat Blocks.AreTidy (blocks.emit types rules roster m) :=
  (yields_memberLines htypes roster hm).andReturn fun _ hlines => h.append hrules hm hlines

theorem yields_foldlM_emit {blocks : Blocks} (h : blocks.AreTidy) {ms : List Module}
    (hms : ∀ m ∈ ms, m.IsFlat) :
    Yields IsFlat Blocks.AreTidy
      (ms.foldlM (fun (b : Blocks) m => b.emit types rules roster m) blocks) := by
  induction ms generalizing blocks with
  | nil => exact .result h
  | cons m rest ih =>
    rw [List.forall_mem_cons] at hms
    rw [List.foldlM_cons]
    exact (yields_emit htypes hrules roster h hms.1).seq fun _ hadded => ih hadded hms.2

end

/-! ## Drafts -/

section

variable {draft : Draft} (h : draft.IsFlat)

include h

theorem isFlat_propertyOf {m : Module} (hm : m.IsFlat) (roster : Roster) :
    IsFlat (propertyOf roster draft.space m) := by
  have hexposed : IsFlat (exposedName m.name) := by
    rw [exposedName]
    split
    · decide
    · decide
    · decide
    · exact hm.name
  have hqualifier : IsFlat (if roster.isClassLike m then "typeof " else "") := by
    split <;> decide
  exact ((((hexposed.append (by decide)).append hqualifier).append h.space).append
    (by decide)).append hm.declarationName

/-- An interface with properties of modules is tidy. -/
theorem isTidy_composite {c : Composite} {name : String} (hname : IsFlat name)
    (hc : c.header = "interface " ++ name) {roster : Roster} {ms : List Module}
    (hms : ∀ m ∈ ms, m ∈ draft.modules)
    (hmembers : c.members = ms.map (propertyOf roster draft.space)) :
    (c.stanza draft.terminator).IsTidy := by
  have hheader : IsFlat c.header := hc ▸ IsFlat.append (by decide) hname
  have hopens : Opens c.header := hc ▸ opens_interface name
  refine ⟨hheader, hopens, List.forall_mem_map.2 ?_⟩
  rw [hmembers]
  refine List.forall_mem_map.2 fun m hm => ?_
  exact ((isFlat_propertyOf h (h.modules m (hms m hm)) roster).append h.terminator).hangs

theorem isTidy_composites (roster : Roster) :
    ∀ c ∈ (Composites.ofModules draft.modules roster draft.space).toList,
      (c.stanza draft.terminator).IsTidy := by
  obtain ⟨hall, hcommon, hmain, hrenderer⟩ := members_ofModules roster draft.space draft.modules
  have hplaced : ∀ m ∈ placed draft.modules, m ∈ draft.modules := fun m hm =>
    (isExposed_of_mem_firstExposed (firstExposed_eq draft.modules ▸ hm)).1
  have hplacedIn (a : Availability) : ∀ m ∈ placedIn a draft.modules, m ∈ draft.modules :=
    fun m hm => hplaced m (List.mem_filter.1 hm).1
  rw [Composites.toList, List.forall_mem_cons, List.forall_mem_cons, List.forall_mem_cons,
    List.forall_mem_singleton]
  exact ⟨isTidy_composite h (by decide : IsFlat "CommonInterface \x7b") rfl (hplacedIn _) hcommon,
    isTidy_composite h (by decide : IsFlat "MainInterface extends CommonInterface \x7b") rfl
      (hplacedIn _) hmain,
    isTidy_composite h (by decide : IsFlat "RendererInterface extends CommonInterface \x7b") rfl
      (hplacedIn _) hrenderer,
    isTidy_composite h (by decide : IsFlat "AllElectron \x7b") rfl hplaced hall⟩

/-- **Everything that a draft without line feeds declares is tidy.** -/
theorem isTidy_of_build {d : Declarations} (hbuild : draft.build = .ok d) :
    ∀ s ∈ d.stanzas draft.terminator, s.IsTidy := by
  obtain ⟨interner, hrun, hinterfaces, hcomposites⟩ := exists_of_build_eq_ok hbuild
  have hempty : Blocks.empty.AreTidy := List.forall_mem_nil _
  have hstart : draft.start.Keeps IsFlat := ⟨List.forall_mem_nil _, List.forall_mem_nil _⟩
  obtain ⟨hinterner, hblocks⟩ := yields_foldlM_emit h.types h.inheritance
    (Roster.ofModules draft.modules) hempty h.modules draft.start hstart
  rw [Declarations.stanzas, List.forall_mem_append, List.forall_mem_append, List.forall_mem_map,
    List.forall_mem_map, List.forall_mem_map]
  refine ⟨⟨fun b hb => ?_, fun i hi => ?_⟩, ?_⟩
  · obtain ⟨e, he, rfl⟩ := List.mem_map.1 hb
    exact hblocks d.blocks (congrArg Prod.fst hrun) e he
  · rw [hinterfaces] at hi
    obtain ⟨e, he, rfl⟩ := List.mem_map.1 hi
    have hrun2 : (draft.emitAll.run draft.start).2 = interner := congrArg Prod.snd hrun
    obtain ⟨hname, hlines⟩ := hinterner.bodies e (hrun2 ▸ he)
    exact ⟨(IsFlat.append (by decide) hname).append (by decide), (opens_interface e.1).append _,
      fun line hline => (hlines line hline).hangs⟩
  · rw [hcomposites]
    exact isTidy_composites h _

end

end Ambient
