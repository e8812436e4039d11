import Ambient.Proofs.Block.Accumulation
import Ambient.Proofs.Member.Lines
import Ambient.Proofs.Member.Order
import Ambient.Proofs.Text.ByteOrder

/-!
# What a module adds to its block

A module adds one line for each of its members, with the comment of the member in front.  Since no
two lines are put together and none is left out, the members can be read off in order: events, the
constructor, methods of the class, methods, methods of its instances, and properties likewise, each
group sorted by name.

A method or a property of the module itself is one of the class if the module is half of a class,
that is if it is no class or structure and another module has its name.

## What is here

* `Member` — a member as it is declared; `Member.Line` — the lines that may declare it.
* `Declares members lines` — the lines declare the members one after the other;
  `Written.declares` — what has been written for a group declares it.
* `IsSorted` — sorted by the bytes of names, members of one name as they were given.
* `Module.Listing`, `IsModifier` — the members of a module in the order in which they are declared,
  and what stands in front of those that it shares with a class.
* `declares_of_emit` — these are what a module adds.
-/

set_option autoImplicit false

namespace Ambient

open Synthesis

/-! ## Members -/

/-- A member as it is declared, with what stands in front of its name. -/
inductive Member where
  | event (event : Event)
  | method (modifier : String) (method : Method)
  | property (modifier : String) (p : Param)

namespace Member

/-- The comment of a member.  Properties have none. -/
def comment : Member → List String
  | event e => DocComment.ofDescription e.description
  | method _ m => DocComment.ofDescription m.description
  | property _ _ => []

/-- The line declares the member. -/
inductive Line : Member → String → Prop
  | event (e : Event) (listener : String) :
      Line (.event e) ("on(event: '" ++ e.name ++ "', listener: " ++ listener ++ "): this;")
  | method (modifier : String) {m : Method} (name : m.name ≠ "constructor")
      (taken type : String) :
      Line (.method modifier m) (modifier ++ m.name ++ "(" ++ taken ++ ")" ++ ": " ++ type ++ ";")
  | construction (modifier : String) {m : Method} (name : m.name = "constructor")
      (taken : String) :
      Line (.method modifier m) (modifier ++ m.name ++ "(" ++ taken ++ ")" ++ ";")
  | property (modifier : String) (p : Param) (type : String) :
      Line (.property modifier p)
        (modifier ++ p.name ++ (if p.isOptional then "?" else "") ++ ": " ++ type ++ ";")

end Member

/-- The lines declare the members one after the other, each under its comment. -/
inductive Declares : List Member → List String → Prop
  | nil : Declares [] []
  | cons {member : Member} {text : String} {members : List Member} {lines : List String}
      (line : member.Line text) (rest : Declares members lines) :
      Declares (member :: members) (member.comment ++ text :: lines)

section

variable {members more : List Member} {lines others : List String}

theorem Declares.append (h : Declares members lines) (h2 : Declares more others) :
    Declares (members ++ more) (lines ++ others) := by
  induction h with
  | nil => exact h2
  | cons line _ ih =>
    rw [List.append_assoc, List.cons_append]
    exact .cons line ih

/-- A member is written as its comment and one line. -/
def WrittenAs (member : Member) (group : List String) : Prop :=
  ∃ text, member.Line text ∧ group = member.comment ++ [text]

/-- What has been written for a group declares its members. -/
theorem Written.declares {α : Type} {write : α → Synthesis (List String)} {given : List α}
    {declared : α → Member} (h : Written write given lines)
    (hwrite : ∀ a group s t, (write a).run s = (.ok group, t) → WrittenAs (declared a) group) :
    Declares (given.map declared) lines := by
  obtain ⟨groups, rfl, hgroups⟩ := h
  induction hgroups with
  | nil => exact .nil
  | @cons a group rest groups hrun _ ih =>
    obtain ⟨s, t, hrun⟩ := hrun
    obtain ⟨text, hline, rfl⟩ := hwrite a group s t hrun
    rw [List.flatten_cons, List.append_assoc]
    exact .cons hline ih

end

/-! ## The lines of each member -/

section

variable {types : TypeMap} {m : Module} {group : List String} {s t : Interner}

theorem writtenAs_of_eventLines {e : Event} (h : (eventLines types m e).run s = (.ok group, t)) :
    WrittenAs (.event e) group := by
  obtain ⟨listener, hgroup⟩ := exists_of_run_eventLines h
  exact ⟨_, .event e listener, hgroup⟩

theorem writtenAs_of_methodLines {modifier : String} {seed : Option String} {method : Method}
    (h : (methodLines types m modifier seed method).run s = (.ok group, t)) :
    WrittenAs (.method modifier method) group := by
  obtain ⟨taken, result, rfl, ⟨hname, rfl⟩ | ⟨hname, type, rfl⟩⟩ := exists_of_run_methodLines h
  · refine ⟨_, .construction modifier hname taken, ?_⟩
    rw [String.append_empty]
    rfl
  · refine ⟨_, .method modifier hname taken type, ?_⟩
    rw [← String.append_assoc]
    rfl

theorem writtenAs_of_propertyLines {modifier : String} {p : Param}
    (h : (propertyLines types m modifier p).run s = (.ok group, t)) :
    WrittenAs (.property modifier p) group := by
  obtain ⟨type, rfl⟩ := exists_of_run_propertyLines h
  exact ⟨_, .property modifier p type, rfl⟩

theorem writtenAs_of_instancePropertyLines {p : Param}
    (h : (instancePropertyLines types m p).run s = (.ok group, t)) :
    WrittenAs (.property "" p) group := by
  obtain ⟨type, rfl⟩ := exists_of_run_instancePropertyLines h
  exact ⟨_, .property "" p type, rfl⟩

end

/-! ## The order of members -/

/-- The same members in the order of the bytes of their names, those of one name as they were
given. -/
structure IsSorted {α : Type} (name : α → String) (given sorted : List α) : Prop where
  perm : sorted.Perm given
  order : sorted.Pairwise fun x y => Text.bytes (name x) ≤ Text.bytes (name y)
  stable : ∀ n, sorted.filter (name · == n) = given.filter (name · == n)

theorem isSorted_sortedByName {α : Type} (name : α → String) (given : List α) :
    IsSorted name given (sortedByName name given) where
  perm := sortedByName_perm name given
  order := (pairwise_sortedByName name given).imp fun h hlt =>
    String.not_lt.2 h (Text.bytes_lt_iff.1 hlt)
  stable := filter_sortedByName name given

/-- The members of a module, each group in the order in which it is declared. -/
structure Module.Listing (m : Module) where
  events : List Event
  staticMethods : List Method
  methods : List Method
  instanceMethods : List Method
  instanceProperties : List Param
  properties : List Param
  sorted_events : IsSorted Event.name (m.instanceEvents ++ m.events) events
  sorted_staticMethods : IsSorted Method.name m.staticMethods staticMethods
  sorted_methods : IsSorted Method.name m.methods methods
  sorted_instanceMethods : IsSorted Method.name m.instanceMethods instanceMethods
  sorted_instanceProperties : IsSorted Param.name m.instanceProperties instanceProperties
  sorted_properties : IsSorted Param.name m.properties properties

/-- The members of a module as they are declared, one group after the other. -/
def Module.Listing.members {m : Module} (l : m.Listing) (modifier : String) : List Member :=
  l.events.map .event ++ m.construction.toList.map (fun c => .method "" c.asMethod) ++
    l.staticMethods.map (.method "static ") ++ l.methods.map (.method modifier) ++
    l.instanceMethods.map (.method "") ++ l.instanceProperties.map (.property "") ++
    l.properties.map (.property modifier)

/-- The groups of a module sorted by name. -/
def Module.listing (m : Module) : m.Listing where
  events := sortedByName Event.name (m.instanceEvents ++ m.events)
  staticMethods := sortedByName Method.name m.staticMethods
  methods := sortedByName Method.name m.methods
  instanceMethods := sortedByName Method.name m.instanceMethods
  instanceProperties := sortedByName Param.name m.instanceProperties
  properties := sortedByName Param.name m.properties
  sorted_events := isSorted_sortedByName _ _
  sorted_staticMethods := isSorted_sortedByName _ _
  sorted_methods := isSorted_sortedByName _ _
  sorted_instanceMethods := isSorted_sortedByName _ _
  sorted_instanceProperties := isSorted_sortedByName _ _
  sorted_properties := isSorted_sortedByName _ _

/-! ## Methods and properties of a class -/

/-- What stands in front of the methods and properties of a module among others: `static ` if it is
half of a class. -/
structure IsModifier (ms : List Module) (m : Module) (modifier : String) : Prop where
  static_iff : modifier = "static " ↔ m.kind = .moduleKind ∧ 1 < (ms.map Module.key).count m.key
  /-- For a module of the list: it is half of a class if another one has its key. -/
  static_iff_of_mem : ∀ front back, ms = front ++ m :: back →
    (modifier = "static " ↔ m.kind = .moduleKind ∧ ∃ other ∈ front ++ back, other.key = m.key)
  none_of_ne : modifier ≠ "static " → modifier = ""

section

variable {ms : List Module} {m : Module}

theorem count_key_append_cons (front back : List Module) :
    1 < ((front ++ m :: back).map Module.key).count m.key ↔
      ∃ other ∈ front ++ back, other.key = m.key := by
  have hcount : ((front ++ m :: back).map Module.key).count m.key
      = ((front ++ back).map Module.key).count m.key + 1 := by
    simp only [List.map_append, List.map_cons, List.count_append, List.count_cons_self]
    omega
  rw [hcount, Nat.lt_add_left_iff_pos, List.count_pos_iff, List.mem_map]

theorem isModifier_modifier (ms : List Module) (m : Module) :
    IsModifier ms m ((Roster.ofModules ms).modifier m) := by
  have hiff : (Roster.ofModules ms).modifier m = "static " ↔
      m.kind = .moduleKind ∧ 1 < (ms.map Module.key).count m.key := by
    have hhalf : (Roster.ofModules ms).isStaticHalf m = true ↔
        m.kind = .moduleKind ∧ 1 < (ms.map Module.key).count m.key := by
      have hkind : (m.kind == .moduleKind) = true ↔ m.kind = .moduleKind := by
        cases m.kind <;> decide
      rw [Roster.isStaticHalf, Bool.and_eq_true, hkind, Roster.isRepeated, decide_eq_true_iff]
      rfl
    rw [Roster.modifier, ← hhalf]
    split <;> simp [*]
  refine ⟨hiff, ?_, fun hne => ?_⟩
  · rintro front back rfl
    rw [hiff, count_key_append_cons]
  · rw [Roster.modifier] at hne ⊢
    split at hne
    · exact absurd rfl hne
    · rw [if_neg ‹_›]

end

/-! ## Adding a module -/

section

variable {types : TypeMap} {m : Module} {lines : List String} {s t : Interner}

theorem declares_of_construction (h : (constructorLines types m).run s = (.ok lines, t)) :
    Declares (m.construction.toList.map fun c => .method "" c.asMethod) lines := by
  rw [constructorLines] at h
  cases hc : m.construction with
  | none =>
    rw [hc] at h
    cases h
    exact .nil
  | some c =>
    rw [hc] at h
    obtain ⟨text, hline, rfl⟩ := writtenAs_of_methodLines h
    exact .cons hline .nil

/-- The lines of a module declare its members. -/
theorem MemberGroups.declares {roster : Roster} (g : MemberGroups types roster m) :
    Declares (m.listing.members (roster.modifier m)) g.lines := by
  obtain ⟨s, t, hconstruction⟩ := g.written_construction
  exact ((((((g.written_events.declares fun e _ _ _ => writtenAs_of_eventLines).append
    (declares_of_construction hconstruction)).append
    (g.written_staticMethods.declares fun _ _ _ _ => writtenAs_of_methodLines)).append
    (g.written_methods.declares fun _ _ _ _ => writtenAs_of_methodLines)).append
    (g.written_instanceMethods.declares fun _ _ _ _ => writtenAs_of_methodLines)).append
    (g.written_instanceProperties.declares fun _ _ _ _ =>
      writtenAs_of_instancePropertyLines)).append
    (g.written_properties.declares fun _ _ _ _ => writtenAs_of_propertyLines)

/-- **What a module adds to its block declares its members**, each by one line under its comment:
events, the constructor, static methods, methods, methods of instances, properties of instances and
properties, every group sorted by name.  If the block is new, these lines stand under its header,
and if not, under all that were there; the other blocks stay as they are. -/
theorem declares_of_emit {rules : Inheritance} {ms : List Module} {blocks after : Blocks}
    (h : (blocks.emit types rules (Roster.ofModules ms) m).run s = (.ok after, t)) :
    ∃ (modifier : String) (listing : m.Listing) (lines : List String),
      IsModifier ms m modifier ∧ Declares (listing.members modifier) lines ∧
      (blocks.byKey.get? m.key = none →
        after.byKey.get? m.key = some ⟨m.declarationName,
          headerLine rules (Roster.ofModules ms) m, docsLines m ++ lines⟩) ∧
      (∀ block, blocks.byKey.get? m.key = some block →
        after.byKey.get? m.key = some { block with body := block.body ++ lines }) ∧
      ∀ key, key ≠ m.key → after.byKey.get? key = blocks.byKey.get? key := by
  obtain ⟨lines, r, hlines, hafter⟩ := exists_of_run_bind_eq_ok h
  cases hafter
  obtain ⟨g, rfl⟩ := memberGroups_of_run hlines
  let call : Emission := ⟨types, rules, Roster.ofModules ms, s, m⟩
  exact ⟨_, m.listing, g.lines, isModifier_modifier ms m, g.declares,
    fun hnone => get?_append_of_none (c := call) hnone _,
    fun block hsome => get?_append_of_some (c := call) hsome _,
    fun key hne => get?_append_of_ne (c := call) hne _⟩

end

/-- The module half of a class, with a member in most groups. -/
def dock : Module where
  name := "dock"
  construction := some {}
  methods := [{ name := "hide", description := some "Hides it." }]
  instanceProperties := [{ name := "icon", type := .name "String" }]
  properties := [{ name := "badge", type := .name "String", required := some false }]
  instanceEvents := [{ name := "shown" }]

/-- The other half. -/
def dockClass : Module where
  name := "Dock"
  kind := .classKind

/-- The block of the module half. -/
theorem declares_of_emit_dock :
    ∃ after t, (Blocks.empty.emit TypeMap.builtin Inheritance.usual
          (Roster.ofModules [dockClass, dock]) dock).run Interner.empty = (.ok after, t) ∧
      ∃ (listing : dock.Listing) (lines : List String),
        Declares (listing.members "static ") lines ∧
        after.byKey.get? dock.key = some ⟨"Dock", "class Dock \x7b", docsLines dock ++ lines⟩ ∧
        lines = ["on(event: 'shown', listener: () => void): this;", "constructor();", "/**",
          " * Hides it.", " */", "static hide(): void;", "icon: string;",
          "static badge?: string;"] := by
  have hfacts : ((Blocks.empty.emit TypeMap.builtin Inheritance.usual
      (Roster.ofModules [dockClass, dock]) dock).run Interner.empty).1.toOption.bind
        (fun after => after.byKey.get? dock.key)
      = some ⟨"Dock", "class Dock \x7b", docsLines dock ++
        ["on(event: 'shown', listener: () => void): this;", "constructor();", "/**",
          " * Hides it.", " */", "static hide(): void;", "icon: string;",
          "static badge?: string;"]⟩ := by decide +kernel
  rcases hrun : (Blocks.empty.emit TypeMap.builtin Inheritance.usual
    (Roster.ofModules [dockClass, dock]) dock).run Interner.empty with ⟨e | after, t⟩
  · rw [hrun] at hfacts
    cases hfacts
  · rw [hrun] at hfacts
    obtain ⟨modifier, listing, lines, hmodifier, hdeclares, hnew, -⟩ := declares_of_emit hrun
    obtain rfl : modifier = "static " := hmodifier.static_iff.2 ⟨rfl, by decide +kernel⟩
    have hbody := congrArg Block.body (Option.some.inj ((hnew rfl).symm.trans hfacts))
    obtain rfl := List.append_cancel_left hbody
    exact ⟨after, t, rfl, listing, _, hdeclares, hfacts, rfl⟩

end Ambient
