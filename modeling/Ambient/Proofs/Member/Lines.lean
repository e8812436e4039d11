import Mathlib.Data.List.Forall2
import Ambient.Block
import Ambient.Proofs.Synthesis.Run

/-!
# The lines of members

If no name is missing, the lines that a module adds are those of its members: group by group, and
within a group member by member, in the order of their names.

## What is here

* `Written lines members out` — `out` is what has been written for the members, one after the other.
* `written_of_run_collect` — a group that can be written is written so.
* `MemberGroups` — the groups of a module; `memberGroups_of_run` — what is written is made of them.
* `exists_of_run_eventLines`, `exists_of_run_methodLines`, `exists_of_run_propertyLines`,
  `exists_of_run_instancePropertyLines` — the line of one member.
-/

set_option autoImplicit false

namespace Ambient

open Signature Synthesis

/-! ## Groups -/

section

variable {α : Type} {lines : α → Synthesis (List String)} {members : List α} {out : List String}
  {s t : Interner}

/-- Lines that have been written for several members, one after the other, each on some interner. -/
def Written (lines : α → Synthesis (List String)) (members : List α) (out : List String) : Prop :=
  ∃ groups : List (List String), out = groups.flatten ∧
    List.Forall₂ (fun member group => ∃ s t, (lines member).run s = (.ok group, t)) members groups

/-- What can be done with several things can be done with each of them. -/
theorem forall₂_of_run_mapM {β : Type} {f : α → Synthesis β} {results : List β}
    (h : (members.mapM f).run s = (.ok results, t)) :
    List.Forall₂ (fun member b => ∃ s t, (f member).run s = (.ok b, t)) members results := by
  induction members generalizing results s with
  | nil =>
    cases h
    exact .nil
  | cons member rest ih =>
    rw [List.mapM_cons] at h
    obtain ⟨b, r, hb, h2⟩ := exists_of_run_bind_eq_ok h
    obtain ⟨more, r2, hmore, h3⟩ := exists_of_run_bind_eq_ok h2
    cases h3
    exact .cons ⟨s, r, hb⟩ (ih hmore)

theorem exists_of_run_mapM {β : Type} {f : α → Synthesis β} {results : List β}
    (h : (members.mapM f).run s = (.ok results, t)) {member : α} (hmember : member ∈ members) :
    ∃ b s t, (f member).run s = (.ok b, t) := by
  have hall := (forall₂_of_run_mapM h).imp fun member b hrun =>
    And.intro (show ∃ b s t, (f member).run s = (.ok b, t) from ⟨b, hrun⟩) hrun
  exact ((List.forall₂_and_left members results).1 hall).1 member hmember

/-- A group that can be written is written member by member. -/
theorem written_of_run_collect (h : (collect lines members).run s = (.ok out, t)) :
    Written lines members out := by
  obtain ⟨groups, r, hgroups, h2⟩ := exists_of_run_bind_eq_ok h
  cases h2
  exact ⟨groups, rfl, forall₂_of_run_mapM hgroups⟩

/-- The lines of each member are among those that have been written. -/
theorem Written.exists_of_mem (h : Written lines members out) {member : α}
    (hmember : member ∈ members) :
    ∃ group s t, (lines member).run s = (.ok group, t) ∧ ∀ line ∈ group, line ∈ out := by
  obtain ⟨groups, rfl, hgroups⟩ := h
  induction hgroups with
  | nil => simp at hmember
  | @cons first group rest more hfirst _ ih =>
    rcases List.mem_cons.1 hmember with rfl | hrest
    · obtain ⟨s, t, hrun⟩ := hfirst
      exact ⟨group, s, t, hrun, fun line hline => by simp [hline]⟩
    · obtain ⟨group2, s, t, hrun, hlines⟩ := ih hrest
      refine ⟨group2, s, t, hrun, fun line hline => ?_⟩
      rw [List.flatten_cons]
      exact List.mem_append_right _ (hlines line hline)

end

/-! ## The lines of a module -/

/-- What stands in front of the methods and properties of a module. -/
def Roster.modifier (roster : Roster) (m : Module) : String :=
  if roster.isStaticHalf m then "static " else ""

/-- The groups of which the lines of a module are made, in their order. -/
structure MemberGroups (types : TypeMap) (roster : Roster) (m : Module) where
  events : List String
  construction : List String
  staticMethods : List String
  methods : List String
  instanceMethods : List String
  instanceProperties : List String
  properties : List String
  written_events : Written (eventLines types m)
    (sortedByName Event.name (m.instanceEvents ++ m.events)) events
  written_construction : ∃ s t, (constructorLines types m).run s = (.ok construction, t)
  written_staticMethods : Written (methodLines types m "static " none)
    (sortedByName Method.name m.staticMethods) staticMethods
  written_methods : Written (methodLines types m (roster.modifier m) none)
    (sortedByName Method.name m.methods) methods
  written_instanceMethods : Written (methodLines types m "" none)
    (sortedByName Method.name m.instanceMethods) instanceMethods
  written_instanceProperties : Written (instancePropertyLines types m)
    (sortedByName Param.name m.instanceProperties) instanceProperties
  written_properties : Written (propertyLines types m (roster.modifier m))
    (sortedByName Param.name m.properties) properties

/-- The groups one after the other. -/
def MemberGroups.lines {types : TypeMap} {roster : Roster} {m : Module}
    (g : MemberGroups types roster m) : List String :=
  g.events ++ g.construction ++ g.staticMethods ++ g.methods ++ g.instanceMethods ++
    g.instanceProperties ++ g.properties

section

variable {types : TypeMap} {roster : Roster} {m : Module} {lines : List String} {s t : Interner}

/-- **The lines of a module are made of its groups.** -/
theorem memberGroups_of_run (h : (memberLines types roster m).run s = (.ok lines, t)) :
    ∃ g : MemberGroups types roster m, lines = g.lines := by
  rw [memberLines] at h
  obtain ⟨events, r1, hevents, h⟩ := exists_of_run_bind_eq_ok h
  obtain ⟨construction, r2, hconstruction, h⟩ := exists_of_run_bind_eq_ok h
  obtain ⟨statics, r3, hstatics, h⟩ := exists_of_run_bind_eq_ok h
  obtain ⟨methods, r4, hmethods, h⟩ := exists_of_run_bind_eq_ok h
  obtain ⟨instances, r5, hinstances, h⟩ := exists_of_run_bind_eq_ok h
  obtain ⟨values, r6, hvalues, h⟩ := exists_of_run_bind_eq_ok h
  obtain ⟨properties, r7, hproperties, h⟩ := exists_of_run_bind_eq_ok h
  cases h
  exact ⟨⟨events, construction, statics, methods, instances, values, properties,
    written_of_run_collect hevents, ⟨r1, r2, hconstruction⟩, written_of_run_collect hstatics,
    written_of_run_collect hmethods, written_of_run_collect hinstances,
    written_of_run_collect hvalues, written_of_run_collect hproperties⟩, rfl⟩

/-! ## The line of one member -/

/-- An event is written as its comment and one overload of `on`. -/
theorem exists_of_run_eventLines {event : Event}
    (h : (eventLines types m event).run s = (.ok lines, t)) :
    ∃ listener, lines = DocComment.ofDescription event.description ++
      ["on(event: '" ++ event.name ++ "', listener: " ++ listener ++ "): this;"] := by
  rw [eventLines] at h
  obtain ⟨listener, r, -, h2⟩ := exists_of_run_bind_eq_ok (run_of_run_guarded h).2
  cases h2
  exact ⟨listener, rfl⟩

theorem exists_of_run_resultSuffix {site : Site} {method : Method} {result : String}
    (h : (resultSuffix types site method).run s = (.ok result, t)) :
    ∃ type, result = ": " ++ type := by
  obtain ⟨type, r, -, h2⟩ := exists_of_run_bind_eq_ok h
  cases h2
  exact ⟨type, rfl⟩

/-- A method is written as its comment and one line, which starts with its modifier and its name.
What is called `constructor` has no result. -/
theorem exists_of_run_methodLines {modifier : String} {seed : Option String} {method : Method}
    (h : (methodLines types m modifier seed method).run s = (.ok lines, t)) :
    ∃ taken result, lines = DocComment.ofDescription method.description ++
        [modifier ++ method.name ++ "(" ++ taken ++ ")" ++ result ++ ";"] ∧
      (method.name = "constructor" ∧ result = "" ∨
        method.name ≠ "constructor" ∧ ∃ type, result = ": " ++ type) := by
  rw [methodLines] at h
  obtain ⟨taken, r, -, h2⟩ := exists_of_run_bind_eq_ok (run_of_run_guarded h).2
  dsimp only at h2
  split at h2
  · rename_i hname
    cases h2
    exact ⟨taken, "", rfl, Or.inl ⟨hname, rfl⟩⟩
  · rename_i hname
    obtain ⟨result, r2, hresult, h3⟩ := exists_of_run_bind_eq_ok h2
    cases h3
    exact ⟨taken, result, rfl, Or.inr ⟨hname, exists_of_run_resultSuffix hresult⟩⟩

/-- A property is written as one line, which starts with its modifier and its name. -/
theorem exists_of_run_propertyLines {modifier : String} {p : Param}
    (h : (propertyLines types m modifier p).run s = (.ok lines, t)) :
    ∃ type, lines = [propertyLine modifier p type] := by
  rw [propertyLines] at h
  obtain ⟨type, r, -, h2⟩ := exists_of_run_bind_eq_ok (run_of_run_guarded h).2
  cases h2
  exact ⟨type, rfl⟩

/-- So is a property of instances, without a modifier. -/
theorem exists_of_run_instancePropertyLines {p : Param}
    (h : (instancePropertyLines types m p).run s = (.ok lines, t)) :
    ∃ type, lines = [propertyLine "" p type] := by
  rw [instancePropertyLines] at h
  obtain ⟨type, r, -, h2⟩ := exists_of_run_bind_eq_ok (run_of_run_guarded h).2
  cases h2
  exact ⟨type, rfl⟩

end

end Ambient
