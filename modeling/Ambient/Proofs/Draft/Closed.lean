import Ambient.Proofs.Draft.Openers
import Ambient.Proofs.Synthesis.Operations

/-!
# What the interfaces of a draft are

A draft that can be built declares every interface that its blocks and its interfaces refer to, each
once, with a body that was written for the fields of the shape for which the name was claimed.  No
interface has the name of another declaration.

## What is here

* `fieldLines` — what a field adds to a body: its comment and its statement.
* `Interface.IsWritten` — the body of an interface is that of a list of fields.
* `isWritten_of_interfaceLines` — what `interfaceLines` writes is such a body.
* `name_notMem_reservedNames` — no interface has a reserved name.
* `interfaces_of_build` — the interfaces of a draft.
-/

set_option autoImplicit false

namespace Ambient

open Signature Synthesis

/-! ## Bodies -/

/-- What a field adds to a body: its comment, and one statement. -/
def fieldLines (field : Param) (type : String) : List String :=
  DocComment.ofDescription field.description ++ [fieldText field type]

/-- The body of the interface is what the fields add to it, one after the other.  Each type is
written in the interface, and writing it brings in nothing that the interner does not have. -/
def Interface.IsWritten (types : TypeMap) (interner : Interner) (i : Interface)
    (fields : List Param) : Prop :=
  ∃ texts : List String,
    List.Forall₂ (fun field text =>
      (valueType types ⟨i.name, i.name, none⟩ (some (Naming.ofField i.name)) field).run interner
        = (.ok text, interner)) fields texts ∧
    i.lines = (List.zipWith fieldLines fields texts).flatten

/-- A body that can be written on an interner that has all its names. -/
theorem exists_texts {types : TypeMap} {owner : String} {fields : List Param}
    {lines : List String} {s t : Interner}
    (h : (interfaceLines types owner fields).run s = (.ok lines, t)) :
    ∃ texts : List String,
      List.Forall₂ (fun field text => ∀ u : Interner, u.Knows t →
        (valueType types ⟨owner, owner, none⟩ (some (Naming.ofField owner)) field).run u
          = (.ok text, u)) fields texts ∧
      lines = (List.zipWith fieldLines fields texts).flatten := by
  induction fields generalizing lines s with
  | nil =>
    rw [interfaceLines] at h
    cases h
    exact ⟨[], .nil, rfl⟩
  | cons field rest ih =>
    rw [interfaceLines] at h
    obtain ⟨type, r, htype, h2⟩ := exists_of_run_bind_eq_ok (run_of_run_guarded h).2
    obtain ⟨more, r2, hrest, h3⟩ := exists_of_run_bind_eq_ok h2
    cases h3
    obtain ⟨texts, htexts, rfl⟩ := ih hrest
    have hknows := (extends_of_run (composed_interfaceLines types owner rest) hrest).knows
    refine ⟨type :: texts, .cons (fun u hu => ?_) htexts, ?_⟩
    · exact run_of_knows (composed_valueType types _ _ field) htype u (hu.trans hknows)
    · rw [List.zipWith_cons_cons, List.flatten_cons, fieldLines, List.append_assoc]
      rfl

theorem isWritten_of_interfaceLines {types : TypeMap} {interner : Interner} {i : Interface}
    {fields : List Param}
    (h : (interfaceLines types i.name fields).run interner = (.ok i.lines, interner)) :
    i.IsWritten types interner fields := by
  obtain ⟨texts, htexts, hlines⟩ := exists_texts h
  exact ⟨texts, htexts.imp fun _ _ htext => htext interner (.refl interner), hlines⟩

/-- The body for some fields has a line. -/
theorem Interface.IsWritten.lines_ne_nil {types : TypeMap} {interner : Interner} {i : Interface}
    {fields : List Param} (h : i.IsWritten types interner fields) (hfields : fields ≠ []) :
    i.lines ≠ [] := by
  obtain ⟨texts, htexts, hlines⟩ := h
  cases htexts with
  | nil => exact absurd rfl hfields
  | cons hfirst hrest =>
    rw [hlines, List.zipWith_cons_cons, List.flatten_cons, fieldLines]
    simp

/-! ## Building -/

/-- The interner on which the blocks of a draft are written. -/
def Draft.start (draft : Draft) : Interner := Interner.empty.reserve draft.reservedNames

/-- Emitting all modules leaves a sound interner behind, be the draft one that can be built or
not. -/
theorem sound_of_run {draft : Draft} {r : Except MissingName Blocks} {interner : Interner}
    (h : draft.emitAll.run draft.start = (r, interner)) :
    Desk.Sound draft.reservedNames ⟨interner, []⟩ := by
  have hsession := session_of_composed (composed_emitAll draft) draft.start []
  have hsound := sound_of_session hsession (sound_start draft.reservedNames)
  rwa [h] at hsound

/-- **No interface has a reserved name.** -/
theorem name_notMem_reservedNames {draft : Draft} {d : Declarations} (h : draft.build = .ok d)
    {i : Interface} (hi : i ∈ d.interfaces) : i.name ∉ draft.reservedNames := by
  obtain ⟨interner, hrun, hinterfaces, -⟩ := exists_of_build_eq_ok h
  rw [hinterfaces] at hi
  exact ((sound_of_run hrun).faithful.free i hi).2

/-- The names of the blocks are names of modules. -/
theorem name_mem_reservedNames {draft : Draft} {d : Declarations} (h : draft.build = .ok d)
    {name : String} (hname : name ∈ d.blocks.toList.map Block.name) :
    name ∈ draft.reservedNames := by
  rw [names_of_build h, List.mem_map] at hname
  obtain ⟨o, ho, rfl⟩ := hname
  rw [openers, mem_distinctFrom_iff] at ho
  have hmem := List.mem_of_find?_eq_some ho.2
  rw [Draft.reservedNames, List.append_assoc]
  exact List.mem_append_left _ (List.mem_map_of_mem hmem)

/-- **What the interfaces of a draft are.**  There is an interner on which all blocks have been
written.  Every call on the way that asked for an interface got a name that is declared once.  Every
interface comes from the call that claimed its name, has a body, and the body is that of the fields
of the shape with which the call was made.  And every name is declared once only, by this interface
alone. -/
theorem interfaces_of_build {draft : Draft} {d : Declarations} (h : draft.build = .ok d) :
    ∃ interner, draft.emitAll.run draft.start = (.ok d.blocks, interner) ∧
      d.interfaces = interner.interfaces ∧
      (∀ c, Calls draft.types draft.emitAll draft.start c →
        ∃ name, (c.run draft.types).1 = .ok name ∧
          (d.interfaces.map Interface.name).count name = 1) ∧
      (∀ i ∈ d.interfaces, i.lines ≠ [] ∧
        ∃ c, Calls draft.types draft.emitAll draft.start c ∧ c.Claims draft.types ∧
          i.name = c.name ∧ i.IsWritten draft.types interner c.fields) ∧
      (d.interfaces.map Interface.name).Nodup ∧
      ∀ i ∈ d.interfaces, i.name ∉ d.blocks.toList.map Block.name ∧
        i.name ∉ Draft.preludeNames ∧ i.name ∉ Composites.names := by
  obtain ⟨interner, hrun, hinterfaces, -⟩ := exists_of_build_eq_ok h
  have hsound := sound_of_run hrun
  have hnodup : (d.interfaces.map Interface.name).Nodup := by
    rw [hinterfaces, interfaces_names]
    exact interner.bodies.nodup
  refine ⟨interner, hrun, hinterfaces, fun c hc => ?_, fun i hi => ?_, hnodup, fun i hi => ?_⟩
  · obtain ⟨name, hname, hlookup⟩ := lookup?_of_calls hc hrun
    have hmem : name ∈ d.interfaces.map Interface.name := by
      rw [hinterfaces]
      exact (hsound.faithful.range name).1 ⟨_, hlookup⟩
    exact ⟨name, hname, List.count_eq_one_of_mem hnodup hmem⟩
  · rw [hinterfaces, Interner.interfaces, List.mem_map] at hi
    obtain ⟨entry, hentry, rfl⟩ := hi
    obtain ⟨c, hc, hclaims, hfields, hname, hlines⟩ :=
      exists_call (composed_emitAll draft) hrun entry hentry List.not_mem_nil
    have hwritten := isWritten_of_interfaceLines (i := ⟨entry.1, entry.2⟩)
      (hlines interner (.refl interner))
    exact ⟨hwritten.lines_ne_nil hfields, c, hc, hclaims, hname, hwritten⟩
  · have hfree := name_notMem_reservedNames h hi
    refine ⟨fun hblock => hfree (name_mem_reservedNames h hblock), fun hprelude => hfree ?_,
      fun hcomposite => hfree ?_⟩
    · rw [Draft.reservedNames]
      exact List.mem_append_left _ (List.mem_append_right _ hprelude)
    · rw [Draft.reservedNames]
      exact List.mem_append_right _ hcomposite

/-- A module `app` whose method `open` takes options, one of which is an object. -/
def opening : Draft where
  modules := [{ name := "app", methods := [{ name := "open", parameters := [
    { name := "options", type := .name "Object", properties := [
      { name := "bounds", type := .name "Object", properties := [
        { name := "x", type := .name "Integer" }] }] }] }] }]

/-- The options are declared in front of the object. -/
theorem interfaces_of_build_opening :
    ∃ d interner, opening.build = .ok d ∧
      d.interfaces = [⟨"AppOpenOptions", ["bounds: Bounds;"]⟩,
        ⟨"Bounds", ["x: number;"]⟩] ∧
      opening.emitAll.run opening.start = (.ok d.blocks, interner) ∧
      ∀ i ∈ d.interfaces, i.lines ≠ [] ∧
        ∃ c, Calls opening.types opening.emitAll opening.start c ∧ c.Claims opening.types ∧
          i.name = c.name ∧ i.IsWritten opening.types interner c.fields := by
  have hfacts : opening.build.toOption.map (fun d => d.interfaces)
      = some [⟨"AppOpenOptions", ["bounds: Bounds;"]⟩,
        ⟨"Bounds", ["x: number;"]⟩] := by
    decide +kernel
  cases h : opening.build with
  | error e =>
    rw [h] at hfacts
    cases hfacts
  | ok d =>
    rw [h] at hfacts
    obtain ⟨interner, hrun, -, -, hwritten, -⟩ := interfaces_of_build h
    exact ⟨d, interner, rfl, Option.some.inj hfacts, hrun, hwritten⟩

end Ambient
