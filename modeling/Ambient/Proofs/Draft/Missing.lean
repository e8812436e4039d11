import Ambient.Proofs.Draft.Capitalized
import Ambient.Proofs.Draft.Failing

/-!
# Which module a missing name is reported against

A draft that cannot be built reports where a name is missing: what it is that has none, and the
declaration on behalf of which it was being written.  Outside of objects that is a module, and the
name is missing in that very module.  What is missing in an object is reported against the interface
of the object.  No interface is called what a module is called, so that a reader who looks for the
reported name among the modules finds the missing name there or finds no module at all.

## What is here

* `owner_of_build` — **what a missing name is reported against.**
-/

set_option autoImplicit false

namespace Ambient

open Signature Synthesis

/-- **What a missing name is reported against.**  Either it is reported against the module in which
it is missing, outside of objects; or it is missing in an object that is written in some module, as
the name of a field, or of a parameter of a callback in the type of a field, and is reported against
the interface of that object, and then no module has the name that is reported. -/
theorem owner_of_build {draft : Draft} {owner : String} {place : MissingName.Place}
    (h : draft.build = .error (.within owner place)) :
    (∃ m ∈ draft.modules, m.name = owner ∧ m.Lacks place) ∨
    (∀ m ∈ draft.modules, m.name ≠ owner) ∧
      ∃ interner, draft.emitAll.run draft.start = (.error (.within owner place), interner) ∧
        ∃ m ∈ draft.modules, ∃ member p shape, m.Writes member p ∧ p.Holds shape ∧
          shape.isObjectShape = true ∧
          interner.lookup? (shapeKey draft.types shape.properties) = some owner ∧
          LackAt shape.properties owner place := by
  have hnamed : draft.nameless? = none := by
    cases hnameless : draft.nameless? with
    | none => rfl
    | some i =>
      rw [build_of_nameless hnameless] at h
      cases h
  obtain ⟨t, hrun⟩ := (build_eq_error_iff hnamed).1 h
  obtain ⟨m, hm, hreports⟩ := reports_emitAll draft _ _ _ hrun
  rcases hreports with ⟨found, heq, hlacks⟩ | ⟨member, p, hwrites, hinside⟩
  · cases heq
    exact .inl ⟨m, hm, rfl, hlacks⟩
  · obtain ⟨shape, name, found, hholds, hshape, hlookup, hlack, heq⟩ := hinside
    cases heq
    refine .inr ⟨ne_name_of_mem_keys draft ?_, t, hrun, m, hm, member, p, shape, hwrites, hholds,
      hshape, hlookup, hlack⟩
    rw [← interfaces_names, hrun]
    exact ((sound_of_run hrun).faithful.range owner).1 ⟨_, hlookup⟩

/-- A module `app` whose method `run` takes an object that has a field without a name. -/
def unlabelled : Draft where
  modules := [{ name := "app", methods := [{ name := "run", parameters := [
    { name := "details", type := .name "Object",
      properties := [{ name := "", type := .name "String" }] }] }] }]

/-- The field is reported against `Details`, which is no module. -/
theorem owner_of_build_unlabelled :
    unlabelled.build = .error (.within "Details" (.fieldOf "Details")) ∧
      (∀ m ∈ unlabelled.modules, m.name ≠ "Details") ∧
      ∃ m ∈ unlabelled.modules, ∃ member p shape, m.Writes member p ∧ p.Holds shape ∧
        LackAt shape.properties "Details" (.fieldOf "Details") := by
  have hbuild : unlabelled.build = .error (.within "Details" (.fieldOf "Details")) := by
    have herror : (match unlabelled.build with
        | .error e => some e
        | .ok _ => none) = some (.within "Details" (.fieldOf "Details")) := by decide +kernel
    split at herror
    · rename_i e he
      rw [he, Option.some.inj herror]
    · cases herror
  refine ⟨hbuild, ?_⟩
  rcases owner_of_build hbuild with ⟨m, hm, hname, -⟩ | ⟨hnone, interner, -, m, hm, hinside⟩
  · exact absurd hname ((by decide : ∀ m ∈ unlabelled.modules, m.name ≠ "Details") m hm)
  · obtain ⟨member, p, shape, hwrites, hholds, -, -, hlack⟩ := hinside
    exact ⟨hnone, m, hm, member, p, shape, hwrites, hholds, hlack⟩

end Ambient
