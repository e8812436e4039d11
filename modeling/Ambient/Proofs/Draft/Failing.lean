import Ambient.Proofs.Block.Accumulation
import Ambient.Proofs.Draft.Closed
import Ambient.Proofs.Member.Missing

/-!
# When a draft can be built

The first module without a name is the first thing that is noticed, before anything is written.
After that, the blocks are written one by one, and the first name that is asked for and not there
ends the building.

## What is here

* `reports_emitAll` — what the blocks of a draft report.
* `failsOnlyIf_emitAll`, `hasNames_of_emitAll` — the blocks can be written if everything has a name,
  and if they can be written, at least everything outside of objects has one.
* `nameless?_eq_some` — the first module without a name.
* `build_needs_names` — when a draft can be built, and what is missing if it cannot.
-/

set_option autoImplicit false

namespace Ambient

open Signature Synthesis

/-! ## Blocks -/

/-- What the blocks of a draft report. -/
theorem reports_emitAll (draft : Draft) :
    Reports (fun t e => ∃ m ∈ draft.modules, m.ReportsOf draft.types t e) draft.emitAll := by
  have hmodules (ms : List Module) (blocks : Blocks) :
      Reports (fun t e => ∃ m ∈ ms, m.ReportsOf draft.types t e)
        (ms.foldlM (fun (b : Blocks) m =>
          b.emit draft.types draft.inheritance (Roster.ofModules draft.modules) m) blocks) := by
    induction ms generalizing blocks with
    | nil => exact .result blocks
    | cons m rest ih =>
      rw [List.foldlM_cons]
      refine .seq (Reports.andReturn ((reports_memberLines draft.types _ m).mono
        fun t e h => ⟨m, List.mem_cons_self, h⟩) _) fun more => ?_
      exact (ih more).mono fun t e ⟨o, ho, h⟩ => ⟨o, List.mem_cons_of_mem m ho, h⟩
  exact hmodules draft.modules Blocks.empty

/-- The blocks of a draft can be written if everything has a name. -/
theorem failsOnlyIf_emitAll (draft : Draft) :
    FailsOnlyIf (¬ ∀ m ∈ draft.modules, m.HasNames true) draft.emitAll :=
  (reports_emitAll draft).mono fun _ _ ⟨m, hm, h⟩ =>
    h.missing.imp_right fun hnot hnamed => hnot (hnamed m hm)

/-- If they can be written, everything has a name, at least outside of objects. -/
theorem hasNames_of_emitAll {draft : Draft} {s t : Interner} {blocks : Blocks}
    (h : draft.emitAll.run s = (.ok blocks, t)) : ∀ m ∈ draft.modules, m.HasNames false := by
  obtain ⟨calls, hmodules, hcalls, -⟩ := exists_emissions h
  intro m hm
  rw [← hmodules, List.mem_map] at hm
  obtain ⟨c, hc, rfl⟩ := hm
  have hmembers := members_of_succeeds (hcalls c hc).1
  rw [Emission.members] at hmembers
  exact hasNames_of_memberLines (Prod.ext hmembers rfl)

/-! ## Drafts -/

namespace Draft

/-- The first module without a name. -/
theorem nameless?_eq_some {draft : Draft} {i : Nat} :
    draft.nameless? = some i ↔ (∃ m, draft.modules[i]? = some m ∧ isBlankName m.name = true) ∧
      ∀ j < i, ∀ o, draft.modules[j]? = some o → isBlankName o.name = false := by
  rw [nameless?, List.findIdx?_eq_some_iff_getElem]
  constructor
  · rintro ⟨hi, hblank, hbefore⟩
    refine ⟨⟨_, List.getElem?_eq_getElem hi, hblank⟩, fun j hj o ho => ?_⟩
    obtain ⟨hlt, rfl⟩ := List.getElem?_eq_some_iff.1 ho
    simpa using hbefore j hj
  · rintro ⟨⟨m, hm, hblank⟩, hbefore⟩
    obtain ⟨hi, rfl⟩ := List.getElem?_eq_some_iff.1 hm
    refine ⟨hi, hblank, fun j hj => ?_⟩
    rw [hbefore j hj _ (List.getElem?_eq_getElem (hj.trans hi))]
    decide

theorem nameless?_eq_none {draft : Draft} :
    draft.nameless? = none ↔ ∀ m ∈ draft.modules, isBlankName m.name = false := by
  rw [nameless?, List.findIdx?_eq_none_iff]

end Draft

theorem build_of_nameless {draft : Draft} {i : Nat} (h : draft.nameless? = some i) :
    draft.build = .error (.ofModule i) := by
  rw [Draft.build, h]

/-- If every module has a name, building a draft fails where its blocks cannot be written. -/
theorem build_eq_error_iff {draft : Draft} {e : MissingName} (h : draft.nameless? = none) :
    draft.build = .error e ↔ ∃ t, draft.emitAll.run draft.start = (.error e, t) := by
  rw [Draft.build, h, Draft.start]
  rcases draft.emitAll.run (Interner.empty.reserve draft.reservedNames) with ⟨d | blocks, t⟩
  · constructor
    · intro heq
      cases heq
      exact ⟨t, rfl⟩
    · rintro ⟨u, heq⟩
      cases heq
      rfl
  · constructor
    · intro heq
      cases heq
    · rintro ⟨u, heq⟩
      cases heq

open Draft

section

variable {draft : Draft}

theorem nameless?_of_build {d : Declarations} (h : draft.build = .ok d) :
    draft.nameless? = none := by
  cases hnameless : draft.nameless? with
  | none => rfl
  | some i =>
    rw [build_of_nameless hnameless] at h
    cases h

/-- A draft can be built if everything in it has a name. -/
theorem exists_build_of_hasNames
    (h : ∀ m ∈ draft.modules, isBlankName m.name = false ∧ m.HasNames true) :
    ∃ d, draft.build = .ok d := by
  cases hbuild : draft.build with
  | ok d => exact ⟨d, rfl⟩
  | error e =>
    have hnamed : draft.nameless? = none := nameless?_eq_none.2 fun m hm => (h m hm).1
    obtain ⟨t, hrun⟩ := (build_eq_error_iff hnamed).1 hbuild
    exact absurd (fun m hm => (h m hm).2) (failsOnlyIf_emitAll draft _ _ _ hrun).2

/-- The fields of an object have names if an interface has been written for it. -/
theorem areNamed_of_build {d : Declarations} (h : draft.build = .ok d) :
    ∃ interner, draft.emitAll.run draft.start = (.ok d.blocks, interner) ∧
      d.interfaces = interner.interfaces ∧
      ∀ i ∈ d.interfaces, ∃ c, Calls draft.types draft.emitAll draft.start c ∧
        c.Claims draft.types ∧ i.name = c.name ∧ i.IsWritten draft.types interner c.fields ∧
        Param.AreNamed false c.fields := by
  obtain ⟨interner, hrun, hinterfaces, -⟩ := exists_of_build_eq_ok h
  refine ⟨interner, hrun, hinterfaces, fun i hi => ?_⟩
  rw [hinterfaces, Interner.interfaces, List.mem_map] at hi
  obtain ⟨entry, hentry, rfl⟩ := hi
  obtain ⟨c, hc, hclaims, -, hname, hlines⟩ :=
    exists_call (composed_emitAll draft) hrun entry hentry List.not_mem_nil
  have hbody := hlines interner (.refl interner)
  exact ⟨c, hc, hclaims, hname, isWritten_of_interfaceLines hbody,
    areNamed_of_areTyped (areTyped_of_interfaceLines hbody)⟩

/-- What a draft that cannot be built lacks. -/
theorem missing_of_build {e : MissingName} (h : draft.build = .error e) :
    (∃ i m, e = .ofModule i ∧ draft.modules[i]? = some m ∧ isBlankName m.name = true) ∨
      (∃ owner place, e = .within owner place) ∧
        (∀ m ∈ draft.modules, isBlankName m.name = false) ∧
        ∃ m ∈ draft.modules, ¬ m.HasNames true := by
  cases hnameless : draft.nameless? with
  | some i =>
    rw [build_of_nameless hnameless] at h
    cases h
    obtain ⟨⟨m, hm, hblank⟩, -⟩ := nameless?_eq_some.1 hnameless
    exact Or.inl ⟨i, m, rfl, hm, hblank⟩
  | none =>
    obtain ⟨t, hrun⟩ := (build_eq_error_iff hnameless).1 h
    obtain ⟨hwithin, hmissing⟩ := failsOnlyIf_emitAll draft _ _ _ hrun
    exact Or.inr ⟨hwithin, nameless?_eq_none.1 hnameless, by simpa using hmissing⟩

end

/-- **When a draft can be built.**  A module whose name is blank is reported before anything else,
the first if there are several.  Otherwise the draft can be built if everything in it has a name, at
any depth; and if it can be built, everything has a name that is not part of an object, and so have
the fields of each object for which an interface has been written.  A draft that cannot be built
lacks the name of a module, or a name within one of its modules. -/
theorem build_needs_names (draft : Draft) :
    (∀ i m, draft.modules[i]? = some m → isBlankName m.name = true →
      (∀ j < i, ∀ o, draft.modules[j]? = some o → isBlankName o.name = false) →
      draft.build = .error (.ofModule i)) ∧
    ((∀ m ∈ draft.modules, isBlankName m.name = false ∧ m.HasNames true) →
      ∃ d, draft.build = .ok d) ∧
    (∀ d, draft.build = .ok d →
      (∀ m ∈ draft.modules, isBlankName m.name = false ∧ m.HasNames false) ∧
      ∃ interner, draft.emitAll.run draft.start = (.ok d.blocks, interner) ∧
        d.interfaces = interner.interfaces ∧
        ∀ i ∈ d.interfaces, ∃ c, Calls draft.types draft.emitAll draft.start c ∧
          c.Claims draft.types ∧ i.name = c.name ∧ i.IsWritten draft.types interner c.fields ∧
          Param.AreNamed false c.fields) ∧
    ∀ e, draft.build = .error e →
      (∃ i m, e = .ofModule i ∧ draft.modules[i]? = some m ∧ isBlankName m.name = true) ∨
      (∃ owner place, e = .within owner place) ∧
        (∀ m ∈ draft.modules, isBlankName m.name = false) ∧
        ∃ m ∈ draft.modules, ¬ m.HasNames true := by
  refine ⟨fun i m hm hblank hbefore => ?_, exists_build_of_hasNames, fun d h => ?_,
    fun e h => missing_of_build h⟩
  · exact build_of_nameless (nameless?_eq_some.2 ⟨⟨m, hm, hblank⟩, hbefore⟩)
  · have hnamed := nameless?_eq_none.1 (nameless?_of_build h)
    obtain ⟨interner, hrun, hinterfaces⟩ := areNamed_of_build h
    exact ⟨fun m hm => ⟨hnamed m hm, hasNames_of_emitAll hrun m hm⟩, interner, hrun, hinterfaces⟩

/-- A module `app` whose method `open` takes an object and a callback. -/
def calling : Draft where
  modules := [{ name := "app", methods := [{ name := "open", parameters := [
    { name := "options", type := .name "Object", properties := [{ name := "x" }] },
    { name := "done", type := .name "Function", parameters := [{ name := "error" }] }] }] }]

theorem hasNames_calling : ∀ m ∈ calling.modules, m.HasNames true := by
  have hplain (name : String) : Param.HasNames true { name := name } := by
    have hfunction : ({ name := name } : Param).isFunction = false := rfl
    have hshape : ({ name := name } : Param).isObjectShape = false := rfl
    exact .intro (fun h => by cases hfunction.symm.trans h.2)
      (fun h => by cases hfunction.symm.trans h.2) (fun h => by cases hshape.symm.trans h)
  have hone {name : String} (h : name ≠ "") : Param.AreNamed true [{ name := name }] :=
    List.forall_mem_singleton.2 ⟨h, hplain name⟩
  refine List.forall_mem_singleton.2 ⟨List.forall_mem_nil _, nofun, ?_, List.forall_mem_nil _⟩
  refine List.forall_mem_singleton.2 ⟨by decide, ?_, nofun⟩
  refine List.forall_mem_cons.2 ⟨⟨by decide, ?_⟩, List.forall_mem_singleton.2 ⟨by decide, ?_⟩⟩
  · exact .intro (fun h => absurd h.2 (by decide)) (fun h => absurd h.2 (by decide))
      fun _ => hone (by decide)
  · exact .intro (fun _ => hone (by decide)) (fun _ => nofun) fun h => absurd h (by decide)

/-- The module can be declared; one more module that is blank, or an event without a name, is
reported. -/
theorem build_needs_names_calling :
    (∃ d, calling.build = .ok d ∧ d.interfaces.map Interface.name = ["AppOpenOptions"] ∧
      ∀ i ∈ d.interfaces, ∃ c, Calls calling.types calling.emitAll calling.start c ∧
        i.name = c.name ∧ Param.AreNamed false c.fields) ∧
    (calling.add [{ name := " " }]).build = .error (.ofModule 1) ∧
    ∃ m ∈ (calling.add [{ name := "menu", events := [{ name := "" }] }]).modules,
      ¬ m.HasNames true := by
  refine ⟨?_, ?_, ?_⟩
  · obtain ⟨d, hd⟩ := (build_needs_names calling).2.1 fun m hm =>
      ⟨(by decide : ∀ m ∈ calling.modules, isBlankName m.name = false) m hm, hasNames_calling m hm⟩
    have hnames : calling.build.toOption.map (fun d => d.interfaces.map Interface.name)
        = some ["AppOpenOptions"] := by decide +kernel
    rw [hd] at hnames
    obtain ⟨-, interner, -, -, hinterfaces⟩ := (build_needs_names calling).2.2.1 d hd
    refine ⟨d, hd, Option.some.inj hnames, fun i hi => ?_⟩
    obtain ⟨c, hc, -, hname, -, hnamed⟩ := hinterfaces i hi
    exact ⟨c, hc, hname, hnamed⟩
  · refine (build_needs_names _).1 1 { name := " " } rfl (by decide) fun j hj o ho => ?_
    obtain rfl : j = 0 := by omega
    cases ho
    decide
  · have herror : (match (calling.add [{ name := "menu", events := [{ name := "" }] }]).build with
        | .error e => some e
        | .ok _ => none) = some (.within "menu" .event) := by decide +kernel
    split at herror
    · rename_i e he
      rcases (build_needs_names _).2.2.2 e he with ⟨i, m, rfl, -, -⟩ | ⟨-, -, hmissing⟩
      · cases herror
      · exact hmissing
    · cases herror

end Ambient
