import Ambient.Proofs.Draft.Openers

/-!
# What the composite interfaces refer to

A property of a composite interface refers to a declaration by the name of a module: the first one
of its key that is available anywhere.  The block of that key is named after the first module of the
key, available or not.  Where the two modules are spelled differently behind their first letter, the
property refers to a declaration that is not there.

## What is here

* `Module.isExposed`, `firstExposed` — the modules that have a property, and the first of each key.
* `exposures_eq`, `mem_members_iff` — the properties are those of the first exposed modules.
* `references_of_build` — which of them refer to a block.
* `references_of_build_shouting` — modules `foo` and `FOO`, of which only the second is available.
-/

set_option autoImplicit false

namespace Ambient

open Text

/-! ## Which modules have a property -/

/-- The module is available in some process and is no structure. -/
def Module.isExposed (m : Module) : Bool :=
  m.availability.any (fun a => a.main || a.renderer) && !m.isStructure

/-- The modules that have a property: of those that are exposed, the first of each key. -/
def firstExposed (ms : List Module) : List Module :=
  distinctFrom Module.key [] (ms.filter Module.isExposed)

/-- The name of a property has the key of its module. -/
theorem lowercase_exposedName (name : String) : lowercase (exposedName name) = lowercase name := by
  rw [exposedName]
  split
  · rename_i h
    rw [h]
    decide +kernel
  · rename_i h
    rw [h]
    decide +kernel
  · rename_i h
    rw [h]
    decide +kernel
  · rfl

section

variable (roster : Roster) (space : String)

theorem exposed?_of_not_isExposed {m : Module} (h : m.isExposed = false) :
    exposed? roster space m = none := by
  rw [exposed?]
  cases ha : m.availability with
  | none => rfl
  | some a =>
    rw [Module.isExposed, ha, Option.any_some] at h
    cases hs : m.isStructure with
    | true => rfl
    | false =>
      rw [hs, Bool.not_false, Bool.and_true, Bool.or_eq_false_iff] at h
      simp [h.1, h.2]

theorem exposed?_of_isExposed {m : Module} (h : m.isExposed = true) :
    ∃ a, m.availability = some a ∧
      exposed? roster space m = some ⟨exposedName m.name, a, propertyOf roster space m⟩ := by
  rw [Module.isExposed, Bool.and_eq_true, Bool.not_eq_true'] at h
  obtain ⟨a, ha, hruns⟩ : ∃ a, m.availability = some a ∧ (a.main || a.renderer) = true := by
    simpa [Option.any_eq_true] using h.1
  refine ⟨a, ha, ?_⟩
  have hruns2 : (!a.main && !a.renderer) = false := by
    rw [← Bool.not_or, hruns]
    rfl
  rw [exposed?, ha]
  simp only [h.2, hruns2, Bool.false_eq_true, if_false]

/-- The entries are those of the first exposed modules. -/
theorem exposures_eq (ms : List Module) :
    exposures roster space ms = (firstExposed ms).filterMap (exposed? roster space) := by
  rw [exposures, firstExposed]
  generalize ([] : List String) = seen
  induction ms generalizing seen with
  | nil => rfl
  | cons m rest ih =>
    cases hm : m.isExposed with
    | false =>
      rw [List.filterMap_cons_none (exposed?_of_not_isExposed roster space hm),
        List.filter_cons_of_neg (by simp [hm]), ih]
    | true =>
      obtain ⟨a, -, hentry⟩ := exposed?_of_isExposed roster space hm
      rw [List.filterMap_cons_some hentry, List.filter_cons_of_pos hm, distinctFrom, distinctFrom,
        lowercase_exposedName]
      show (if seen.contains m.key then _ else _) = _
      split
      · exact ih seen
      · rw [List.filterMap_cons_some hentry, ih]
        rfl

variable {roster space}

theorem mem_exposures_line {ms : List Module} {e : Exposed}
    (h : e ∈ exposures roster space ms) :
    ∃ m ∈ firstExposed ms, e.line = propertyOf roster space m := by
  rw [exposures_eq, List.mem_filterMap] at h
  obtain ⟨m, hm, hentry⟩ := h
  refine ⟨m, hm, ?_⟩
  cases hexp : m.isExposed with
  | false =>
    rw [exposed?_of_not_isExposed roster space hexp] at hentry
    cases hentry
  | true =>
    obtain ⟨a, -, hentry2⟩ := exposed?_of_isExposed roster space hexp
    rw [hentry2, Option.some.injEq] at hentry
    rw [← hentry]

theorem isExposed_of_mem_firstExposed {ms : List Module} {m : Module} (h : m ∈ firstExposed ms) :
    m ∈ ms ∧ m.isExposed = true := by
  rw [firstExposed, mem_distinctFrom_iff] at h
  have h2 := List.mem_of_find?_eq_some h.2
  exact List.mem_filter.1 h2

/-- **The properties are those of the first exposed modules.** -/
theorem mem_members_iff {ms : List Module} {line : String} :
    (∃ c ∈ (Composites.ofModules ms roster space).toList, line ∈ c.members) ↔
      ∃ m ∈ firstExposed ms, line = propertyOf roster space m := by
  constructor
  · rintro ⟨c, hc, hline⟩
    have hmem : line ∈ (exposures roster space ms).map Exposed.line := by
      simp only [Composites.toList, Composites.ofModules, Composites.ofExposures, List.mem_cons,
        List.not_mem_nil, or_false] at hc
      rcases hc with rfl | rfl | rfl | rfl
      · exact (List.filter_sublist.map _).subset hline
      · exact (List.filter_sublist.map _).subset hline
      · exact (List.filter_sublist.map _).subset hline
      · exact hline
    obtain ⟨e, he, rfl⟩ := List.mem_map.1 hmem
    exact mem_exposures_line he
  · rintro ⟨m, hm, rfl⟩
    obtain ⟨a, -, hentry⟩ := exposed?_of_isExposed roster space
      (isExposed_of_mem_firstExposed hm).2
    refine ⟨_, List.mem_cons_of_mem _ (List.mem_cons_of_mem _ (List.mem_cons_of_mem _
      (List.mem_singleton.2 rfl))), ?_⟩
    show _ ∈ (exposures roster space ms).map Exposed.line
    rw [exposures_eq]
    exact List.mem_map.2 ⟨_, List.mem_filterMap.2 ⟨m, hm, hentry⟩, rfl⟩

end

/-! ## References -/

/-- A declaration has the name of a module if the module that opens the block of its key has it,
where capitalising names keeps their keys. -/
theorem exists_opener_iff {ms : List Module} {m : Module} (hm : m ∈ ms)
    (hkeys : ∀ o ∈ ms, lowercase o.declarationName = o.key) :
    (∃ o ∈ openers ms, o.declarationName = m.declarationName) ↔
      ∃ o, ms.find? (fun o => o.key == m.key) = some o ∧
        o.declarationName = m.declarationName := by
  constructor
  · rintro ⟨o, ho, hname⟩
    rw [openers, mem_distinctFrom_iff] at ho
    have hkey : o.key = m.key := by
      rw [← hkeys o (List.mem_of_find?_eq_some ho.2), ← hkeys m hm, hname]
    exact ⟨o, hkey ▸ ho.2, hname⟩
  · rintro ⟨o, ho, hname⟩
    have hkey : o.key = m.key := by simpa using List.find?_some ho
    exact ⟨o, mem_distinctFrom_iff.2 ⟨List.not_mem_nil, hkey ▸ ho⟩, hname⟩

/-- **Which properties refer to a block.**  The properties of the composite interfaces are those of
the first exposed module of each key.  Such a property refers to a block just in case a module that
opens a block declares the same name, and, where capitalising names keeps their keys, just in case
the first module of its own key does. -/
theorem references_of_build {draft : Draft} {d : Declarations} (h : draft.build = .ok d) :
    (∀ line, (∃ c ∈ d.composites.toList, line ∈ c.members) ↔
      ∃ m ∈ firstExposed draft.modules,
        line = propertyOf (Roster.ofModules draft.modules) draft.space m) ∧
    (∀ m ∈ firstExposed draft.modules,
      m.declarationName ∈ d.blocks.toList.map Block.name ↔
        ∃ o ∈ openers draft.modules, o.declarationName = m.declarationName) ∧
    ((∀ o ∈ draft.modules, lowercase o.declarationName = o.key) →
      ∀ m ∈ firstExposed draft.modules,
        m.declarationName ∈ d.blocks.toList.map Block.name ↔
          ∃ o, draft.modules.find? (fun o => o.key == m.key) = some o ∧
            o.declarationName = m.declarationName) := by
  obtain ⟨interner, -, -, hcomposites⟩ := exists_of_build_eq_ok h
  have hnames : ∀ m : Module, m.declarationName ∈ d.blocks.toList.map Block.name ↔
      ∃ o ∈ openers draft.modules, o.declarationName = m.declarationName := fun m => by
    rw [names_of_build h, List.mem_map]
  refine ⟨fun line => ?_, fun m _ => hnames m, fun hkeys m hm => ?_⟩
  · rw [hcomposites]
    exact mem_members_iff
  · rw [hnames]
    exact exists_opener_iff (isExposed_of_mem_firstExposed hm).1 hkeys

/-- Modules `foo` and `FOO`, of which only the second is available. -/
def shouting : Draft where
  modules := [{ name := "foo" }, { name := "FOO", availability := some ⟨true, false⟩ }]

/-- The property refers to `FOO`, and the block is named `Foo`. -/
theorem references_of_build_shouting :
    ∃ d, shouting.build = .ok d ∧
      d.composites.all.members = ["FOO: typeof Electron.FOO"] ∧
      d.blocks.toList.map Block.name = ["Foo"] ∧
      ∀ m ∈ firstExposed shouting.modules,
        m.declarationName ∈ d.blocks.toList.map Block.name ↔
          ∃ o ∈ openers shouting.modules, o.declarationName = m.declarationName := by
  have hfacts : shouting.build.toOption.map (fun d =>
      (d.composites.all.members, d.blocks.toList.map Block.name))
        = some (["FOO: typeof Electron.FOO"], ["Foo"]) := by
    decide +kernel
  cases h : shouting.build with
  | error e =>
    rw [h] at hfacts
    cases hfacts
  | ok d =>
    rw [h] at hfacts
    have hpair := Option.some.inj hfacts
    exact ⟨d, rfl, congrArg Prod.fst hpair, congrArg Prod.snd hpair,
      (references_of_build h).2.1⟩

end Ambient
