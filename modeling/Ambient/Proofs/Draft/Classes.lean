import Ambient.Proofs.Block.Accumulation
import Ambient.Proofs.Draft.References
import Ambient.Proofs.Member.Lines

/-!
# Which blocks are classes

Three places ask whether a module is declared as a class: the header of its block, the modifier of
its members, and the property of a composite interface that refers to it.  The header is written for
the first module of a key, the others for any of them.  All modules of one key are classes or none
is, so the three agree, unless the first module is a structure: then the block is a type, whatever
the other modules of the key are taken for.

## What is here

* `Block.IsClass`, `Block.IsInterface` — how the header of a block starts.
* `isClassLike_eq` — modules of one key are classes or none is.
* `exists_block_of_build` — the block of a module: its header, and the lines of the module in it.
* `classes_of_build` — where the three places agree.
* `classes_of_build_point` — a structure `Point` with a module `point`.
-/

set_option autoImplicit false

namespace Ambient

open Text

/-! ## Headers -/

/-- The block declares a class. -/
def Block.IsClass (block : Block) : Prop := "class ".toList <+: block.header.toList

/-- The block declares an interface. -/
def Block.IsInterface (block : Block) : Prop := "interface ".toList <+: block.header.toList

section

variable {rules : Inheritance} {roster : Roster} {m : Module} {block : Block}

/-- A header starts with a keyword and the name. -/
theorem exists_headerLine (rules : Inheritance) (roster : Roster) (m : Module) :
    ∃ rest, headerLine rules roster m =
      (if m.isStructure then "type " else if roster.isClassLike m then "class " else "interface ")
        ++ rest := by
  rw [headerLine]
  cases m.isStructure with
  | true => exact ⟨m.declarationName ++ " = \x7b", by simp [String.append_assoc]⟩
  | false => exact ⟨_, by simp [String.append_assoc]; rfl⟩

theorem isClass_iff (h : block.header = headerLine rules roster m) :
    block.IsClass ↔ m.isStructure = false ∧ roster.isClassLike m = true := by
  obtain ⟨rest, hrest⟩ := exists_headerLine rules roster m
  rw [Block.IsClass, h, hrest]
  cases m.isStructure <;> cases roster.isClassLike m <;> simp

theorem isInterface_iff (h : block.header = headerLine rules roster m) :
    block.IsInterface ↔ m.isStructure = false ∧ roster.isClassLike m = false := by
  obtain ⟨rest, hrest⟩ := exists_headerLine rules roster m
  rw [Block.IsInterface, h, hrest]
  cases m.isStructure <;> cases roster.isClassLike m <;> simp

end

/-! ## Modules of one key -/

section

variable {ms : List Module} {m n : Module}

theorem isRepeated_eq (roster : Roster) (h : m.key = n.key) :
    roster.isRepeated m = roster.isRepeated n := by
  rw [Roster.isRepeated, Roster.isRepeated, h]

/-- A key that is not repeated belongs to one module only. -/
theorem eq_of_not_isRepeated (hm : m ∈ ms) (hn : n ∈ ms) (h : m.key = n.key)
    (hrep : (Roster.ofModules ms).isRepeated m = false) : m = n := by
  have hcount : (ms.filter (·.key == m.key)).length ≤ 1 := by
    rw [← List.countP_eq_length_filter]
    simpa [Roster.isRepeated, Roster.ofModules, List.count, List.countP_map, Function.comp_def]
      using hrep
  have hm2 : m ∈ ms.filter (·.key == m.key) := List.mem_filter.2 ⟨hm, by simp⟩
  have hn2 : n ∈ ms.filter (·.key == m.key) := List.mem_filter.2 ⟨hn, by simp [h]⟩
  rcases hfilter : ms.filter (·.key == m.key) with _ | ⟨o, _ | ⟨_, _⟩⟩
  · simp [hfilter] at hm2
  · rw [hfilter, List.mem_singleton] at hm2 hn2
    rw [hm2, hn2]
  · simp [hfilter] at hcount

/-- **Modules of one key are declared as classes, or none is.** -/
theorem isClassLike_eq (hm : m ∈ ms) (hn : n ∈ ms) (h : m.key = n.key) :
    (Roster.ofModules ms).isClassLike m = (Roster.ofModules ms).isClassLike n := by
  cases hrep : (Roster.ofModules ms).isRepeated m with
  | true =>
    have hrep2 := (isRepeated_eq (Roster.ofModules ms) h).symm.trans hrep
    rw [Roster.isClassLike, Roster.isClassLike, hrep, hrep2, Bool.or_true, Bool.or_true]
  | false => rw [eq_of_not_isRepeated hm hn h hrep]

end

/-! ## The block of a module -/

/-- Where all calls succeed, the block of a key is opened by the first module of the key, and has
the lines of all of them. -/
theorem exists_blockOf {calls : List Emission} (hall : ∀ c ∈ calls, c.succeeds = true)
    {c : Emission} (hc : c ∈ calls) :
    ∃ first ∈ calls, ∃ block,
      (calls.map Emission.subject).find? (·.key == c.key) = some first.subject ∧
      blockOf (successes calls c.key) = some block ∧
      block.header = headerLine first.rules first.roster first.subject ∧
      ∀ line ∈ c.lines, line ∈ block.body := by
  have hsuccesses : successes calls c.key = calls.filter (·.key == c.key) :=
    List.filter_congr fun d hd => by simp [hall d hd]
  have hmem : c ∈ calls.filter (·.key == c.key) := List.mem_filter.2 ⟨hc, by simp⟩
  have hhead : (calls.filter (·.key == c.key)).head? = calls.find? (·.key == c.key) :=
    List.head?_filter
  rw [hsuccesses, List.find?_map]
  cases hfilter : calls.filter (·.key == c.key) with
  | nil => simp [hfilter] at hmem
  | cons first more =>
    rw [hfilter] at hhead hmem
    have hfind : calls.find? (·.key == c.key) = some first := hhead.symm
    refine ⟨first, List.mem_of_find?_eq_some hfind, _, ?_, rfl, rfl, fun line hline => ?_⟩
    · exact congrArg (Option.map Emission.subject) hfind
    · exact List.mem_append_right _ (List.mem_flatMap.2 ⟨c, hmem, hline⟩)

/-- **The block of a module** is opened by the first module of its key, and has the lines of the
module. -/
theorem exists_block_of_build {draft : Draft} {d : Declarations} (h : draft.build = .ok d)
    {m : Module} (hm : m ∈ draft.modules) :
    ∃ first block, draft.modules.find? (·.key == m.key) = some first ∧
      d.blocks.get? m.name = some block ∧
      block.header = headerLine draft.inheritance (Roster.ofModules draft.modules) first ∧
      ∃ g : MemberGroups draft.types (Roster.ofModules draft.modules) m,
        ∀ line ∈ g.lines, line ∈ block.body := by
  obtain ⟨interner, hrun, -, -⟩ := exists_of_build_eq_ok h
  obtain ⟨calls, hsubjects, hcalls, hblocks⟩ := exists_emissions hrun
  obtain ⟨c, hc, rfl⟩ := List.mem_map.1 (hsubjects ▸ hm)
  obtain ⟨hok, htypes, -, hroster⟩ := hcalls c hc
  obtain ⟨first, hfirst, block, hfind, hblock, hheader, hlines⟩ :=
    exists_blockOf (fun c hc => (hcalls c hc).1) hc
  obtain ⟨-, -, hrules2, hroster2⟩ := hcalls first hfirst
  refine ⟨first.subject, block, hsubjects ▸ hfind, ?_, ?_, ?_⟩
  · rw [hblocks]
    exact (get?_emitEach calls c.key).trans hblock
  · rw [hheader, hrules2, hroster2]
  · rw [← htypes, ← hroster]
    obtain ⟨g, hg⟩ := memberGroups_of_run (t := ((memberLines c.types c.roster c.subject).run
      c.interner).2) (Prod.ext (members_of_succeeds hok) rfl)
    exact ⟨g, hg ▸ hlines⟩

/-! ## Agreement -/

/-- The property for a module, with `typeof` in front of what it refers to. -/
def typeofProperty (space : String) (m : Module) : String :=
  exposedName m.name ++ ": typeof " ++ space ++ "." ++ m.declarationName

/-- The property for a module, without `typeof`. -/
def plainProperty (space : String) (m : Module) : String :=
  exposedName m.name ++ ": " ++ space ++ "." ++ m.declarationName

theorem typeofProperty_ne (space : String) (m : Module) :
    typeofProperty space m ≠ plainProperty space m := by
  intro h
  have hlength := congrArg String.length h
  simp only [typeofProperty, plainProperty, String.length_append, Nat.add_right_cancel_iff,
    Nat.add_left_cancel_iff] at hlength
  exact absurd hlength (by decide)

theorem propertyOf_eq (roster : Roster) (space : String) (m : Module) :
    propertyOf roster space m
      = if roster.isClassLike m then typeofProperty space m else plainProperty space m := by
  rw [propertyOf, typeofProperty, plainProperty]
  cases roster.isClassLike m <;> simp [String.append_assoc]

/-- A module that has a property is no structure. -/
theorem Module.isStructure_of_isExposed {m : Module} (h : m.isExposed = true) :
    m.isStructure = false := by
  rw [Module.isExposed, Bool.and_eq_true] at h
  simpa using h.2

section

variable {rules : Inheritance} {space : String} {ms : List Module} {first m : Module}
  {block : Block}

/-- A module with the key of a structure is a structure too, or it is declared as a class. -/
theorem isClassLike_of_isStructure (hfirst : first ∈ ms) (hm : m ∈ ms) (hkey : first.key = m.key)
    (hs : first.isStructure = true) (hms : m.isStructure = false) :
    (Roster.ofModules ms).isClassLike m = true := by
  cases hrep : (Roster.ofModules ms).isRepeated m with
  | true => rw [Roster.isClassLike, hrep, Bool.or_true]
  | false =>
    have heq : m = first := eq_of_not_isRepeated hm hfirst hkey.symm hrep
    rw [heq, hs] at hms
    cases hms

/-- The property of a module has `typeof` just in case the block of its key is a class, unless the
block was opened by a structure. -/
theorem typeof_iff_isClass_iff (hfirst : first ∈ ms) (hm : m ∈ ms) (hkey : first.key = m.key)
    (hms : m.isStructure = false)
    (hheader : block.header = headerLine rules (Roster.ofModules ms) first) :
    (propertyOf (Roster.ofModules ms) space m = typeofProperty space m ↔ block.IsClass) ↔
      first.isStructure = false := by
  have htypeof : propertyOf (Roster.ofModules ms) space m = typeofProperty space m ↔
      (Roster.ofModules ms).isClassLike m = true := by
    rw [propertyOf_eq]
    cases (Roster.ofModules ms).isClassLike m <;> simp [(typeofProperty_ne space m).symm]
  rw [htypeof, isClass_iff hheader, isClassLike_eq hfirst hm hkey]
  cases hs : first.isStructure with
  | false => simp
  | true => simp [isClassLike_of_isStructure hfirst hm hkey hs hms]

/-- A property without `typeof` belongs to an interface. -/
theorem isInterface_of_plain (hfirst : first ∈ ms) (hm : m ∈ ms) (hkey : first.key = m.key)
    (hms : m.isStructure = false)
    (hheader : block.header = headerLine rules (Roster.ofModules ms) first)
    (hplain : propertyOf (Roster.ofModules ms) space m = plainProperty space m) :
    block.IsInterface := by
  have hlike : (Roster.ofModules ms).isClassLike m = false := by
    rw [propertyOf_eq] at hplain
    cases hl : (Roster.ofModules ms).isClassLike m with
    | false => rfl
    | true =>
      rw [hl, if_pos rfl] at hplain
      exact absurd hplain (typeofProperty_ne space m)
  rw [isInterface_iff hheader, isClassLike_eq hfirst hm hkey]
  refine ⟨?_, hlike⟩
  cases hs : first.isStructure with
  | false => rfl
  | true =>
    rw [isClassLike_of_isStructure hfirst hm hkey hs hms] at hlike
    cases hlike

end

section

variable {types : TypeMap} {roster : Roster} {m : Module} (g : MemberGroups types roster m)

/-- The line of a method starts with the modifier of its module. -/
theorem MemberGroups.exists_method_line {method : Method} (h : method ∈ m.methods) :
    ∃ rest, roster.modifier m ++ method.name ++ "(" ++ rest ∈ g.lines := by
  obtain ⟨group, s, t, hrun, hlines⟩ := g.written_methods.exists_of_mem
    ((sortedByName_perm Method.name m.methods).mem_iff.2 h)
  obtain ⟨taken, result, rfl, -⟩ := exists_of_run_methodLines hrun
  refine ⟨taken ++ ")" ++ result ++ ";", ?_⟩
  have hline : roster.modifier m ++ method.name ++ "(" ++ taken ++ ")" ++ result ++ ";" ∈
      g.methods := hlines _ (List.mem_append_right _ (List.mem_singleton.2 rfl))
  simp only [String.append_assoc] at hline ⊢
  simp [MemberGroups.lines, hline]

/-- The line of a property starts with the modifier of its module. -/
theorem MemberGroups.exists_property_line {p : Param} (h : p ∈ m.properties) :
    ∃ type, propertyLine (roster.modifier m) p type ∈ g.lines := by
  obtain ⟨group, s, t, hrun, hlines⟩ := g.written_properties.exists_of_mem
    ((sortedByName_perm Param.name m.properties).mem_iff.2 h)
  obtain ⟨type, rfl⟩ := exists_of_run_propertyLines hrun
  exact ⟨type, List.mem_append_right _ (hlines _ (List.mem_singleton.2 rfl))⟩

end

/-- **Which blocks are classes.**  The properties of the composite interfaces are those of the first
exposed module of each key.  Such a property has `typeof` just in case its block is a class, unless
the block was opened by a structure; one without `typeof` belongs to an interface in any case.  The
methods and properties of a static half stand in its block with `static` in front, those of other
modules without, and the block of a static half is a class unless it was opened by a structure. -/
theorem classes_of_build {draft : Draft} {d : Declarations} (h : draft.build = .ok d) :
    (∀ line, (∃ c ∈ d.composites.toList, line ∈ c.members) ↔ ∃ m ∈ firstExposed draft.modules,
      line = propertyOf (Roster.ofModules draft.modules) draft.space m) ∧
    ∀ m ∈ draft.modules, ∃ first block,
      draft.modules.find? (·.key == m.key) = some first ∧ d.blocks.get? m.name = some block ∧
      (m ∈ firstExposed draft.modules →
        ((propertyOf (Roster.ofModules draft.modules) draft.space m = typeofProperty draft.space m
            ↔ block.IsClass) ↔ first.isStructure = false) ∧
        (propertyOf (Roster.ofModules draft.modules) draft.space m = plainProperty draft.space m
          → block.IsInterface)) ∧
      (∀ method ∈ m.methods, ∃ rest,
        (Roster.ofModules draft.modules).modifier m ++ method.name ++ "(" ++ rest ∈ block.body) ∧
      (∀ p ∈ m.properties, ∃ type,
        propertyLine ((Roster.ofModules draft.modules).modifier m) p type ∈ block.body) ∧
      ((Roster.ofModules draft.modules).isStaticHalf m = true →
        (block.IsClass ↔ first.isStructure = false)) := by
  obtain ⟨-, -, -, hcomposites⟩ := exists_of_build_eq_ok h
  refine ⟨fun line => by rw [hcomposites]; exact mem_members_iff, fun m hm => ?_⟩
  obtain ⟨first, block, hfind, hblock, hheader, g, hlines⟩ := exists_block_of_build h hm
  have hfirst := List.mem_of_find?_eq_some hfind
  have hkey : first.key = m.key := by simpa using List.find?_some hfind
  refine ⟨first, block, hfind, hblock, fun hexp => ?_, fun method hmethod => ?_,
    fun p hp => ?_, fun hhalf => ?_⟩
  · have hms := Module.isStructure_of_isExposed (isExposed_of_mem_firstExposed hexp).2
    exact ⟨typeof_iff_isClass_iff hfirst hm hkey hms hheader,
      isInterface_of_plain hfirst hm hkey hms hheader⟩
  · obtain ⟨rest, hline⟩ := g.exists_method_line hmethod
    exact ⟨rest, hlines _ hline⟩
  · obtain ⟨type, hline⟩ := g.exists_property_line hp
    exact ⟨type, hlines _ hline⟩
  · rw [isClass_iff hheader, isClassLike_eq hfirst hm hkey,
      Roster.isClassLike_of_isStaticHalf hhalf, and_iff_left rfl]

/-- A structure `Point` with a module `point` that has a method. -/
def point : Draft where
  modules := [{ name := "Point", kind := .structureKind },
    { name := "point", availability := some ⟨true, false⟩, methods := [{ name := "distance" }] }]

/-- The property has `typeof` and the method `static`, and the block is a type. -/
theorem classes_of_build_point :
    ∃ d, point.build = .ok d ∧
      d.composites.all.members = ["point: typeof Electron.Point"] ∧
      d.blocks.toList = [⟨"Point", "type Point = \x7b",
        ["", "// Docs: ", "", "static distance(): void;"]⟩] ∧
      ∀ m ∈ point.modules, ∃ first block,
        point.modules.find? (·.key == m.key) = some first ∧ d.blocks.get? m.name = some block ∧
        (m ∈ firstExposed point.modules →
          ((propertyOf (Roster.ofModules point.modules) point.space m = typeofProperty point.space m
              ↔ block.IsClass) ↔ first.isStructure = false)) := by
  have hfacts : point.build.toOption.map (fun d => (d.composites.all.members, d.blocks.toList))
      = some (["point: typeof Electron.Point"], [⟨"Point", "type Point = \x7b",
        ["", "// Docs: ", "", "static distance(): void;"]⟩]) := by
    decide +kernel
  obtain ⟨d, h, hd⟩ := exists_of_map_build hfacts
  refine ⟨d, h, congrArg Prod.fst hd, congrArg Prod.snd hd, fun m hm => ?_⟩
  obtain ⟨first, block, hfind, hblock, hexp, -⟩ := (classes_of_build h).2 m hm
  exact ⟨first, block, hfind, hblock, fun hm => (hexp hm).1⟩

end Ambient
