import Ambient.Draft
import Ambient.Proofs.Synthesis.Run

/-!
# Which blocks a draft declares

A module either opens a block or adds to the one that the first module of its key has opened.  So
the blocks of a draft are, in order, those of the first modules of each key, and the names that they
declare can be read off the list of modules.

## What is here

* `mem_distinctFrom_iff` — what is kept of a list is what is found first under its key.
* `distinctFrom_append`, `nodup_map_distinctFrom` — the second half of a list, and the keys of what
  is kept.
* `openers` — the first module of each key.
* `Blocks.declared` — the names that blocks declare, by key, and what a module adds to them.
* `names_of_build` — the blocks of a draft declare the names of its openers.
-/

set_option autoImplicit false

namespace Ambient

open Synthesis

/-! ## The first of each key -/

section

variable {α : Type} {key : α → String}

/-- What is kept is what is found first under its key. -/
theorem mem_distinctFrom_iff {seen : List String} {xs : List α} {x : α} :
    x ∈ distinctFrom key seen xs ↔
      key x ∉ seen ∧ xs.find? (fun y => key y == key x) = some x := by
  induction xs generalizing seen with
  | nil => simp [distinctFrom]
  | cons y rest ih =>
    rw [distinctFrom, List.find?_cons]
    by_cases hxy : key y = key x
    · -- An element with the key of `x` hides every later one.
      rw [beq_iff_eq.2 hxy, Option.some.injEq, hxy]
      by_cases hx : key x ∈ seen
      · rw [if_pos (by simpa using hx)]
        exact ⟨fun h => absurd hx (key_notMem_seen h), fun h => absurd hx h.1⟩
      · rw [if_neg (by simpa using hx), List.mem_cons]
        constructor
        · rintro (h | h)
          · exact ⟨hx, h.symm⟩
          · exact absurd (by simp) (key_notMem_seen h)
        · exact fun h => Or.inl h.2.symm
    · rw [beq_eq_false_iff_ne.2 hxy]
      by_cases hy : key y ∈ seen
      · rw [if_pos (by simpa using hy)]
        exact ih
      · have hne : ¬ key x = key y := fun h => hxy h.symm
        have hne2 : x ≠ y := fun h => hxy (h ▸ rfl)
        rw [if_neg (by simpa using hy), List.mem_cons, ih, List.mem_cons, not_or]
        simp only [hne2, hne, false_or, not_false_eq_true, true_and]

/-- Only which keys have been seen matters. -/
theorem distinctFrom_congr {seen other : List String} (xs : List α)
    (h : ∀ k, k ∈ seen ↔ k ∈ other) : distinctFrom key seen xs = distinctFrom key other xs := by
  induction xs generalizing seen other with
  | nil => rfl
  | cons y rest ih =>
    rw [distinctFrom, distinctFrom]
    by_cases hy : key y ∈ seen
    · rw [if_pos (by simpa using hy), if_pos (by simpa using (h _).1 hy), ih h]
    · rw [if_neg (by simpa using hy), if_neg (by simpa using fun h2 => hy ((h _).2 h2))]
      refine congrArg (y :: ·) (ih fun k => ?_)
      rw [List.mem_cons, List.mem_cons, h]

/-- What is kept of the second half of a list depends on the keys of the first half. -/
theorem distinctFrom_append (seen : List String) (xs ys : List α) :
    distinctFrom key seen (xs ++ ys)
      = distinctFrom key seen xs ++ distinctFrom key (xs.map key ++ seen) ys := by
  induction xs generalizing seen with
  | nil => rfl
  | cons x rest ih =>
    rw [List.cons_append, distinctFrom, distinctFrom]
    by_cases hx : key x ∈ seen
    · rw [if_pos (by simpa using hx), if_pos (by simpa using hx), ih]
      refine congrArg _ (distinctFrom_congr ys fun k => ?_)
      simp only [List.map_cons, List.mem_append, List.mem_cons]
      grind
    · rw [if_neg (by simpa using hx), if_neg (by simpa using hx), ih, List.cons_append]
      refine congrArg (x :: _ ++ ·) (distinctFrom_congr ys fun k => ?_)
      simp only [List.map_cons, List.mem_append, List.mem_cons]
      grind

/-- What is kept has distinct keys. -/
theorem nodup_map_distinctFrom (seen : List String) (xs : List α) :
    ((distinctFrom key seen xs).map key).Nodup := by
  induction xs generalizing seen with
  | nil => exact List.nodup_nil
  | cons x rest ih =>
    rw [distinctFrom]
    split
    · exact ih seen
    · rw [List.map_cons, List.nodup_cons]
      refine ⟨fun h => ?_, ih _⟩
      obtain ⟨y, hy, hkey⟩ := List.mem_map.1 h
      exact key_notMem_seen hy (hkey ▸ List.mem_cons_self)

end

/-! ## Openers -/

/-- The modules that open the blocks: the first of each key. -/
def openers (ms : List Module) : List Module := distinctFrom Module.key [] ms

/-- The names that the blocks declare, by key. -/
def Blocks.declared (blocks : Blocks) : List (String × String) :=
  blocks.byKey.entries.map fun e => (e.1, e.2.name)

theorem Blocks.keys_eq (blocks : Blocks) : blocks.byKey.keys = blocks.declared.map Prod.fst := by
  rw [Dictionary.keys, declared, List.map_map]
  rfl

theorem Blocks.names_eq (blocks : Blocks) :
    blocks.toList.map Block.name = blocks.declared.map Prod.snd := by
  rw [toList, Dictionary.values, declared, List.map_map, List.map_map]
  rfl

section

variable {rules : Inheritance} {roster : Roster} {m : Module} {lines : List String}
  {blocks : Blocks}

/-- A block keeps its name when a module adds to it. -/
theorem declared_append_of_mem (h : m.key ∈ blocks.byKey.keys) :
    (blocks.append rules roster m lines).declared = blocks.declared := by
  obtain ⟨⟨_, block⟩, hmem, rfl⟩ := List.mem_map.1 h
  obtain ⟨before, later, hentries⟩ := List.append_of_mem hmem
  have hblock : blocks.blockFor rules roster m = block := by
    rw [Blocks.blockFor, Dictionary.get?_eq_some_iff.2 hmem]
  have hnodup := blocks.byKey.nodup
  rw [hentries, List.map_append, List.nodup_append] at hnodup
  have hnew : m.key ∉ before.map Prod.fst := fun h2 => hnodup.2.2 _ h2 _ (by simp) rfl
  rw [Blocks.append, hblock, Blocks.declared]
  show (Entries.insert m.key _ blocks.byKey.entries).map _ = _
  rw [Blocks.declared, hentries, Entries.insert_append_cons _ block later hnew, List.map_append,
    List.map_append]
  rfl

/-- A module whose key is new opens a block of its own name. -/
theorem declared_append_of_notMem (h : m.key ∉ blocks.byKey.keys) :
    (blocks.append rules roster m lines).declared
      = blocks.declared ++ [(m.key, m.declarationName)] := by
  have hblock : (blocks.blockFor rules roster m).name = m.declarationName := by
    rw [Blocks.blockFor, Dictionary.get?_eq_none_iff.2 h]
  rw [Blocks.append, Blocks.declared, Dictionary.entries_insert_of_notMem _ h, List.map_append,
    List.map_singleton, hblock]
  rfl

/-- What the blocks declare after some modules. -/
theorem declared_foldlM {types : TypeMap} {ms : List Module} {s t : Interner} {result : Blocks}
    (h : (ms.foldlM (fun (b : Blocks) m => b.emit types rules roster m) blocks).run s
      = (.ok result, t)) :
    result.declared = blocks.declared ++
      (distinctFrom Module.key blocks.byKey.keys ms).map fun m => (m.key, m.declarationName) := by
  induction ms generalizing blocks s with
  | nil =>
    cases h
    rw [distinctFrom, List.map_nil, List.append_nil]
  | cons m rest ih =>
    rw [List.foldlM_cons] at h
    obtain ⟨added, r, hemit, hrest⟩ := exists_of_run_bind_eq_ok h
    obtain ⟨lines, r2, -, hadded⟩ := exists_of_run_bind_eq_ok hemit
    obtain rfl : blocks.append rules roster m lines = added := by
      cases hadded
      rfl
    rw [ih hrest, Blocks.keys_eq, distinctFrom]
    by_cases hm : m.key ∈ blocks.byKey.keys
    · rw [declared_append_of_mem hm, if_pos (by simpa using hm), ← Blocks.keys_eq]
    · rw [declared_append_of_notMem hm, if_neg (by simpa using hm), List.map_append,
        ← Blocks.keys_eq, List.map_cons, List.append_assoc, List.singleton_append]
      refine congrArg (fun later => blocks.declared ++ _ :: List.map _ later)
        (distinctFrom_congr rest fun k => ?_)
      rw [List.mem_append, List.mem_cons, or_comm]
      simp

end

/-! ## Building -/

/-- A draft that can be built has blocks, interned interfaces and composite interfaces. -/
theorem exists_of_build_eq_ok {draft : Draft} {d : Declarations} (h : draft.build = .ok d) :
    ∃ interner, draft.emitAll.run (Interner.empty.reserve draft.reservedNames)
        = (.ok d.blocks, interner) ∧ d.interfaces = interner.interfaces ∧
      d.composites =
        Composites.ofModules draft.modules (Roster.ofModules draft.modules) draft.space := by
  rw [Draft.build] at h
  split at h
  · cases h
  · split at h
    · cases h
    · rename_i blocks interner hrun
      cases h
      exact ⟨interner, hrun, rfl, rfl⟩

/-- A draft can be built if something about what it declares can be computed. -/
theorem exists_of_map_build {β : Type} {draft : Draft} {f : Declarations → β} {b : β}
    (h : draft.build.toOption.map f = some b) : ∃ d, draft.build = .ok d ∧ f d = b := by
  cases hbuild : draft.build with
  | error e =>
    rw [hbuild] at h
    cases h
  | ok d =>
    rw [hbuild] at h
    exact ⟨d, rfl, Option.some.inj h⟩

/-- **The blocks of a draft declare the names of its openers**, in order. -/
theorem names_of_build {draft : Draft} {d : Declarations} (h : draft.build = .ok d) :
    d.blocks.toList.map Block.name = (openers draft.modules).map Module.declarationName := by
  obtain ⟨interner, hrun, -, -⟩ := exists_of_build_eq_ok h
  have hdeclared := declared_foldlM hrun
  have hempty : Blocks.empty.declared = [] := rfl
  have hkeys : Blocks.empty.byKey.keys = [] := rfl
  rw [hempty, hkeys, List.nil_append] at hdeclared
  rw [Blocks.names_eq, hdeclared, openers, List.map_map]
  rfl

end Ambient
