import Mathlib.Data.List.Basic
import Mathlib.Data.List.Induction
import Mathlib.Data.List.Nodup
import Mathlib.Data.List.Pairwise
import Ambient.Proofs.Composite.Property
import Ambient.Proofs.Draft.References

/-!
# Which interface a module goes to

Every module that has a property has it in the interface of all modules and in one of the three
others, which is chosen by the processes in which the module is available.  Which modules have a
property depends only on those in front of them that are exposed: a module that is not exposed, or
that comes too late, takes no name away from a later one.

## What is here

* `Module.isPlacedAfter`, `placed`, `placedIn` — the modules that have a property, by what stands in
  front of them and by where they are available.
* `firstExposed_eq` — they are the first exposed modules of each key.
* `Composites.Splits` — three interfaces split the fourth.
* `routing_ofModules` — the members of the four interfaces.
-/

set_option autoImplicit false

namespace Ambient

open Text

/-! ## Modules that have a property -/

/-- The module has a property behind these: it is exposed, and none of them is that has its key. -/
def Module.isPlacedAfter (m : Module) (earlier : List Module) : Bool :=
  m.isExposed && earlier.all fun o => !(o.isExposed && o.key == m.key)

/-- The modules of a list that have a property behind those in front of them. -/
def placed (ms : List Module) : List Module :=
  (ms.zipIdx.filter fun p => p.1.isPlacedAfter (ms.take p.2)).map Prod.fst

/-- Those of them that are available in just these processes. -/
def placedIn (a : Availability) (ms : List Module) : List Module :=
  (placed ms).filter (·.availability == some a)

section

variable {ms : List Module} {m : Module}

theorem isPlacedAfter_eq_false_iff {earlier : List Module} (h : m.isExposed = true) :
    m.isPlacedAfter earlier = false ↔ m.key ∈ (earlier.filter Module.isExposed).map Module.key := by
  rw [Module.isPlacedAfter, h, Bool.true_and]
  simp only [List.all_eq_false, List.mem_map, List.mem_filter]
  simp [and_assoc]

/-- A module that has no property behind these adds nothing to the first exposed ones. -/
theorem distinctFrom_filter_cons {earlier : List Module} (later : List Module)
    (h : m.isPlacedAfter earlier = false) :
    distinctFrom Module.key ((earlier.filter Module.isExposed).map Module.key)
        ((m :: later).filter Module.isExposed)
      = distinctFrom Module.key ((earlier.filter Module.isExposed).map Module.key)
        (later.filter Module.isExposed) := by
  cases hm : m.isExposed with
  | false => rw [List.filter_cons_of_neg (by simp [hm])]
  | true =>
    have hseen := (isPlacedAfter_eq_false_iff hm).1 h
    rw [List.filter_cons_of_pos hm, distinctFrom, if_pos (by simpa using hseen)]

/-- The first exposed modules of a list in two parts. -/
theorem firstExposed_append (before after : List Module) :
    firstExposed (before ++ after) = firstExposed before ++
      distinctFrom Module.key ((before.filter Module.isExposed).map Module.key)
        (after.filter Module.isExposed) := by
  rw [firstExposed, firstExposed, List.filter_append, distinctFrom_append, List.append_nil]

/-- A module that has no property takes none away from a later one. -/
theorem firstExposed_append_cons {before : List Module} (after : List Module)
    (h : m.isPlacedAfter before = false) :
    firstExposed (before ++ m :: after) = firstExposed (before ++ after) := by
  rw [firstExposed_append, firstExposed_append, distinctFrom_filter_cons after h]

/-- One more module has a property, or it has none. -/
theorem firstExposed_concat (ms : List Module) (m : Module) :
    firstExposed (ms ++ [m]) = firstExposed ms ++ [m].filter (·.isPlacedAfter ms) := by
  cases hplaced : m.isPlacedAfter ms with
  | false =>
    rw [firstExposed_append_cons [] hplaced, List.append_nil,
      List.filter_cons_of_neg (by simp [hplaced]), List.filter_nil, List.append_nil]
  | true =>
    have hm : m.isExposed = true := (Bool.and_eq_true_iff.1 hplaced).1
    have hnew : m.key ∉ (ms.filter Module.isExposed).map Module.key := fun hseen => by
      rw [(isPlacedAfter_eq_false_iff hm).2 hseen] at hplaced
      cases hplaced
    rw [firstExposed_append, List.filter_cons_of_pos hm, distinctFrom,
      if_neg (by simpa using hnew), List.filter_cons_of_pos (by exact hplaced)]
    rfl

/-- The same, for what stands in front of each module. -/
theorem placed_concat (ms : List Module) (m : Module) :
    placed (ms ++ [m]) = placed ms ++ [m].filter (·.isPlacedAfter ms) := by
  have hearlier : ms.zipIdx.filter (fun p => p.1.isPlacedAfter ((ms ++ [m]).take p.2))
      = ms.zipIdx.filter (fun p => p.1.isPlacedAfter (ms.take p.2)) :=
    List.filter_congr fun p hp => by
      have hlt : p.2 < ms.length := List.snd_lt_of_mem_zipIdx hp
      rw [List.take_append_of_le_length (Nat.le_of_lt hlt)]
  rw [placed, placed, List.zipIdx_append, List.filter_append, List.map_append, hearlier]
  refine congrArg _ ?_
  cases hplaced : m.isPlacedAfter ms <;> simp [List.zipIdx_cons, hplaced]

/-- The modules that have a property are the first exposed ones of each key. -/
theorem firstExposed_eq (ms : List Module) : firstExposed ms = placed ms := by
  -- One more module at the end changes neither what is in front of the others nor which are kept.
  induction ms using List.reverseRecOn with
  | nil => rfl
  | append_singleton ms m ih => rw [firstExposed_concat, placed_concat, ih]

end

/-! ## Members -/

section

variable (roster : Roster) (space : String) (ms : List Module)

/-- The entry of a module that is exposed. -/
def entryOf (m : Module) : Exposed :=
  ⟨exposedName m.name, m.availability.getD {}, propertyOf roster space m⟩

/-- The entries are those of the modules that have a property. -/
theorem exposures_eq_map : exposures roster space ms = (placed ms).map (entryOf roster space) := by
  rw [exposures_eq, ← firstExposed_eq]
  refine List.filterMap_eq_map_iff_forall_eq_some.2 fun m hm => ?_
  obtain ⟨a, ha, hentry⟩ := exposed?_of_isExposed roster space (isExposed_of_mem_firstExposed hm).2
  rw [hentry, entryOf, ha, Option.getD_some]

/-- The members of the interface of some processes. -/
theorem members_eq {choose : Exposed → Bool} {a : Availability}
    (ha : (({} : Availability) == a) = false)
    (h : ∀ e : Exposed, choose e = (e.availability == a)) :
    ((exposures roster space ms).filter choose).map Exposed.line
      = (placedIn a ms).map (propertyOf roster space) := by
  rw [placedIn, exposures_eq_map, List.filter_map, List.map_map]
  refine congrArg _ (List.filter_congr fun m _ => ?_)
  rw [Function.comp_apply, h, entryOf]
  cases hm : m.availability with
  | none => exact ha
  | some b => rfl

/-- The members of the four interfaces are the properties of the modules that have one, by the
processes in which they are available. -/
theorem members_ofModules :
    let c := Composites.ofModules ms roster space
    c.all.members = (placed ms).map (propertyOf roster space) ∧
    c.common.members = (placedIn ⟨true, true⟩ ms).map (propertyOf roster space) ∧
    c.main.members = (placedIn ⟨true, false⟩ ms).map (propertyOf roster space) ∧
    c.renderer.members = (placedIn ⟨false, true⟩ ms).map (propertyOf roster space) := by
  refine ⟨?_, members_eq roster space ms (by decide) fun e => ?_,
    members_eq roster space ms (by decide) fun e => ?_,
    members_eq roster space ms (by decide) fun e => ?_⟩
  · show (exposures roster space ms).map Exposed.line = _
    rw [exposures_eq_map, List.map_map]
    rfl
  all_goals
    obtain ⟨_, ⟨main, renderer⟩, _⟩ := e
    cases main <;> cases renderer <;> rfl

end

/-! ## Splitting -/

/-- The interfaces other than that of all modules. -/
def Composites.parts (c : Composites) : List Composite := [c.common, c.main, c.renderer]

/-- Three interfaces split the fourth: each has some of its members, in their order, and each of its
members is in one of them, once. -/
structure Composites.Splits (c : Composites) : Prop where
  nodup : c.all.members.Nodup
  sublist : ∀ part ∈ c.parts, part.members.Sublist c.all.members
  perm : (c.parts.flatMap Composite.members).Perm c.all.members
  unique : ∀ line ∈ c.all.members, ∃! part, part ∈ c.parts ∧ line ∈ part.members

section

variable {roster : Roster} {space : String} {ms : List Module} {m : Module}

theorem isExposed_of_mem_placed (h : m ∈ placed ms) : m.isExposed = true :=
  (isExposed_of_mem_firstExposed (firstExposed_eq ms ▸ h)).2

/-- A module that is exposed is available in both processes or in one. -/
theorem availability_cases (h : m.isExposed = true) :
    m.availability = some ⟨true, true⟩ ∨ m.availability = some ⟨true, false⟩ ∨
      m.availability = some ⟨false, true⟩ := by
  rw [Module.isExposed, Bool.and_eq_true] at h
  obtain ⟨⟨main, renderer⟩, ha, hruns⟩ := (Option.any_eq_true _ _).1 h.1
  rw [ha]
  cases main <;> cases renderer <;> simp_all

/-- Modules that are exposed, by the processes in which they are available. -/
theorem perm_of_availability {xs : List Module} (h : ∀ m ∈ xs, m.isExposed = true) :
    (xs.filter (·.availability == some ⟨true, true⟩)
      ++ (xs.filter (·.availability == some ⟨true, false⟩)
      ++ xs.filter (·.availability == some ⟨false, true⟩))).Perm xs := by
  induction xs with
  | nil => exact .nil
  | cons m rest ih =>
    have hrest := ih fun o ho => h o (List.mem_cons_of_mem m ho)
    rcases availability_cases (h m List.mem_cons_self) with hm | hm | hm
    · rw [List.filter_cons_of_pos (by rw [hm]; rfl), List.filter_cons_of_neg (by rw [hm]; decide),
        List.filter_cons_of_neg (by rw [hm]; decide)]
      exact hrest.cons m
    · rw [List.filter_cons_of_neg (by rw [hm]; decide), List.filter_cons_of_pos (by rw [hm]; rfl),
        List.filter_cons_of_neg (by rw [hm]; decide)]
      exact List.perm_middle.trans (hrest.cons m)
    · rw [List.filter_cons_of_neg (by rw [hm]; decide),
        List.filter_cons_of_neg (by rw [hm]; decide), List.filter_cons_of_pos (by rw [hm]; rfl),
        ← List.append_assoc]
      exact List.perm_middle.trans ((List.append_assoc _ _ _ ▸ hrest).cons m)

/-- No two modules that have a property have one key. -/
theorem nodup_map_key (ms : List Module) : ((placed ms).map Module.key).Nodup := by
  rw [← firstExposed_eq]
  exact nodup_map_distinctFrom [] _

/-- No two modules have the same property. -/
theorem nodup_map_propertyOf (roster : Roster) (space : String) (ms : List Module) :
    ((placed ms).map (propertyOf roster space)).Nodup := by
  have hkeys := nodup_map_key ms
  rw [List.Nodup, List.pairwise_map] at hkeys ⊢
  refine hkeys.imp fun {m n} hkey hline => hkey ?_
  rw [Module.key, Module.key, ← lowercase_exposedName, exposedName_eq_of_propertyOf_eq hline,
    lowercase_exposedName]

end

/-- A member that stands once in some lists together is in one of them. -/
theorem existsUnique_of_nodup_flatMap {parts : List Composite}
    (h : (parts.flatMap Composite.members).Nodup) {line : String}
    (hline : line ∈ parts.flatMap Composite.members) :
    ∃! part, part ∈ parts ∧ line ∈ part.members := by
  obtain ⟨part, hpart, hmem⟩ := List.mem_flatMap.1 hline
  refine ⟨part, ⟨hpart, hmem⟩, fun other ⟨hother, hmem2⟩ => ?_⟩
  by_contra hne
  have : Std.Symm (Function.onFun List.Disjoint Composite.members) :=
    ⟨fun _ _ h => List.disjoint_symm h⟩
  exact (List.nodup_flatMap.1 h).2.forall hother hpart hne hmem2 hmem

/-- The three interfaces split that of all modules. -/
theorem splits_ofModules (roster : Roster) (space : String) (ms : List Module) :
    (Composites.ofModules ms roster space).Splits := by
  obtain ⟨hall, hcommon, hmain, hrenderer⟩ := members_ofModules roster space ms
  have hnodup : (Composites.ofModules ms roster space).all.members.Nodup :=
    hall ▸ nodup_map_propertyOf roster space ms
  have hperm : ((Composites.ofModules ms roster space).parts.flatMap Composite.members).Perm
      (Composites.ofModules ms roster space).all.members := by
    rw [Composites.parts]
    simp only [List.flatMap_cons, List.flatMap_nil, List.append_nil]
    rw [hall, hcommon, hmain, hrenderer, ← List.map_append, ← List.map_append]
    exact (perm_of_availability fun m hm => isExposed_of_mem_placed hm).map _
  refine ⟨hnodup, fun part hpart => ?_, hperm, fun line hline => ?_⟩
  · simp only [Composites.parts, List.mem_cons, List.not_mem_nil, or_false] at hpart
    rw [hall]
    rcases hpart with rfl | rfl | rfl
    · exact hcommon ▸ List.filter_sublist.map _
    · exact hmain ▸ List.filter_sublist.map _
    · exact hrenderer ▸ List.filter_sublist.map _
  · exact existsUnique_of_nodup_flatMap (hperm.nodup_iff.2 hnodup) (hperm.mem_iff.2 hline)

/-- **Which interface a module goes to.**  The interface of all modules has the properties of the
modules that have one, in their order, and the other three have those of the modules that are
available in both processes, in the main process only and in the renderer only.  Every property is
in exactly one of the three, no two properties have one name, even without regard to letter case,
and a module that has no property may be left out without a change. -/
theorem routing_ofModules (ms : List Module) (roster : Roster) (space : String) :
    let c := Composites.ofModules ms roster space
    (c.all.members = (placed ms).map (propertyOf roster space) ∧
      c.common.members = (placedIn ⟨true, true⟩ ms).map (propertyOf roster space) ∧
      c.main.members = (placedIn ⟨true, false⟩ ms).map (propertyOf roster space) ∧
      c.renderer.members = (placedIn ⟨false, true⟩ ms).map (propertyOf roster space)) ∧
    c.Splits ∧
    ((placed ms).map fun m => lowercase (exposedName m.name)).Nodup ∧
    ∀ before m after, ms = before ++ m :: after → m.isPlacedAfter before = false →
      Composites.ofModules (before ++ after) roster space = c := by
  refine ⟨members_ofModules roster space ms, splits_ofModules roster space ms, ?_, ?_⟩
  · simp only [lowercase_exposedName]
    exact nodup_map_key ms
  · rintro before m after rfl hplaced
    rw [Composites.ofModules, Composites.ofModules, exposures_eq, exposures_eq,
      firstExposed_append_cons after hplaced]

/-- A structure and a module that is available nowhere leave the name to a later module. -/
example :
    (Composites.ofModules
      [{ name := "Session", kind := .structureKind }, { name := "session" },
        { name := "SESSION", availability := some ⟨true, false⟩ }]
      ⟨["session"]⟩ "Electron").main.members = ["session: Electron.SESSION"] := by
  decide +kernel

end Ambient
