import Mathlib.Data.List.Infix
import Ambient.Proofs.Interner.FreshName

/-!
# How an interner grows

A claim puts a new key behind the others and a new name behind the others; a body that is given to
the name later takes the place of the empty one.

## What is here

* `entries_names_claim`, `entries_bodies_claim`, `entries_bodies_define` — where a claim and a
  definition put what they add.
* `Extends s t` — what `s` has, `t` has in the same place, and more may stand behind it.
* `Knows t s` — every key that has a name in `s` has that name in `t`.
* `exists_define_of_extends_claim` — a claim, more of the same, and a definition of what was
  claimed: one new interface, with all that have been claimed meanwhile behind it.
-/

set_option autoImplicit false

namespace Ambient
namespace Interner

variable {s t u : Interner} {key seed fallback suffix : String}

/-! ## Where entries stand -/

theorem choose_notMem_keys (s : Interner) (seed fallback suffix : String) :
    s.choose seed fallback suffix ∉ s.bodies.keys := by
  intro h
  have h2 := s.isTaken_choose seed fallback suffix
  rw [isTaken_iff.2 (Or.inl h)] at h2
  exact absurd h2 (by decide)

theorem choose_notMem_reserved (s : Interner) (seed fallback suffix : String) :
    s.choose seed fallback suffix ∉ s.reserved := by
  intro h
  have h2 := s.isTaken_choose seed fallback suffix
  rw [isTaken_iff.2 (Or.inr h)] at h2
  exact absurd h2 (by decide)

theorem entries_names_claim (h : s.lookup? key = none) :
    (s.claim key seed fallback suffix).2.names.entries
      = s.names.entries ++ [(key, s.choose seed fallback suffix)] :=
  Dictionary.entries_insert_of_notMem _ (Dictionary.get?_eq_none_iff.1 h)

theorem entries_bodies_claim (s : Interner) (key seed fallback suffix : String) :
    (s.claim key seed fallback suffix).2.bodies.entries
      = s.bodies.entries ++ [(s.choose seed fallback suffix, [])] :=
  Dictionary.entries_insert_of_notMem _ (s.choose_notMem_keys seed fallback suffix)

/-- A definition changes one body and nothing else. -/
theorem entries_bodies_define {name : String} {old : List String}
    {before after : List (String × List String)} (lines : List String)
    (h : t.bodies.entries = before ++ (name, old) :: after) :
    (t.define name lines).bodies.entries = before ++ (name, lines) :: after := by
  have hnodup := t.bodies.nodup
  rw [h, List.map_append, List.nodup_append] at hnodup
  have hnew : name ∉ before.map Prod.fst := fun hmem => hnodup.2.2 name hmem name (by simp) rfl
  show Entries.insert name lines t.bodies.entries = _
  rw [h]
  exact Entries.insert_append_cons lines old after hnew

/-! ## Growth -/

/-- Nothing is lost or changed, and what is new stands behind the rest. -/
structure Extends (s t : Interner) : Prop where
  names : s.names.entries <+: t.names.entries
  bodies : s.bodies.entries <+: t.bodies.entries
  reserved : t.reserved = s.reserved

theorem Extends.refl (s : Interner) : s.Extends s :=
  ⟨List.prefix_refl _, List.prefix_refl _, rfl⟩

theorem Extends.trans (h : s.Extends t) (h2 : t.Extends u) : s.Extends u :=
  ⟨h.names.trans h2.names, h.bodies.trans h2.bodies, h2.reserved.trans h.reserved⟩

theorem Extends.antisymm (h : s.Extends t) (h2 : t.Extends s) : s = t := by
  have hnames := Dictionary.entries_ext (h.names.eq_of_length_le h2.names.length_le)
  have hbodies := Dictionary.entries_ext (h.bodies.eq_of_length_le h2.bodies.length_le)
  obtain ⟨names, bodies, reserved⟩ := s
  obtain ⟨names2, bodies2, reserved2⟩ := t
  have hreserved : reserved2 = reserved := h.reserved
  subst hnames hbodies hreserved
  rfl

/-- Every key that has a name in `s` has that name in `t`. -/
def Knows (t s : Interner) : Prop :=
  ∀ key name, s.lookup? key = some name → t.lookup? key = some name

theorem Knows.refl (s : Interner) : s.Knows s := fun _ _ h => h

theorem Knows.trans (h : u.Knows t) (h2 : t.Knows s) : u.Knows s :=
  fun key name hs => h key name (h2 key name hs)

theorem Extends.knows (h : s.Extends t) : t.Knows s := by
  intro key name hs
  rw [lookup?, Dictionary.get?_eq_some_iff] at hs ⊢
  exact h.names.subset hs

theorem Extends.keys (h : s.Extends t) : s.bodies.keys <+: t.bodies.keys :=
  h.bodies.map Prod.fst

theorem extends_claim (h : s.lookup? key = none) :
    s.Extends (s.claim key seed fallback suffix).2 := by
  refine ⟨?_, ?_, rfl⟩
  · rw [entries_names_claim h]
    exact List.prefix_append _ _
  · rw [entries_bodies_claim]
    exact List.prefix_append _ _

/-- When a claim is followed by its definition, one interface has come in, with its body, and behind
it those that were claimed in between. -/
theorem exists_define_of_extends_claim (lines : List String)
    (h : (s.claim key seed fallback suffix).2.Extends t) :
    ∃ later, t.bodies.entries = s.bodies.entries ++ (s.choose seed fallback suffix, []) :: later ∧
      (t.define (s.choose seed fallback suffix) lines).bodies.entries
        = s.bodies.entries ++ (s.choose seed fallback suffix, lines) :: later := by
  obtain ⟨later, hlater⟩ := h.bodies
  rw [entries_bodies_claim, List.append_assoc, List.singleton_append] at hlater
  exact ⟨later, hlater.symm, entries_bodies_define lines hlater.symm⟩

theorem extends_define_of_extends_claim (lines : List String) (hnew : s.lookup? key = none)
    (h : (s.claim key seed fallback suffix).2.Extends t) :
    s.Extends (t.define (s.choose seed fallback suffix) lines) := by
  obtain ⟨later, -, hlater⟩ := exists_define_of_extends_claim lines h
  refine ⟨(extends_claim hnew).names.trans h.names, ?_, h.reserved⟩
  rw [hlater]
  exact List.prefix_append _ _

end Interner
end Ambient
