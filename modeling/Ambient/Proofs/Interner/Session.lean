import Mathlib.Logic.Relation
import Ambient.Proofs.Interner.Growth

/-!
# Sessions of an interner

While the body of an interface is written, further interfaces may be claimed and get their bodies,
or the writing may stop for want of a name.  A session is a run of these three acts.  What one act
keeps, a session keeps, and so it holds at every point of the writing of any signature, not only
before and after.

## What is here

* `Desk` — an interner, and the interfaces whose bodies are being written, the innermost first.
* `Act`, `Session` — one act, and any number of them.
* `Desk.Sound` — the invariant: definitions stand in the order in which their keys were claimed,
  their names are words that nobody else has, and those under way stand in the order of nesting.
* `sound_of_session` — every session keeps it.
* `keys_of_session`, `knows_of_session`, `body_of_session`, `nested_of_session` — a session adds
  names at the end, a key keeps its name, a body that is not being written stays as it is, and what
  comes in while a body is written stands behind it.
-/

set_option autoImplicit false

namespace Ambient

/-! ## Acts -/

/-- An interner, and the interfaces whose bodies are being written, the innermost first. -/
structure Desk where
  interner : Interner
  pending : List String

/-- One act of interning. -/
inductive Act : Desk → Desk → Prop
  /-- A new key gets a name, and the body of its interface is begun. -/
  | claim {s : Interner} {pending : List String} (key seed fallback suffix : String)
      (new : s.lookup? key = none) :
      Act ⟨s, pending⟩
        ⟨(s.claim key seed fallback suffix).2, s.choose seed fallback suffix :: pending⟩
  /-- The body that was begun last is finished. -/
  | define {s : Interner} {name : String} {pending : List String} (lines : List String) :
      Act ⟨s, name :: pending⟩ ⟨s.define name lines, pending⟩
  /-- The body that was begun last is given up. -/
  | abandon {s : Interner} {name : String} {pending : List String} :
      Act ⟨s, name :: pending⟩ ⟨s, pending⟩

/-- Any number of acts. -/
abbrev Session : Desk → Desk → Prop := Relation.ReflTransGen Act

/-! ## The invariant -/

/-- What holds of an interner at every point. -/
structure Desk.Sound (reserved : List String) (d : Desk) : Prop where
  /-- The definitions stand in the order in which their keys were claimed. -/
  claimed : d.interner.names.values = d.interner.bodies.keys
  /-- Every name is a word, and no name belongs to another declaration. -/
  free : ∀ name ∈ d.interner.bodies.keys, name ≠ "" ∧ name ∉ reserved
  /-- The names of other declarations stay reserved. -/
  kept : d.interner.reserved = reserved
  /-- An interface stands in front of those that are begun while its body is written. -/
  nested : d.pending.reverse.Sublist d.interner.bodies.keys

variable {reserved : List String} {d e : Desk}

theorem sound_start (reserved : List String) :
    Desk.Sound reserved ⟨Interner.empty.reserve reserved, []⟩ where
  claimed := rfl
  free := by simp [Interner.empty, Interner.reserve, Dictionary.keys, Dictionary.empty]
  kept := by simp [Interner.empty, Interner.reserve]
  nested := List.nil_sublist _

theorem keys_define {s : Interner} {name : String} (lines : List String)
    (h : name ∈ s.bodies.keys) : (s.define name lines).bodies.keys = s.bodies.keys := by
  rw [Interner.define, Dictionary.keys_insert, if_pos h]

theorem keys_claim (s : Interner) (key seed fallback suffix : String) :
    (s.claim key seed fallback suffix).2.bodies.keys
      = s.bodies.keys ++ [s.choose seed fallback suffix] := by
  rw [Dictionary.keys, s.entries_bodies_claim, List.map_append]
  rfl

/-- **Every act keeps the invariant.** -/
theorem sound_of_act (hact : Act d e) (h : d.Sound reserved) : e.Sound reserved := by
  cases hact with
  | @claim s pending key seed fallback suffix new =>
    refine ⟨?_, ?_, h.kept, ?_⟩
    · show (s.claim key seed fallback suffix).2.names.values = _
      rw [keys_claim, Dictionary.values, Interner.entries_names_claim new, List.map_append]
      exact congrArg (· ++ [_]) h.claimed
    · show ∀ name ∈ (s.claim key seed fallback suffix).2.bodies.keys, _
      rw [keys_claim]
      intro name hname
      rcases List.mem_append.1 hname with hold | hnew
      · exact h.free name hold
      · rw [List.mem_singleton.1 hnew]
        exact ⟨s.choose_ne_empty seed fallback suffix,
          h.kept ▸ s.choose_notMem_reserved seed fallback suffix⟩
    · show (_ :: pending).reverse.Sublist (s.claim key seed fallback suffix).2.bodies.keys
      rw [keys_claim, List.reverse_cons]
      exact h.nested.append (List.Sublist.refl _)
  | @define s name pending lines =>
    have hname : name ∈ s.bodies.keys := h.nested.subset (by simp)
    have hkeys := keys_define lines hname
    refine ⟨h.claimed.trans hkeys.symm, hkeys ▸ h.free, h.kept, ?_⟩
    show pending.reverse.Sublist (s.define name lines).bodies.keys
    rw [hkeys]
    refine List.Sublist.trans ?_ h.nested
    rw [List.reverse_cons]
    exact List.sublist_append_left _ _
  | @abandon s name pending =>
    refine ⟨h.claimed, h.free, h.kept, List.Sublist.trans ?_ h.nested⟩
    rw [List.reverse_cons]
    exact List.sublist_append_left _ _

/-- **Every session keeps the invariant.** -/
theorem sound_of_session (hs : Session d e) (h : d.Sound reserved) : e.Sound reserved := by
  induction hs with
  | refl => exact h
  | tail _ hact ih => exact sound_of_act hact ih

/-! ## What a session keeps -/

/-- Names are added at the end. -/
theorem keys_of_session (hs : Session d e) (h : d.Sound reserved) :
    d.interner.bodies.keys <+: e.interner.bodies.keys := by
  induction hs with
  | refl => exact List.prefix_refl _
  | tail hrun hact ih =>
    have hsound := sound_of_session hrun h
    refine ih.trans ?_
    cases hact with
    | @claim s pending key seed fallback suffix new =>
      show s.bodies.keys <+: (s.claim key seed fallback suffix).2.bodies.keys
      rw [keys_claim]
      exact List.prefix_append _ _
    | @define s name pending lines =>
      have hname : name ∈ s.bodies.keys := hsound.nested.subset (by simp)
      show s.bodies.keys <+: (s.define name lines).bodies.keys
      rw [keys_define lines hname]
    | abandon => exact List.prefix_refl _

/-- A key keeps its name. -/
theorem knows_of_session (hs : Session d e) : e.interner.Knows d.interner := by
  induction hs with
  | refl => exact Interner.Knows.refl _
  | tail _ hact ih =>
    refine Interner.Knows.trans ?_ ih
    cases hact with
    | claim key seed fallback suffix new => exact (Interner.extends_claim new).knows
    | define lines => exact fun key name hkey => hkey
    | abandon => exact Interner.Knows.refl _

/-- A body that is not being written stays as it is. -/
theorem body_of_session {name : String} (hs : Session d e) (hname : name ∈ d.interner.bodies.keys)
    (hdone : name ∉ d.pending) :
    e.interner.bodies.get? name = d.interner.bodies.get? name := by
  -- Along the way the name is there and is not under way: a claim takes up a new name only.
  suffices h : name ∈ e.interner.bodies.keys ∧ name ∉ e.pending ∧
      e.interner.bodies.get? name = d.interner.bodies.get? name from h.2.2
  induction hs with
  | refl => exact ⟨hname, hdone, rfl⟩
  | tail _ hact ih =>
    obtain ⟨hmem, hnot, hbody⟩ := ih
    cases hact with
    | @claim s pending key seed fallback suffix new =>
      have hne : name ≠ s.choose seed fallback suffix := fun h =>
        s.choose_notMem_keys seed fallback suffix (h ▸ hmem)
      refine ⟨?_, ?_, ?_⟩
      · show name ∈ (s.claim key seed fallback suffix).2.bodies.keys
        rw [keys_claim]
        exact List.mem_append_left _ hmem
      · exact List.not_mem_cons_of_ne_of_not_mem hne hnot
      · rw [← hbody]
        exact Dictionary.get?_insert_of_ne _ hne _
    | @define s other pending lines =>
      rw [List.mem_cons, not_or] at hnot
      refine ⟨?_, hnot.2, ?_⟩
      · show name ∈ (s.bodies.insert other lines).keys
        rw [Dictionary.keys_insert]
        split
        · exact hmem
        · exact List.mem_append_left _ hmem
      · rw [← hbody]
        exact Dictionary.get?_insert_of_ne _ hnot.1 _
    | @abandon s other pending => exact ⟨hmem, fun h => hnot (List.mem_cons_of_mem _ h), hbody⟩

/-- What comes in while a body is written stands behind the interface of that body. -/
theorem nested_of_session {outer inner : String} (hs : Session d e) (h : d.Sound reserved)
    (houter : outer ∈ d.pending) (hinner : inner ∈ e.interner.bodies.keys)
    (hnew : inner ∉ d.interner.bodies.keys) :
    [outer, inner].Sublist e.interner.bodies.keys := by
  have hmem : outer ∈ d.interner.bodies.keys := h.nested.subset (List.mem_reverse.2 houter)
  obtain ⟨later, hlater⟩ := keys_of_session hs h
  rw [← hlater] at hinner ⊢
  have hinner2 := (List.mem_append.1 hinner).resolve_left hnew
  exact (List.singleton_sublist.2 hmem).append (List.singleton_sublist.2 hinner2)

end Ambient
