import Ambient.Proofs.Interner.Session
import Ambient.Proofs.Synthesis.Run

/-!
# What all names of interfaces have in common

An interface keeps the name that was chosen when its shape was first met.  So a property that every
chosen name has is one that all names have, however the writing goes on from there.

## What is here

* `Names Q x` — `x` brings in interfaces whose names satisfy `Q` only.
* `Names.seq`, `Names.forEach`, `Names.interned` and so on — what such syntheses are put together
  from.
-/

set_option autoImplicit false

namespace Ambient

open Signature Synthesis

/-! ## Syntheses -/

/-- If the interfaces that are there have names that satisfy `Q`, so have those that are there
afterwards. -/
def Names (Q : String → Prop) {α : Type} (x : Synthesis α) : Prop :=
  ∀ s : Interner, (∀ n ∈ s.bodies.keys, Q n) → ∀ n ∈ (x.run s).2.bodies.keys, Q n

namespace Names

variable {Q : String → Prop} {α β : Type}

theorem result (a : α) : Names Q (pure a : Synthesis α) := fun _ hs => hs

theorem missing (e : MissingName) : Names Q (throw e : Synthesis α) := fun _ hs => hs

theorem seq {x : Synthesis α} {f : α → Synthesis β} (first : Names Q x)
    (next : ∀ a, Names Q (f a)) : Names Q (x >>= f) := by
  intro s hs
  have hfirst := first s hs
  rcases hx : x.run s with ⟨e | a, t⟩
  · rw [hx] at hfirst
    rw [run_bind_of_error f hx]
    exact hfirst
  · rw [hx] at hfirst
    rw [run_bind_of_ok f hx]
    exact next a t hfirst

theorem andReturn {x : Synthesis α} (first : Names Q x) (f : α → β) :
    Names Q (x >>= fun a => pure (f a)) :=
  first.seq fun a => result (f a)

theorem guarded {x : Synthesis α} (nameless : Bool) (e : MissingName) (h : Names Q x) :
    Names Q (do
      if nameless then throw e
      x) := by
  cases nameless with
  | true => exact missing e
  | false => exact h

theorem forEach {f : α → Synthesis β} {members : List α} (h : ∀ a ∈ members, Names Q (f a)) :
    Names Q (members.mapM f) := by
  induction members with
  | nil => exact result []
  | cons a rest ih =>
    rw [List.mapM_cons]
    exact (h a List.mem_cons_self).seq fun b =>
      (ih fun c hc => h c (List.mem_cons_of_mem a hc)).andReturn fun bs => b :: bs

/-- An interface is asked for whose name, if it is new, satisfies `Q`. -/
theorem interned {key shapeName : String} {naming : Naming}
    {body : String → Synthesis (List String)}
    (hname : ∀ s : Interner, Q (chosen s shapeName naming))
    (hbody : ∀ owner, Q owner → Names Q (body owner)) :
    Names Q (intern key shapeName naming body) := by
  intro s hs
  have hclaimed : ∀ n ∈ (claimed s key shapeName naming).bodies.keys, Q n := by
    intro n hn
    rw [claimed, keys_claim, List.mem_append, List.mem_singleton] at hn
    rcases hn with hn | rfl
    · exact hs n hn
    · exact hname s
  have hrun := hbody _ (hname s) _ hclaimed
  have hout := interning key shapeName naming body s
  generalize (intern key shapeName naming body).run s = out at hout ⊢
  cases hout with
  | known bound => exact hs
  | failed new written =>
    rw [written] at hrun
    exact hrun
  | @added lines t new written =>
    rw [written] at hrun
    show ∀ n ∈ (t.bodies.insert (chosen s shapeName naming) lines).keys, Q n
    rw [Dictionary.keys_insert]
    split
    · exact hrun
    · exact List.forall_mem_append.2 ⟨hrun, List.forall_mem_singleton.2 (hname s)⟩

end Names

end Ambient
