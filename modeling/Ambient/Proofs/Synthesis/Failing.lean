import Ambient.Proofs.Synthesis.Run

/-!
# Why a synthesis fails

A synthesis fails at the first name that it asks for and does not find.  Whatever else it does, it
gets there, because interning a shape fails only if its body does.  It reports the name, and leaves
the interner as it was at that moment.

## What is here

* `Reports N x` — if `x` fails, `N` holds of the interner that is left and of what is reported.
* `Reports.seq`, `Reports.guarded`, `Reports.interned` and so on — what such syntheses are put
  together from.
* `FailsOnlyIf N x` — if `x` fails, it misses a name within a module, and `N` holds; the same rules
  for it.
-/

set_option autoImplicit false

namespace Ambient

open Signature Synthesis

/-! ## What is reported -/

/-- If `x` fails, `N` holds of the interner that is left and of the name that is missing. -/
def Reports (N : Interner → MissingName → Prop) {α : Type} (x : Synthesis α) : Prop :=
  ∀ (s t : Interner) (e : MissingName), x.run s = (.error e, t) → N t e

namespace Reports

variable {N M : Interner → MissingName → Prop} {α β : Type}

theorem mono {x : Synthesis α} (hx : Reports N x) (h : ∀ t e, N t e → M t e) : Reports M x :=
  fun s t e hrun => h t e (hx s t e hrun)

theorem result (a : α) : Reports N (pure a : Synthesis α) := fun _ _ _ hrun => by cases hrun

theorem missing (e : MissingName) (h : ∀ t, N t e) : Reports N (throw e : Synthesis α) := by
  intro s t d hrun
  cases hrun
  exact h s

theorem seq {x : Synthesis α} {f : α → Synthesis β} (first : Reports N x)
    (next : ∀ a, Reports N (f a)) : Reports N (x >>= f) := by
  intro s u e hrun
  rcases hx : x.run s with ⟨d | a, t⟩
  · rw [run_bind_of_error f hx] at hrun
    cases hrun
    exact first s u e hx
  · rw [run_bind_of_ok f hx] at hrun
    exact next a t u e hrun

theorem andReturn {x : Synthesis α} (first : Reports N x) (f : α → β) :
    Reports N (x >>= fun a => pure (f a)) :=
  first.seq fun a => result (f a)

/-- A name is asked for first. -/
theorem guarded {x : Synthesis α} {nameless : Bool} (e : MissingName)
    (hname : nameless = true → ∀ t, N t e) (h : Reports N x) :
    Reports N (do
      if nameless then throw e
      x) := by
  cases nameless with
  | true => exact missing e (hname rfl)
  | false => exact h

/-- The same is done with each of several things. -/
theorem forEach {f : α → Synthesis β} {members : List α} (h : ∀ a ∈ members, Reports N (f a)) :
    Reports N (members.mapM f) := by
  induction members with
  | nil => exact result []
  | cons a rest ih =>
    rw [List.mapM_cons]
    exact (h a List.mem_cons_self).seq fun b =>
      (ih fun c hc => h c (List.mem_cons_of_mem a hc)).andReturn fun bs => b :: bs

/-- Asking for an interface fails only if its body does, which is written while the interface has
its name. -/
theorem interned {key shapeName : String} {naming : Naming}
    {body : String → Synthesis (List String)}
    (hbody : ∀ owner s t e, s.lookup? key = some owner →
      (body owner).run s = (.error e, t) → N t e) :
    Reports N (intern key shapeName naming body) := by
  intro s t e hrun
  have hout := interning key shapeName naming body s
  rw [hrun] at hout
  cases hout with
  | failed new written => exact hbody _ _ _ _ (Interner.lookup?_claim _ _ _ _ _) written

end Reports

/-! ## Whatever is reported -/

/-- The name is that of something within a module. -/
def MissingName.IsWithin (e : MissingName) : Prop :=
  ∃ owner place, e = .within owner place

/-- If `x` fails, it misses a name within a module, and `N` holds. -/
def FailsOnlyIf (N : Prop) {α : Type} (x : Synthesis α) : Prop :=
  ∀ (s t : Interner) (e : MissingName), x.run s = (.error e, t) → e.IsWithin ∧ N

namespace FailsOnlyIf

variable {N M : Prop} {α β : Type}

theorem mono (h : N → M) {x : Synthesis α} (hx : FailsOnlyIf N x) : FailsOnlyIf M x :=
  Reports.mono hx fun _ _ => And.imp_right h

theorem result (a : α) : FailsOnlyIf N (pure a : Synthesis α) := Reports.result a

theorem seq {x : Synthesis α} {f : α → Synthesis β} (first : FailsOnlyIf N x)
    (next : ∀ a, FailsOnlyIf N (f a)) : FailsOnlyIf N (x >>= f) := Reports.seq first next

theorem andReturn {x : Synthesis α} (first : FailsOnlyIf N x) (f : α → β) :
    FailsOnlyIf N (x >>= fun a => pure (f a)) := Reports.andReturn first f

/-- A name is asked for first. -/
theorem guarded {x : Synthesis α} {nameless : Bool} (owner : String) (place : MissingName.Place)
    (hname : nameless = true → N) (h : FailsOnlyIf N x) :
    FailsOnlyIf N (do
      if nameless then throw (.within owner place)
      x) :=
  Reports.guarded (.within owner place) (fun h _ => ⟨⟨owner, place, rfl⟩, hname h⟩) h

/-- The same is done with each of several things. -/
theorem forEach {f : α → Synthesis β} {members : List α}
    (h : ∀ a ∈ members, FailsOnlyIf N (f a)) : FailsOnlyIf N (members.mapM f) :=
  Reports.forEach h

end FailsOnlyIf
end Ambient
