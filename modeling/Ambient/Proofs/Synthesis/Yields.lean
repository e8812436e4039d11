import Ambient.Proofs.Synthesis.Run

/-!
# What the results of syntheses have in common

The texts of a declaration are put together from pieces of the metadata and from the names of
interfaces, and those names are made of pieces of the metadata as well.  So a property that passes
on to texts that are put together is one of everything that is written, the bodies of interfaces
included.

## What is here

* `Interner.Keeps Q` — the names in an interner satisfy `Q`, and so do the lines of the bodies.
* `Yields Q P x` — `x` leads from such interners to such interners, and its result satisfies `P`.
* `Yields.seq`, `Yields.forEach`, `Yields.interned` and so on — what such syntheses are put together
  from.
-/

set_option autoImplicit false

namespace Ambient

open Signature Synthesis

/-! ## Interners -/

/-- A value that is in a dictionary after an insertion was there before, or it is the new one. -/
theorem Dictionary.mem_entries_insert {β : Type} {d : Dictionary β} {key : String} {value : β}
    {e : String × β} (h : e ∈ (d.insert key value).entries) : e = (key, value) ∨ e ∈ d.entries := by
  have hget := get?_eq_some_iff.2 h
  by_cases hkey : e.1 = key
  · rw [hkey, get?_insert_self, Option.some.injEq] at hget
    exact Or.inl (Prod.ext hkey hget.symm)
  · rw [get?_insert_of_ne _ hkey] at hget
    exact Or.inr (get?_eq_some_iff.1 hget)

/-- All names satisfy `Q`, and so do the lines of all bodies. -/
structure Interner.Keeps (Q : String → Prop) (s : Interner) : Prop where
  names : ∀ e ∈ s.names.entries, Q e.2
  bodies : ∀ e ∈ s.bodies.entries, Q e.1 ∧ ∀ line ∈ e.2, Q line

namespace Interner.Keeps

variable {Q : String → Prop} {s : Interner}

theorem lookup (h : s.Keeps Q) {key name : String} (hname : s.lookup? key = some name) : Q name :=
  h.names (key, name) (Dictionary.get?_eq_some_iff.1 hname)

theorem claim (h : s.Keeps Q) {key shapeName : String} {naming : Naming}
    (hname : Q (chosen s shapeName naming)) : (claimed s key shapeName naming).Keeps Q where
  names e he := by
    rcases Dictionary.mem_entries_insert he with rfl | he
    · exact hname
    · exact h.names e he
  bodies e he := by
    rcases Dictionary.mem_entries_insert he with rfl | he
    · exact ⟨hname, List.forall_mem_nil _⟩
    · exact h.bodies e he

theorem define (h : s.Keeps Q) {name : String} {lines : List String} (hname : Q name)
    (hlines : ∀ line ∈ lines, Q line) : (s.define name lines).Keeps Q where
  names := h.names
  bodies e he := by
    rcases Dictionary.mem_entries_insert he with rfl | he
    · exact ⟨hname, hlines⟩
    · exact h.bodies e he

end Interner.Keeps

/-! ## Syntheses -/

/-- The synthesis adds only names and lines that satisfy `Q`, and its result satisfies `P`. -/
def Yields (Q : String → Prop) {α : Type} (P : α → Prop) (x : Synthesis α) : Prop :=
  ∀ s : Interner, s.Keeps Q → (x.run s).2.Keeps Q ∧ ∀ a, (x.run s).1 = .ok a → P a

namespace Yields

variable {Q : String → Prop} {α β : Type} {P : α → Prop} {R : β → Prop}

theorem result {a : α} (h : P a) : Yields Q P (pure a : Synthesis α) := by
  intro s hs
  refine ⟨hs, fun b hb => ?_⟩
  cases hb
  exact h

theorem missing (e : MissingName) : Yields Q P (throw e : Synthesis α) := by
  intro s hs
  refine ⟨hs, fun b hb => ?_⟩
  cases hb

theorem seq {x : Synthesis α} {f : α → Synthesis β} (first : Yields Q P x)
    (next : ∀ a, P a → Yields Q R (f a)) : Yields Q R (x >>= f) := by
  intro s hs
  obtain ⟨hinterner, hresult⟩ := first s hs
  rcases hx : x.run s with ⟨e | a, t⟩
  · rw [hx] at hinterner
    rw [run_bind_of_error f hx]
    refine ⟨hinterner, fun b hb => ?_⟩
    cases hb
  · rw [hx] at hinterner hresult
    rw [run_bind_of_ok f hx]
    exact next a (hresult a rfl) t hinterner

theorem andReturn {x : Synthesis α} (first : Yields Q P x) {f : α → β} (h : ∀ a, P a → R (f a)) :
    Yields Q R (x >>= fun a => pure (f a)) :=
  first.seq fun a ha => result (h a ha)

/-- A name is asked for first. -/
theorem guarded {x : Synthesis α} (nameless : Bool) (e : MissingName) (h : Yields Q P x) :
    Yields Q P (do
      if nameless then throw e
      x) := by
  cases nameless with
  | true => exact missing e
  | false => exact h

/-- The same is done with each of several things. -/
theorem forEach {f : α → Synthesis β} {members : List α} (h : ∀ a ∈ members, Yields Q R (f a)) :
    Yields Q (fun results => ∀ b ∈ results, R b) (members.mapM f) := by
  induction members with
  | nil => exact result (List.forall_mem_nil _)
  | cons a rest ih =>
    rw [List.forall_mem_cons] at h
    rw [List.mapM_cons]
    exact h.1.seq fun b hb => (ih h.2).andReturn fun bs hbs => List.forall_mem_cons.2 ⟨hb, hbs⟩

/-- An interface is asked for whose name, if it is new, satisfies `Q`, and whose lines do. -/
theorem interned {key shapeName : String} {naming : Naming}
    {body : String → Synthesis (List String)}
    (hname : ∀ s : Interner, Q (chosen s shapeName naming))
    (hbody : ∀ owner, Q owner → Yields Q (fun lines => ∀ line ∈ lines, Q line) (body owner)) :
    Yields Q Q (intern key shapeName naming body) := by
  intro s hs
  have hclaimed : (claimed s key shapeName naming).Keeps Q := hs.claim (hname s)
  have hrun := hbody _ (hname s) _ hclaimed
  have hout := interning key shapeName naming body s
  generalize (intern key shapeName naming body).run s = out at hout ⊢
  cases hout with
  | known bound =>
    refine ⟨hs, fun a ha => ?_⟩
    cases ha
    exact hs.lookup bound
  | failed new written =>
    rw [written] at hrun
    refine ⟨hrun.1, fun a ha => ?_⟩
    cases ha
  | added new written =>
    rw [written] at hrun
    refine ⟨hrun.1.define (hname s) (hrun.2 _ rfl), fun a ha => ?_⟩
    cases ha
    exact hname s

end Yields
end Ambient
