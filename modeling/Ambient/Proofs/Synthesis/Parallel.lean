import Mathlib.Data.List.Forall2
import Ambient.Proofs.Synthesis.Run

/-!
# Two runs side by side

Two syntheses that differ in what they write, but not in the shapes that they meet, go the same way:
they ask for the same keys, choose the same names, and stop for the same missing name.  All that may
differ is the bodies of the interfaces.

## What is here

* `EntriesMatch E es fs` — entries that have the same keys in the same order, and related values;
  `EntriesMatch.insert` — they still have after an insertion.
* `Interner.Matches R s t` — the same names in the same places, with bodies that `R` relates.
* `Agrees`, `Parallel` — two outcomes, and two syntheses that have such outcomes on any interners
  that match.
* `Parallel.seq`, `Parallel.forEach`, `Parallel.interned` — what two syntheses are put together
  from.
-/

set_option autoImplicit false

namespace Ambient

/-! ## Dictionaries that correspond -/

section

variable {β γ : Type} {E : β → γ → Prop} {es : List (String × β)} {fs : List (String × γ)}

/-- Entries that have one key and related values. -/
def EntriesMatch (E : β → γ → Prop) (es : List (String × β)) (fs : List (String × γ)) : Prop :=
  List.Forall₂ (fun e f => e.1 = f.1 ∧ E e.2 f.2) es fs

theorem EntriesMatch.keys (h : EntriesMatch E es fs) : es.map Prod.fst = fs.map Prod.fst := by
  induction h with
  | nil => rfl
  | cons hhead _ ih => rw [List.map_cons, List.map_cons, hhead.1, ih]

theorem EntriesMatch.values (h : EntriesMatch E es fs) :
    List.Forall₂ E (es.map Prod.snd) (fs.map Prod.snd) := by
  rw [List.forall₂_map_left_iff, List.forall₂_map_right_iff]
  exact h.imp fun _ _ hef => hef.2

/-- What is found under a key in two dictionaries that correspond. -/
theorem EntriesMatch.lookup (h : EntriesMatch E es fs) (key : String) :
    (es.lookup key = none ∧ fs.lookup key = none) ∨
      ∃ v w, es.lookup key = some v ∧ fs.lookup key = some w ∧ E v w := by
  induction h with
  | nil => exact Or.inl ⟨rfl, rfl⟩
  | @cons e f _ _ hhead _ ih =>
    obtain ⟨k, v⟩ := e
    obtain ⟨k2, w⟩ := f
    obtain ⟨rfl, hvw⟩ : k = k2 ∧ E v w := hhead
    rw [List.lookup_cons, List.lookup_cons]
    by_cases hkey : key = k
    · rw [beq_iff_eq.2 hkey]
      exact Or.inr ⟨v, w, rfl, rfl, hvw⟩
    · rw [beq_eq_false_iff_ne.2 hkey]
      exact ih

/-- Entries still match after the same key has got related values. -/
theorem EntriesMatch.insert (h : EntriesMatch E es fs) (key : String) {v : β} {w : γ}
    (hvw : E v w) : EntriesMatch E (Entries.insert key v es) (Entries.insert key w fs) := by
  induction h with
  | nil => exact .cons ⟨rfl, hvw⟩ .nil
  | @cons e f _ _ hhead htail ih =>
    rw [Entries.insert, Entries.insert, hhead.1]
    by_cases hkey : f.1 = key
    · rw [if_pos hkey, if_pos hkey]
      exact .cons ⟨rfl, hvw⟩ htail
    · rw [if_neg hkey, if_neg hkey]
      exact .cons hhead ih

end

/-! ## Interners that match -/

variable {R : List String → List String → Prop}

/-- The same names under the same keys and in the same places.  The bodies of one interner are
related to those of the other. -/
structure Interner.Matches (R : List String → List String → Prop) (s t : Interner) : Prop where
  names : s.names = t.names
  reserved : s.reserved = t.reserved
  bodies : EntriesMatch R s.bodies.entries t.bodies.entries

namespace Interner.Matches

variable {s t : Interner}

theorem lookup?_eq (h : s.Matches R t) (key : String) : s.lookup? key = t.lookup? key := by
  rw [lookup?, lookup?, h.names]

/-- Which names are taken does not depend on the bodies, and no choice of a name does. -/
theorem choose_eq (h : s.Matches R t) (seed fallback suffix : String) :
    s.choose seed fallback suffix = t.choose seed fallback suffix := by
  have hkeys : s.bodies.keys = t.bodies.keys := h.bodies.keys
  have htaken : s.isTaken = t.isTaken := by
    funext name
    rw [Bool.eq_iff_iff, isTaken_iff, isTaken_iff, hkeys, h.reserved]
  have hsize : s.bodies.size = t.bodies.size := h.bodies.length_eq
  simp only [choose, numbered, htaken, hsize, h.reserved]

theorem claim (h : s.Matches R t) (hempty : R [] []) (key seed fallback suffix : String) :
    (s.claim key seed fallback suffix).2.Matches R (t.claim key seed fallback suffix).2 := by
  have hname := h.choose_eq seed fallback suffix
  refine ⟨?_, h.reserved, ?_⟩
  · show s.names.insert key _ = t.names.insert key _
    rw [hname, h.names]
  · show EntriesMatch R (Entries.insert _ _ _) (Entries.insert _ _ _)
    rw [hname]
    exact h.bodies.insert _ hempty

theorem define (h : s.Matches R t) (name : String) {lines others : List String}
    (hlines : R lines others) : (s.define name lines).Matches R (t.define name others) :=
  ⟨h.names, h.reserved, h.bodies.insert name hlines⟩

end Interner.Matches

/-! ## Syntheses that run in parallel -/

/-- Two outcomes agree: the same name is missing, or both have results, which are related, and
interners that match. -/
inductive Agrees (R : List String → List String → Prop) {α β : Type} (Q : α → β → Prop) :
    Except MissingName α × Interner → Except MissingName β × Interner → Prop
  | failed (e : MissingName) (s t : Interner) : Agrees R Q (.error e, s) (.error e, t)
  | succeeded {a : α} {b : β} {s t : Interner} (results : Q a b) (interners : s.Matches R t) :
      Agrees R Q (.ok a, s) (.ok b, t)

/-- On interners that match, the outcomes of two syntheses agree. -/
def Parallel (R : List String → List String → Prop) {α β : Type} (Q : α → β → Prop)
    (x : Synthesis α) (y : Synthesis β) : Prop :=
  ∀ s t : Interner, s.Matches R t → Agrees R Q (x.run s) (y.run t)

namespace Parallel

open Signature Synthesis

variable {α β γ δ : Type} {Q : α → β → Prop} {Q2 : γ → δ → Prop}

theorem result {a : α} {b : β} (h : Q a b) :
    Parallel R Q (pure a : Synthesis α) (pure b : Synthesis β) :=
  fun _ _ hst => .succeeded h hst

theorem seq {x : Synthesis α} {y : Synthesis β} {f : α → Synthesis γ} {g : β → Synthesis δ}
    (first : Parallel R Q x y) (next : ∀ a b, Q a b → Parallel R Q2 (f a) (g b)) :
    Parallel R Q2 (x >>= f) (y >>= g) := by
  intro s t hst
  have hfirst := first s t hst
  rcases hx : x.run s with ⟨ra, u⟩
  rcases hy : y.run t with ⟨rb, v⟩
  rw [hx, hy] at hfirst
  cases hfirst with
  | failed e =>
    rw [run_bind_of_error f hx, run_bind_of_error g hy]
    exact .failed e u v
  | @succeeded a b _ _ hab huv =>
    rw [run_bind_of_ok f hx, run_bind_of_ok g hy]
    exact next a b hab u v huv

/-- Something is done with related results. -/
theorem andReturn {x : Synthesis α} {y : Synthesis β} (first : Parallel R Q x y) {f : α → γ}
    {g : β → δ} (h : ∀ a b, Q a b → Q2 (f a) (g b)) :
    Parallel R Q2 (x >>= fun a => pure (f a)) (y >>= fun b => pure (g b)) :=
  first.seq fun a b hab => result (h a b hab)

/-- The same name is asked for first. -/
theorem guarded {x : Synthesis α} {y : Synthesis β} (nameless : Bool) (e : MissingName)
    (h : Parallel R Q x y) :
    Parallel R Q (do
      if nameless then throw e
      x) (do
      if nameless then throw e
      y) := by
  cases nameless with
  | true => exact fun s t _ => .failed e s t
  | false => exact h

/-- Corresponding things are done with the elements of two lists. -/
theorem forEach {f : γ → Synthesis α} {g : δ → Synthesis β} {members : List γ} {others : List δ}
    (h : List.Forall₂ (fun c d => Parallel R Q (f c) (g d)) members others) :
    Parallel R (List.Forall₂ Q) (members.mapM f) (others.mapM g) := by
  induction h with
  | nil => exact result .nil
  | cons hhead _ ih =>
    rw [List.mapM_cons, List.mapM_cons]
    exact hhead.seq fun a b hab => ih.andReturn fun as bs habs => .cons hab habs

/-- An interface for one key is asked for, and its bodies are written in parallel. -/
theorem interned {key shapeName : String} {naming : Naming}
    {body other : String → Synthesis (List String)} (hempty : R [] [])
    (h : ∀ owner, Parallel R R (body owner) (other owner)) :
    Parallel R Eq (intern key shapeName naming body) (intern key shapeName naming other) := by
  intro s t hst
  have hlookup := hst.lookup?_eq key
  cases hs : s.lookup? key with
  | some name =>
    rw [run_intern_of_known hs, run_intern_of_known (hlookup ▸ hs)]
    exact .succeeded rfl hst
  | none =>
    have ht : t.lookup? key = none := hlookup ▸ hs
    -- Both claim the same name, so that the bodies are written for one owner.
    have hname : chosen s shapeName naming = chosen t shapeName naming := hst.choose_eq _ _ _
    have hclaimed : (claimed s key shapeName naming).Matches R (claimed t key shapeName naming) :=
      hst.claim hempty _ _ _ _
    have hbodies := h (chosen s shapeName naming) _ _ hclaimed
    rcases hx : (body (chosen s shapeName naming)).run (claimed s key shapeName naming)
      with ⟨r, u⟩
    rcases hy : (other (chosen t shapeName naming)).run (claimed t key shapeName naming)
      with ⟨r2, v⟩
    have hagree : Agrees R R (r, u) (r2, v) := by
      rw [← hx, ← hy, ← hname]
      exact hbodies
    cases hagree with
    | failed e =>
      rw [run_intern_of_error hs hx, run_intern_of_error ht hy]
      exact .failed e u v
    | succeeded hlines huv =>
      rw [run_intern_of_ok hs hx, run_intern_of_ok ht hy, hname]
      exact .succeeded rfl (huv.define _ hlines)

end Parallel
end Ambient
