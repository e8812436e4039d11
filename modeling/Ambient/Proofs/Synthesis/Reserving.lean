import Ambient.Proofs.Interner.Choice
import Ambient.Proofs.Interner.Session
import Ambient.Proofs.Synthesis.Calls

/-!
# One more reserved name

A name that is reserved is passed over wherever it would have been chosen.  Where it would not have
been chosen, nothing tells that it is reserved: a run that names no interface by it goes the same
way, and does the same, whether the name is reserved or not.

## What is here

* `Interner.Reserves n s t` — `t` is `s`, except that `n` is reserved as well.
* `Interner.Reserves.claim`, `Interner.Reserves.define` — that stays so when both interners take in
  the same interface, if it is not named `n`.
* `run_of_reserves` — it stays so over a whole run in which no interface is named `n`, and the
  result is the same.
-/

set_option autoImplicit false

namespace Ambient

open Signature Synthesis

variable {types : TypeMap} {P : List Param → Prop} {α : Type} {n : String} {s t : Interner}

/-! ## Interners -/

/-- The second interner is the first one, except that the name is reserved as well. -/
structure Interner.Reserves (n : String) (s t : Interner) : Prop where
  names : t.names = s.names
  bodies : t.bodies = s.bodies
  reserved : ∀ name, name ∈ t.reserved ↔ name ∈ s.reserved ∨ name = n

namespace Interner.Reserves

theorem lookup?_eq (h : s.Reserves n t) (key : String) : t.lookup? key = s.lookup? key := by
  rw [lookup?, lookup?, h.names]

theorem isTaken_iff (h : s.Reserves n t) {name : String} :
    t.isTaken name = true ↔ s.isTaken name = true ∨ name = n := by
  rw [Interner.isTaken_iff, Interner.isTaken_iff, h.bodies, h.reserved, or_assoc]

/-- A name that is not the reserved one is chosen in any case. -/
theorem choose_eq (h : s.Reserves n t) {seed fallback suffix : String}
    (hne : s.choose seed fallback suffix ≠ n) :
    t.choose seed fallback suffix = s.choose seed fallback suffix := by
  refine choose_eq_of_isTaken (fun name hname => h.isTaken_iff.2 (Or.inl hname)) ?_
  rw [Bool.eq_false_iff, Ne, h.isTaken_iff, s.isTaken_choose]
  exact fun hor => hor.elim Bool.false_ne_true hne

theorem claim (h : s.Reserves n t) {key seed fallback suffix : String}
    (hne : s.choose seed fallback suffix ≠ n) :
    (s.claim key seed fallback suffix).2.Reserves n (t.claim key seed fallback suffix).2 := by
  have hname := h.choose_eq hne
  refine ⟨?_, ?_, h.reserved⟩
  · show t.names.insert key _ = s.names.insert key _
    rw [hname, h.names]
  · show t.bodies.insert _ _ = s.bodies.insert _ _
    rw [hname, h.bodies]

theorem define (h : s.Reserves n t) (name : String) (lines : List String) :
    (s.define name lines).Reserves n (t.define name lines) :=
  ⟨h.names, congrArg (·.insert name lines) h.bodies, h.reserved⟩

end Interner.Reserves

/-! ## Runs -/

/-- The name that is claimed for a new interface is among the names when its body is written. -/
theorem chosen_mem_keys {fields : List Param} {shapeName : String} {naming : Naming}
    {r : Except MissingName (List String)} (h : (interfaceLines types (chosen s shapeName naming)
      fields).run (claimed s (shapeKey types fields) shapeName naming) = (r, t)) :
    chosen s shapeName naming ∈ t.bodies.keys := by
  refine (extends_of_run (composed_interfaceLines types _ fields) h).keys.subset ?_
  rw [claimed, keys_claim]
  exact List.mem_append_right _ (List.mem_singleton.2 rfl)

/-- A definition takes no name away. -/
theorem keys_subset_define (s : Interner) (name : String) (lines : List String) :
    s.bodies.keys ⊆ (s.define name lines).bodies.keys := by
  intro other hother
  show other ∈ (s.bodies.insert name lines).keys
  rw [Dictionary.keys_insert]
  split
  · exact hother
  · exact List.mem_append_left _ hother

/-- **A reserved name that no interface gets makes no difference.**  A run in which no interface is
named by it has the same result and takes in the same interfaces where the name is reserved. -/
theorem run_of_reserves {x : Synthesis α} (h : Composed types P x) :
    ∀ {s t u : Interner} {r : Except MissingName α}, x.run s = (r, u) → n ∉ u.bodies.keys →
      s.Reserves n t → ∃ v, x.run t = (r, v) ∧ u.Reserves n v := by
  induction h with
  | result a =>
    intro s t u r hrun _ hst
    cases hrun
    exact ⟨t, rfl, hst⟩
  | missing e =>
    intro s t u r hrun _ hst
    cases hrun
    exact ⟨t, rfl, hst⟩
  | @seq α β x f first next ihx ihf =>
    intro s t u r hrun hnew hst
    rcases hx : x.run s with ⟨e | a, w⟩
    · rw [run_bind_of_error f hx] at hrun
      cases hrun
      obtain ⟨v, hv, huv⟩ := ihx hx hnew hst
      exact ⟨v, run_bind_of_error f hv, huv⟩
    · rw [run_bind_of_ok f hx] at hrun
      have hkeys := (extends_of_run (next a) hrun).keys
      obtain ⟨v, hv, hwv⟩ := ihx hx (fun hn => hnew (hkeys.subset hn)) hst
      rw [run_bind_of_ok f hv]
      exact ihf a hrun hnew hwv
  | interned fields shapeName naming shape body ih =>
    intro s t u r hrun hnew hst
    -- Where the name is not chosen, the body is written in the same way for the same name.
    have hbody {result : Except MissingName (List String)} {w : Interner}
        (hw : (interfaceLines types (chosen s shapeName naming) fields).run
          (claimed s (shapeKey types fields) shapeName naming) = (result, w))
        (hnew : n ∉ w.bodies.keys) :
        chosen t shapeName naming = chosen s shapeName naming ∧
          ∃ v, (interfaceLines types (chosen t shapeName naming) fields).run
            (claimed t (shapeKey types fields) shapeName naming) = (result, v) ∧
            w.Reserves n v := by
      have hne : chosen s shapeName naming ≠ n := fun hn => hnew (hn ▸ chosen_mem_keys hw)
      have hname : chosen t shapeName naming = chosen s shapeName naming := hst.choose_eq hne
      rw [hname]
      exact ⟨rfl, ih _ hw hnew (hst.claim hne)⟩
    have hout := interning (shapeKey types fields) shapeName naming
      (fun owner => interfaceLines types owner fields) s
    rw [hrun] at hout
    cases hout with
    | known bound => exact ⟨t, run_intern_of_known ((hst.lookup?_eq _).trans bound), hst⟩
    | failed new written =>
      obtain ⟨-, v, hv, huv⟩ := hbody written hnew
      exact ⟨v, run_intern_of_error ((hst.lookup?_eq _).trans new) hv, huv⟩
    | @added lines w new written =>
      obtain ⟨hname, v, hv, hwv⟩ :=
        hbody written fun hn => hnew (keys_subset_define w _ lines hn)
      rw [run_intern_of_ok ((hst.lookup?_eq _).trans new) hv, hname]
      exact ⟨_, rfl, hwv.define _ lines⟩

end Ambient
