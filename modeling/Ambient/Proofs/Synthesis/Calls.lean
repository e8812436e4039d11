import Ambient.Proofs.Interner.Growth
import Ambient.Proofs.Synthesis.Composed

/-!
# Calls that name an interface

While a declaration is written, shapes are interned again and again: by its signatures, and by the
bodies of the interfaces that those bring in.  If the writing succeeds, each of these calls has
returned a name that is still bound at the end, and every interface that has come in was claimed by
one of them.

## What is here

* `extends_of_composed` — a run loses and moves nothing, whether it succeeds or not.
* `run_of_knows` — what has been written can be written again, later and without a new interface.
* `Call`, `Calls types x s c` — a call of `intern`, and that it takes place when `x` runs on `s`.
* `lookup?_of_calls` — the name that a call returns is bound at the end.
* `exists_call` — an interface that has come in was claimed by a call, and its body is what that
  call wrote.
-/

set_option autoImplicit false

namespace Ambient

open Signature Synthesis

variable {types : TypeMap} {P : List Param → Prop} {α β : Type}

/-! ## What a run leaves alone -/

/-- Nothing is lost or moved, whether the run succeeds or not. -/
theorem extends_of_composed {x : Synthesis α} (h : Composed types P x) :
    ∀ s : Interner, s.Extends (x.run s).2 := by
  induction h with
  | result a => exact fun s => .refl s
  | missing e => exact fun s => .refl s
  | @seq α β x f first next ihx ihf =>
    intro s
    have hrun := ihx s
    rcases hx : x.run s with ⟨e | a, t⟩
    · rw [run_bind_of_error f hx]
      rwa [hx] at hrun
    · rw [run_bind_of_ok f hx]
      rw [hx] at hrun
      exact hrun.trans (ihf a t)
  | interned fields shapeName naming shape body ih =>
    intro s
    have hbody := ih (chosen s shapeName naming)
      (claimed s (shapeKey types fields) shapeName naming)
    have hout := interning (shapeKey types fields) shapeName naming
      (fun owner => interfaceLines types owner fields) s
    generalize (intern _ shapeName naming fun owner => interfaceLines types owner fields).run s
      = out at hout ⊢
    cases hout with
    | known bound => exact .refl s
    | failed new written =>
      rw [written] at hbody
      exact (Interner.extends_claim new).trans hbody
    | @added lines t new written =>
      rw [written] at hbody
      exact Interner.extends_define_of_extends_claim lines new hbody

theorem extends_of_run {x : Synthesis α} (h : Composed types P x) {s t : Interner}
    {r : Except MissingName α} (hrun : x.run s = (r, t)) : s.Extends t := by
  have h2 := extends_of_composed h s
  rwa [hrun] at h2

/-- A new interface has its body, and its key is bound to its name. -/
theorem exists_body_of_intern {fields : List Param} {shapeName name : String} {naming : Naming}
    {s u : Interner} (hs : s.lookup? (shapeKey types fields) = none)
    (h : (intern (shapeKey types fields) shapeName naming fun owner =>
      interfaceLines types owner fields).run s = (.ok name, u)) :
    ∃ lines t, (interfaceLines types (chosen s shapeName naming) fields).run
        (claimed s (shapeKey types fields) shapeName naming) = (.ok lines, t) ∧
      name = chosen s shapeName naming ∧ u = t.define name lines ∧
      u.lookup? (shapeKey types fields) = some name := by
  have hout := interning (shapeKey types fields) shapeName naming
    (fun owner => interfaceLines types owner fields) s
  rw [h] at hout
  cases hout with
  | known bound =>
    rw [hs] at bound
    cases bound
  | @added lines t new written =>
    refine ⟨lines, t, written, rfl, rfl, ?_⟩
    have hext := extends_of_run (composed_interfaceLines types _ fields) written
    exact hext.knows _ _ (Interner.lookup?_claim s _ _ _ _)

/-- **What has been written can be written again.**  Where all keys that were bound at the end of a
run have their names, the same run has the same result and brings in nothing. -/
theorem run_of_knows {x : Synthesis α} (h : Composed types P x) :
    ∀ {s t : Interner} {a : α}, x.run s = (.ok a, t) →
      ∀ u : Interner, u.Knows t → x.run u = (.ok a, u) := by
  induction h with
  | result a =>
    intro s t b hrun u _
    cases hrun
    rfl
  | missing e =>
    intro s t a hrun
    cases hrun
  | @seq α β x f first next ihx ihf =>
    intro s t b hrun u hu
    obtain ⟨a, r, hx, hf⟩ := exists_of_run_bind_eq_ok hrun
    have hr : u.Knows r := hu.trans (extends_of_run (next a) hf).knows
    rw [run_bind_of_ok f (ihx hx u hr)]
    exact ihf a hf u hu
  | interned fields shapeName naming shape body ih =>
    intro s t name hrun u hu
    cases hs : s.lookup? (shapeKey types fields) with
    | some known =>
      rw [run_intern_of_known hs] at hrun
      cases hrun
      exact run_intern_of_known (hu _ _ hs)
    | none =>
      obtain ⟨lines, r, -, -, -, hname⟩ := exists_body_of_intern hs hrun
      exact run_intern_of_known (hu _ _ hname)

/-! ## Calls -/

/-- A call that interns a shape. -/
structure Call where
  /-- The interner on which the call is made. -/
  before : Interner
  fields : List Param
  shapeName : String
  naming : Naming

namespace Call

/-- The key for which an interface is asked. -/
def key (types : TypeMap) (c : Call) : String := shapeKey types c.fields

/-- What the call does. -/
def run (types : TypeMap) (c : Call) : Except MissingName String × Interner :=
  (intern (c.key types) c.shapeName c.naming fun owner =>
    interfaceLines types owner c.fields).run c.before

/-- The key has no name yet, so that the call claims one. -/
def Claims (types : TypeMap) (c : Call) : Prop := c.before.lookup? (c.key types) = none

/-- The name that the call claims if it claims one. -/
def name (c : Call) : String := chosen c.before c.shapeName c.naming

end Call

/-- The call takes place when `x` runs on the interner: it is the next thing, or part of a body, or
part of a step that is reached. -/
inductive Calls (types : TypeMap) : {α : Type} → Synthesis α → Interner → Call → Prop
  | here (s : Interner) (fields : List Param) (shapeName : String) (naming : Naming) :
      Calls types (intern (shapeKey types fields) shapeName naming fun owner =>
        interfaceLines types owner fields) s ⟨s, fields, shapeName, naming⟩
  | within {s : Interner} {fields : List Param} {shapeName : String} {naming : Naming} {c : Call}
      (new : s.lookup? (shapeKey types fields) = none)
      (call : Calls types (interfaceLines types (chosen s shapeName naming) fields)
        (claimed s (shapeKey types fields) shapeName naming) c) :
      Calls types (intern (shapeKey types fields) shapeName naming fun owner =>
        interfaceLines types owner fields) s c
  | first {α β : Type} {P : List Param → Prop} {x : Synthesis α} {f : α → Synthesis β}
      {s : Interner} {c : Call} (next : ∀ a, Composed types P (f a)) (call : Calls types x s c) :
      Calls types (x >>= f) s c
  | later {α β : Type} {x : Synthesis α} {f : α → Synthesis β} {s t : Interner} {a : α} {c : Call}
      (step : x.run s = (.ok a, t)) (call : Calls types (f a) t c) : Calls types (x >>= f) s c

/-- **The name that a call returns is bound at the end.** -/
theorem lookup?_of_calls {x : Synthesis α} {s : Interner} {c : Call} (h : Calls types x s c) :
    ∀ {t : Interner} {a : α}, x.run s = (.ok a, t) →
      ∃ name, (c.run types).1 = .ok name ∧ t.lookup? (c.key types) = some name := by
  induction h with
  | here s fields shapeName naming =>
    intro t name hrun
    refine ⟨name, by rw [Call.run, Call.key, hrun], ?_⟩
    show t.lookup? (shapeKey types fields) = some name
    cases hs : s.lookup? (shapeKey types fields) with
    | some known =>
      rw [run_intern_of_known hs] at hrun
      cases hrun
      exact hs
    | none =>
      obtain ⟨lines, r, -, -, -, hname⟩ := exists_body_of_intern hs hrun
      exact hname
  | @within s fields shapeName naming c new call ih =>
    intro t name hrun
    obtain ⟨lines, r, hbody, -, rfl, -⟩ := exists_body_of_intern new hrun
    obtain ⟨inner, hinner, hr⟩ := ih hbody
    exact ⟨inner, hinner, hr⟩
  | first next call ih =>
    intro t b hrun
    obtain ⟨a, r, hx, hf⟩ := exists_of_run_bind_eq_ok hrun
    obtain ⟨name, hname, hr⟩ := ih hx
    exact ⟨name, hname, (extends_of_run (next a) hf).knows _ _ hr⟩
  | later step call ih =>
    intro t b hrun
    rw [run_bind_of_ok _ step] at hrun
    exact ih hrun

/-! ## Where interfaces come from -/

/-- **An interface that has come in was claimed by a call**, and wherever all names are known its
body is what is written for the fields of that call. -/
theorem exists_call {x : Synthesis α} (h : Composed types P x) :
    ∀ {s t : Interner} {a : α}, x.run s = (.ok a, t) →
      ∀ entry ∈ t.bodies.entries, entry ∉ s.bodies.entries →
        ∃ c, Calls types x s c ∧ c.Claims types ∧ P c.fields ∧ entry.1 = c.name ∧
          ∀ u : Interner, u.Knows t →
            (interfaceLines types entry.1 c.fields).run u = (.ok entry.2, u) := by
  induction h with
  | result a =>
    intro s t b hrun entry hmem hnew
    cases hrun
    exact absurd hmem hnew
  | missing e =>
    intro s t a hrun
    cases hrun
  | @seq α β x f first next ihx ihf =>
    intro s t b hrun entry hmem hnew
    obtain ⟨a, r, hx, hf⟩ := exists_of_run_bind_eq_ok hrun
    by_cases hr : entry ∈ r.bodies.entries
    · obtain ⟨c, hcall, hclaims, hshape, hname, hlines⟩ := ihx hx entry hr hnew
      have hknows := (extends_of_run (next a) hf).knows
      exact ⟨c, .first next hcall, hclaims, hshape, hname,
        fun u hu => hlines u (hu.trans hknows)⟩
    · obtain ⟨c, hcall, rest⟩ := ihf a hf entry hmem hr
      exact ⟨c, .later hx hcall, rest⟩
  | interned fields shapeName naming shape body ih =>
    intro s t name hrun entry hmem hnew
    cases hs : s.lookup? (shapeKey types fields) with
    | some known =>
      rw [run_intern_of_known hs] at hrun
      cases hrun
      exact absurd hmem hnew
    | none =>
      obtain ⟨lines, r, hbody, rfl, rfl, -⟩ := exists_body_of_intern hs hrun
      have hext := extends_of_run (composed_interfaceLines types _ fields) hbody
      obtain ⟨later, hr, hdefine⟩ := Interner.exists_define_of_extends_claim lines hext
      have hentries : (r.define (chosen s shapeName naming) lines).bodies.entries
        = s.bodies.entries ++ (chosen s shapeName naming, lines) :: later := hdefine
      rw [hentries, List.mem_append, List.mem_cons] at hmem
      rcases hmem.resolve_left hnew with rfl | hlater
      · exact ⟨_, .here s fields shapeName naming, hs, shape, rfl,
          fun u hu => run_of_knows (composed_interfaceLines types _ fields) hbody u hu⟩
      · -- What stands behind the new interface was brought in by its body.
        have hinner : entry ∈ r.bodies.entries := by
          rw [hr]
          exact List.mem_append_right _ (List.mem_cons_of_mem _ hlater)
        have hnodup := r.bodies.nodup
        rw [hr, List.map_append, List.map_cons, List.nodup_append, List.nodup_cons] at hnodup
        have hnew2 : entry ∉
            (claimed s (shapeKey types fields) shapeName naming).bodies.entries := by
          rw [claimed, Interner.entries_bodies_claim, List.mem_append, List.mem_singleton, not_or]
          refine ⟨hnew, fun heq => hnodup.2.1.1 ?_⟩
          rw [heq] at hlater
          exact List.mem_map_of_mem hlater
        obtain ⟨c, hcall, rest⟩ := ih _ hbody entry hinner hnew2
        exact ⟨c, .within hs hcall, rest⟩

end Ambient
