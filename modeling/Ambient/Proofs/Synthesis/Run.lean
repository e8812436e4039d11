import Ambient.Signature

/-!
# Running a synthesis

A synthesis has a result or a missing name, and an interner afterwards in both cases.  This file
says what the steps of which signatures are put together do to an interner, so that nothing else
has to look at how a synthesis is represented.

## What is here

* `run_bind_of_ok`, `run_bind_of_error`, `exists_of_run_bind_eq_ok` — one step after the other, and
  `run_of_run_guarded` — a step for which a name is asked first.
* `run_intern_of_known`, `run_intern_of_ok`, `run_intern_of_error` — the interface for a key: one
  that is there, a new one whose body can be written, and a new one whose body cannot.
* `Interning`, `interning` — these are the only cases.
* `valueType_eq` — the type of a value by the kind of the value.
-/

set_option autoImplicit false

namespace Ambient
namespace Synthesis

variable {α β : Type}

/-! ## One step after the other -/

theorem run_bind_of_ok {x : Synthesis α} {s t : Interner} {a : α} (f : α → Synthesis β)
    (h : x.run s = (.ok a, t)) : (x >>= f).run s = (f a).run t := by
  rw [ExceptT.run_bind]
  show StateT.bind x.run _ s = _
  simp only [StateT.bind, bind, h]

theorem run_bind_of_error {x : Synthesis α} {s t : Interner} {e : MissingName}
    (f : α → Synthesis β) (h : x.run s = (.error e, t)) : (x >>= f).run s = (.error e, t) := by
  rw [ExceptT.run_bind]
  show StateT.bind x.run _ s = _
  simp only [StateT.bind, bind, h]
  rfl

/-- If two steps succeed, each of them does. -/
theorem exists_of_run_bind_eq_ok {x : Synthesis α} {f : α → Synthesis β} {s u : Interner} {b : β}
    (h : (x >>= f).run s = (.ok b, u)) :
    ∃ a t, x.run s = (.ok a, t) ∧ (f a).run t = (.ok b, u) := by
  rcases hx : x.run s with ⟨e | a, t⟩
  · rw [run_bind_of_error f hx] at h
    cases h
  · exact ⟨a, t, rfl, by rw [← run_bind_of_ok f hx, h]⟩

/-- If something succeeds for which a name is asked first, the name is there. -/
theorem run_of_run_guarded {nameless : Bool} {e : MissingName} {x : Synthesis α} {s t : Interner}
    {a : α} (h : (do
      if nameless then throw e
      x : Synthesis α).run s = (.ok a, t)) : nameless = false ∧ x.run s = (.ok a, t) := by
  cases nameless with
  | true => cases h
  | false => exact ⟨rfl, h⟩

/-! ## The interface for a key -/

open Signature Text

variable {key shapeName name : String} {naming : Naming}
  {body : String → Synthesis (List String)} {s t : Interner}

/-- The interner in which a new interface has its name. -/
def claimed (s : Interner) (key shapeName : String) (naming : Naming) : Interner :=
  (s.claim key naming.seed naming.fallback (upperFirst (camelCase shapeName))).2

/-- The name of a new interface. -/
def chosen (s : Interner) (shapeName : String) (naming : Naming) : String :=
  s.choose naming.seed naming.fallback (upperFirst (camelCase shapeName))

theorem run_intern_of_known (h : s.lookup? key = some name) :
    (intern key shapeName naming body).run s = (.ok name, s) := by
  rw [intern, run_bind_of_ok _ (show (get : Synthesis Interner).run s = (.ok s, s) from rfl), h]
  rfl

theorem run_intern_of_new (h : s.lookup? key = none) :
    (intern key shapeName naming body).run s =
      (do
        let lines ← body (chosen s shapeName naming)
        modify (·.define (chosen s shapeName naming) lines)
        return chosen s shapeName naming : Synthesis String).run
        (claimed s key shapeName naming) := by
  rw [intern, run_bind_of_ok _ (show (get : Synthesis Interner).run s = (.ok s, s) from rfl), h]
  rfl

theorem run_intern_of_ok {lines : List String} (h : s.lookup? key = none)
    (hbody : (body (chosen s shapeName naming)).run (claimed s key shapeName naming)
      = (.ok lines, t)) :
    (intern key shapeName naming body).run s
      = (.ok (chosen s shapeName naming), t.define (chosen s shapeName naming) lines) := by
  rw [run_intern_of_new h, run_bind_of_ok _ hbody]
  rfl

theorem run_intern_of_error {e : MissingName} (h : s.lookup? key = none)
    (hbody : (body (chosen s shapeName naming)).run (claimed s key shapeName naming)
      = (.error e, t)) :
    (intern key shapeName naming body).run s = (.error e, t) := by
  rw [run_intern_of_new h, run_bind_of_error _ hbody]

/-- The outcomes of asking for the interface of a key. -/
inductive Interning (key shapeName : String) (naming : Naming)
    (body : String → Synthesis (List String)) (s : Interner) :
    Except MissingName String × Interner → Prop
  | known {name : String} (bound : s.lookup? key = some name) :
      Interning key shapeName naming body s (.ok name, s)
  | failed {e : MissingName} {t : Interner} (new : s.lookup? key = none)
      (written : (body (chosen s shapeName naming)).run (claimed s key shapeName naming)
        = (.error e, t)) :
      Interning key shapeName naming body s (.error e, t)
  | added {lines : List String} {t : Interner} (new : s.lookup? key = none)
      (written : (body (chosen s shapeName naming)).run (claimed s key shapeName naming)
        = (.ok lines, t)) :
      Interning key shapeName naming body s
        (.ok (chosen s shapeName naming), t.define (chosen s shapeName naming) lines)

/-- **The interface for a key** is one that is there, or a new one. -/
theorem interning (key shapeName : String) (naming : Naming)
    (body : String → Synthesis (List String)) (s : Interner) :
    Interning key shapeName naming body s ((intern key shapeName naming body).run s) := by
  cases h : s.lookup? key with
  | some name => exact run_intern_of_known h ▸ .known h
  | none =>
    rcases hbody : (body (chosen s shapeName naming)).run (claimed s key shapeName naming)
      with ⟨e | lines, t⟩
    · exact run_intern_of_error h hbody ▸ .failed h hbody
    · exact run_intern_of_ok h hbody ▸ .added h hbody

/-! ## The type of a value -/

/-- The type of a value whose interface, if it has one, is not named here. -/
def innerType (types : TypeMap) (site : Site) (p : Param) : Synthesis String :=
  if !p.possibleValues.isEmpty then return collected p.collection (literalUnion p.possibleValues)
  else if p.isCallback then do
    let taken ← parameterTexts types site p.parameters
    let result ← resultType types site p.returns
    return collected p.collection (arrow taken result)
  else return types.mapCollection p.type p.collection

theorem valueType_eq (types : TypeMap) (site : Site) (naming : Option Naming) (p : Param) :
    valueType types site naming p =
      match naming, p.isObjectShape with
      | some naming, true => do
        let interface ← intern (shapeKey types p.properties) p.name naming fun owner =>
          interfaceLines types owner p.properties
        return collected p.collection interface
      | _, _ => innerType types site p := by
  cases p
  unfold valueType
  rfl

theorem valueType_none (types : TypeMap) (site : Site) (p : Param) :
    valueType types site none p = innerType types site p := by
  rw [valueType_eq]

/-- An object shape is interned where a naming is given. -/
theorem valueType_of_isObjectShape (types : TypeMap) (site : Site) (naming : Naming) {p : Param}
    (h : p.isObjectShape = true) :
    valueType types site (some naming) p = internShape types p naming := by
  rw [valueType_eq, h]
  rfl

/-- What is no object shape is written in the same way everywhere. -/
theorem valueType_of_not_isObjectShape (types : TypeMap) (site : Site) (naming : Option Naming)
    {p : Param} (h : p.isObjectShape = false) :
    valueType types site naming p = innerType types site p := by
  rw [valueType_eq, h]
  cases naming <;> rfl

end Synthesis
end Ambient
