import Ambient.Proofs.Synthesis.Calls

/-!
# The texts of signatures

What a signature says depends on the interner only through the names of the interfaces.  Once all
of them are known, a signature is a text that can be written down without an interner.

## What is here

* `typeWith` — the type of a value, with the interface of each shape named by a function.
* `nameIn` — the names that an interner has.
* `valueType_eq_typeWith`, `interfaceLines_eq` — so types and bodies are written, where nothing new
  comes in.
-/

set_option autoImplicit false

namespace Ambient

open Signature Synthesis

/-! ## Types with named interfaces -/

mutual

/-- The type of a value, with the interface of each shape named by a function. -/
def typeWith (types : TypeMap) (interface : List Param → String) : Param → String
  | ⟨name, type, description, required, collection, properties, parameters, returns,
      possibleValues⟩ =>
    let p : Param := ⟨name, type, description, required, collection, properties, parameters,
      returns, possibleValues⟩
    if p.isObjectShape then collected collection (interface properties)
    else if !possibleValues.isEmpty then collected collection (literalUnion possibleValues)
    else if p.isCallback then
      collected collection
        (arrow (textsWith types interface parameters) (resultWith types interface returns))
    else types.mapCollection type collection

/-- Parameters with their types. -/
def textsWith (types : TypeMap) (interface : List Param → String) : List Param → List String
  | [] => []
  | p :: rest => parameterText p (typeWith types interface p) :: textsWith types interface rest

/-- The type of a result. -/
def resultWith (types : TypeMap) (interface : List Param → String) : Option Param → String
  | none => "void"
  | some p => typeWith types interface p

end

theorem typeWith_eq (types : TypeMap) (interface : List Param → String) (p : Param) :
    typeWith types interface p =
      if p.isObjectShape then collected p.collection (interface p.properties)
      else if !p.possibleValues.isEmpty then
        collected p.collection (literalUnion p.possibleValues)
      else if p.isCallback then
        collected p.collection (arrow (textsWith types interface p.parameters)
          (resultWith types interface p.returns))
      else types.mapCollection p.type p.collection := by
  cases p
  unfold typeWith
  rfl

/-- The names that an interner has for the interfaces of shapes. -/
def nameIn (types : TypeMap) (interner : Interner) (fields : List Param) : String :=
  (interner.lookup? (shapeKey types fields)).getD ""

/-- A step that changes nothing is made of steps that change nothing. -/
theorem exists_of_run_bind_same {types : TypeMap} {P : List Param → Prop} {α β : Type}
    {x : Synthesis α} {f : α → Synthesis β} {s : Interner} {b : β}
    (hx : Composed types P x) (hf : ∀ a, Composed types P (f a))
    (h : (x >>= f).run s = (.ok b, s)) : ∃ a, x.run s = (.ok a, s) ∧ (f a).run s = (.ok b, s) := by
  obtain ⟨a, t, hxt, hft⟩ := exists_of_run_bind_eq_ok h
  obtain rfl : s = t := (extends_of_run hx hxt).antisymm (extends_of_run (hf a) hft)
  exact ⟨a, hxt, hft⟩

section

variable (types : TypeMap)

theorem internShape_eq {p : Param} {naming : Naming} {s : Interner} {text : String}
    (h : (internShape types p naming).run s = (.ok text, s)) :
    text = collected p.collection (nameIn types s p.properties) := by
  obtain ⟨name, t, hname, htext⟩ := exists_of_run_bind_eq_ok h
  cases htext
  cases hs : s.lookup? (shapeKey types p.properties) with
  | some known =>
    rw [run_intern_of_known hs] at hname
    cases hname
    rw [nameIn, hs, Option.getD_some]
  | none =>
    obtain ⟨lines, r, -, -, -, hbound⟩ := exists_body_of_intern hs hname
    rw [hs] at hbound
    cases hbound

theorem valueType_eq_of_inner {site : Site} {naming : Naming} {p : Param} {s : Interner}
    {text : String}
    (inner : ∀ text, (innerType types site p).run s = (.ok text, s) → p.isObjectShape = false →
      text = typeWith types (nameIn types s) p)
    (h : (valueType types site (some naming) p).run s = (.ok text, s)) :
    text = typeWith types (nameIn types s) p := by
  cases hp : p.isObjectShape with
  | true =>
    rw [valueType_of_isObjectShape _ _ _ hp] at h
    rw [internShape_eq types h, typeWith_eq, hp, if_pos rfl]
  | false =>
    rw [valueType_of_not_isObjectShape _ _ _ hp] at h
    exact inner text h hp

mutual

theorem innerType_eq : ∀ (site : Site) (p : Param) (s : Interner) (text : String),
    (innerType types site p).run s = (.ok text, s) → p.isObjectShape = false →
      text = typeWith types (nameIn types s) p
  | site, ⟨name, type, description, required, collection, properties, parameters, returns,
      possibleValues⟩, s, text, h, hp => by
    rw [typeWith_eq, hp, if_neg (by decide)]
    rw [innerType] at h
    split at h
    · rename_i hvalues
      cases h
      rw [if_pos hvalues]
    · rename_i hvalues
      rw [if_neg hvalues]
      split at h
      · rename_i hcallback
        obtain ⟨taken, htaken, h⟩ := exists_of_run_bind_same
          (composed_parameterTexts types site parameters)
          (fun taken => (composed_resultType types site returns).andReturn _) h
        obtain ⟨result, hresult, h⟩ := exists_of_run_bind_same
          (composed_resultType types site returns) (fun result => .result _) h
        cases h
        rw [if_pos hcallback, parameterTexts_eq site parameters s taken htaken,
          resultType_eq site returns s result hresult]
      · rename_i hcallback
        cases h
        rw [if_neg hcallback]

theorem parameterTexts_eq : ∀ (site : Site) (ps : List Param) (s : Interner)
    (texts : List String), (parameterTexts types site ps).run s = (.ok texts, s) →
      texts = textsWith types (nameIn types s) ps
  | site, [], s, texts, h => by
    rw [parameterTexts] at h
    cases h
    rfl
  | site, p :: rest, s, texts, h => by
    rw [parameterTexts] at h
    obtain ⟨type, htype, h⟩ := exists_of_run_bind_same (composed_valueType types site _ p)
      (fun type => (composed_parameterTexts types site rest).andReturn _)
      (run_of_run_guarded h).2
    obtain ⟨more, hmore, h⟩ := exists_of_run_bind_same (composed_parameterTexts types site rest)
      (fun more => .result _) h
    cases h
    rw [textsWith, valueType_eq_of_inner types (innerType_eq site p s) htype,
      parameterTexts_eq site rest s more hmore]

theorem resultType_eq : ∀ (site : Site) (returns : Option Param) (s : Interner) (text : String),
    (resultType types site returns).run s = (.ok text, s) →
      text = resultWith types (nameIn types s) returns
  | site, none, s, text, h => by
    rw [resultType] at h
    cases h
    rfl
  | site, some p, s, text, h => by
    rw [resultType] at h
    exact valueType_eq_of_inner types (innerType_eq site p s) h

end

/-- **So the type of a value is written**, once all names are known. -/
theorem valueType_eq_typeWith {site : Site} {naming : Naming} {p : Param} {s : Interner}
    {text : String} (h : (valueType types site (some naming) p).run s = (.ok text, s)) :
    text = typeWith types (nameIn types s) p :=
  valueType_eq_of_inner types (innerType_eq types site p s) h

/-- **So the body of an interface is written**, once all names are known. -/
theorem interfaceLines_eq {owner : String} {fields : List Param} {s : Interner}
    {lines : List String} (h : (interfaceLines types owner fields).run s = (.ok lines, s)) :
    lines = fields.flatMap fun f =>
      DocComment.ofDescription f.description
        ++ [fieldText f (typeWith types (nameIn types s) f)] := by
  induction fields generalizing lines with
  | nil =>
    rw [interfaceLines] at h
    cases h
    rfl
  | cons f rest ih =>
    rw [interfaceLines] at h
    obtain ⟨type, htype, h⟩ := exists_of_run_bind_same (composed_valueType types _ _ f)
      (fun type => (composed_interfaceLines types owner rest).andReturn _)
      (run_of_run_guarded h).2
    obtain ⟨more, hmore, h⟩ := exists_of_run_bind_same (composed_interfaceLines types owner rest)
      (fun more => .result _) h
    cases h
    rw [List.flatMap_cons, ← ih hmore, ← valueType_eq_typeWith types htype, List.append_assoc]
    rfl

end

end Ambient
