import Ambient.Draft
import Ambient.Proofs.Synthesis.Run

/-!
# What signatures are composed of

Every signature is put together from four things: a result, a missing name, one step after the
other, and the interning of an object shape, whose body is a signature again.  What holds of these
four holds of every signature, so that a property of all of them needs one induction.

## What is here

* `Composed types P x` — `x` is put together from the four, and the fields of each shape that it
  interns satisfy `P`.
* `composed_valueType`, `composed_interfaceLines` and so on — every signature is composed, of shapes
  with at least one field; `composed_emitAll` — so are the blocks of a draft.
-/

set_option autoImplicit false

namespace Ambient

open Signature Synthesis

/-! ## Compositions -/

/-- What signatures are composed of, if they intern shapes whose fields satisfy `P`. -/
inductive Composed (types : TypeMap) (P : List Param → Prop) : {α : Type} → Synthesis α → Prop
  | result {α : Type} (a : α) : Composed types P (pure a)
  | missing {α : Type} (e : MissingName) : Composed types P (throw e : Synthesis α)
  | seq {α β : Type} {x : Synthesis α} {f : α → Synthesis β} (first : Composed types P x)
      (next : ∀ a, Composed types P (f a)) : Composed types P (x >>= f)
  | interned (fields : List Param) (shapeName : String) (naming : Naming) (shape : P fields)
      (body : ∀ owner, Composed types P (interfaceLines types owner fields)) :
      Composed types P (intern (shapeKey types fields) shapeName naming fun owner =>
        interfaceLines types owner fields)

namespace Composed

variable {types : TypeMap} {P Q : List Param → Prop} {α β : Type}

/-- Fewer shapes are interned than may be. -/
theorem mono (h : ∀ fields, P fields → Q fields) {x : Synthesis α} (hx : Composed types P x) :
    Composed types Q x := by
  induction hx with
  | result a => exact .result a
  | missing e => exact .missing e
  | seq _ _ ihx ihf => exact .seq ihx ihf
  | interned fields shapeName naming shape _ ih => exact .interned _ _ _ (h fields shape) ih

/-- Something is done with the result. -/
theorem andReturn {x : Synthesis α} (first : Composed types P x) (g : α → β) :
    Composed types P (x >>= fun a => pure (g a)) :=
  first.seq fun a => result (g a)

/-- A name is asked for first. -/
theorem guarded {x : Synthesis α} (nameless : Bool) (e : MissingName) (h : Composed types P x) :
    Composed types P (do
      if nameless then throw e
      x) := by
  split
  · exact (missing e).seq fun _ => h
  · exact h

/-- The same is done with each of several things. -/
theorem forEach {f : α → Synthesis β} (h : ∀ a, Composed types P (f a)) (members : List α) :
    Composed types P (members.mapM f) := by
  induction members with
  | nil => exact result []
  | cons a rest ih =>
    rw [List.mapM_cons]
    exact (h a).seq fun b => ih.andReturn fun bs => b :: bs

end Composed

/-! ## Signatures -/

/-- A signature interns object shapes, and these have fields. -/
abbrev Signed (types : TypeMap) {α : Type} (x : Synthesis α) : Prop :=
  Composed types (fun fields => fields ≠ []) x

theorem properties_ne_nil {p : Param} (h : p.isObjectShape = true) : p.properties ≠ [] := by
  rw [Param.isObjectShape, Bool.and_eq_true, Bool.not_eq_true', List.isEmpty_eq_false_iff] at h
  exact h.2

section

variable (types : TypeMap)

theorem composed_innerType {site : Site} {p : Param}
    (taken : Signed types (parameterTexts types site p.parameters))
    (result : Signed types (resultType types site p.returns)) :
    Signed types (innerType types site p) := by
  rw [innerType]
  split
  · exact .result _
  · split
    · exact taken.seq fun _ => result.andReturn _
    · exact .result _

theorem composed_valueType_of_inner {site : Site} (naming : Naming) {p : Param}
    (inner : Signed types (innerType types site p))
    (body : ∀ owner, Signed types (interfaceLines types owner p.properties)) :
    Signed types (valueType types site (some naming) p) := by
  cases h : p.isObjectShape with
  | true =>
    rw [valueType_of_isObjectShape _ _ _ h, internShape]
    exact (Composed.interned p.properties _ _ (properties_ne_nil h) body).andReturn _
  | false =>
    rw [valueType_of_not_isObjectShape _ _ _ h]
    exact inner

mutual

theorem composed_inner : ∀ (site : Site) (p : Param),
    Signed types (innerType types site p) ∧
      ∀ owner, Signed types (interfaceLines types owner p.properties)
  | site, ⟨_, _, _, _, _, properties, parameters, returns, _⟩ =>
    ⟨composed_innerType types (composed_parameterTexts site parameters)
      (composed_resultType site returns), fun owner => composed_interfaceLines owner properties⟩

/-- Parameters are composed of the shapes that their types name. -/
theorem composed_parameterTexts : ∀ (site : Site) (ps : List Param),
    Signed types (parameterTexts types site ps)
  | _, [] => .result []
  | site, p :: rest => by
    rw [parameterTexts]
    refine .guarded _ _ (.seq ?_ fun type => (composed_parameterTexts site rest).andReturn _)
    exact composed_valueType_of_inner types _ (composed_inner site p).1 (composed_inner site p).2

theorem composed_resultType : ∀ (site : Site) (returns : Option Param),
    Signed types (resultType types site returns)
  | _, none => .result "void"
  | site, some p => by
    rw [resultType]
    exact composed_valueType_of_inner types _ (composed_inner site p).1 (composed_inner site p).2

/-- The body of an interface is composed of the shapes that the types of its fields name. -/
theorem composed_interfaceLines : ∀ (owner : String) (fields : List Param),
    Signed types (interfaceLines types owner fields)
  | _, [] => .result []
  | owner, p :: rest => by
    rw [interfaceLines]
    refine .guarded _ _ (.seq ?_ fun type => (composed_interfaceLines owner rest).andReturn _)
    exact composed_valueType_of_inner types _ (composed_inner ⟨owner, owner, none⟩ p).1
      (composed_inner ⟨owner, owner, none⟩ p).2

end

theorem composed_valueType (site : Site) (naming : Option Naming) (p : Param) :
    Signed types (valueType types site naming p) := by
  cases naming with
  | none =>
    rw [valueType_none]
    exact (composed_inner types site p).1
  | some naming =>
    exact composed_valueType_of_inner types naming (composed_inner types site p).1
      (composed_inner types site p).2

theorem composed_parameterList (site : Site) (ps : List Param) :
    Signed types (parameterList types site ps) :=
  (composed_parameterTexts types site ps).andReturn _

theorem composed_functionType (site : Site) (ps : List Param) (returns : Option Param) :
    Signed types (functionType types site ps returns) :=
  (composed_parameterTexts types site ps).seq fun _ =>
    (composed_resultType types site returns).andReturn _

/-- Any shape may be interned, one without fields too. -/
theorem composed_internShape (shape : Param) (naming : Naming) :
    Composed types (fun _ => True) (internShape types shape naming) :=
  (Composed.interned _ _ _ trivial fun owner =>
    (composed_interfaceLines types owner shape.properties).mono fun _ _ => trivial).andReturn _

theorem composed_listener (owner : String) (event : Event) :
    Signed types (listener types owner event) := by
  refine (Composed.forEach (fun p => ?_) event.arguments).andReturn _
  exact .guarded _ _ ((composed_valueType types _ _ p).andReturn _)

theorem composed_returnType (site : Site) (method : Method) :
    Signed types (returnType types site method) := by
  rw [returnType]
  split
  · exact .result _
  · split
    · exact .result _
    · exact composed_valueType types site _ _

/-! ## Blocks -/

theorem composed_collect {α : Type} {lines : α → Synthesis (List String)}
    (h : ∀ a, Signed types (lines a)) (members : List α) : Signed types (collect lines members) :=
  (Composed.forEach h members).andReturn _

theorem composed_eventLines (m : Module) (event : Event) :
    Signed types (eventLines types m event) :=
  .guarded _ _ ((composed_listener types m.name event).andReturn _)

theorem composed_methodLines (m : Module) (modifier : String) (seed : Option String)
    (method : Method) : Signed types (methodLines types m modifier seed method) := by
  refine .guarded _ _ ((composed_parameterList types _ _).seq fun taken => ?_)
  split
  · exact (Composed.result "").andReturn _
  · exact ((composed_returnType types _ method).andReturn _).andReturn _

theorem composed_constructorLines (m : Module) : Signed types (constructorLines types m) := by
  rw [constructorLines]
  split
  · exact .result []
  · exact composed_methodLines types m "" _ _

theorem composed_instancePropertyLines (m : Module) (p : Param) :
    Signed types (instancePropertyLines types m p) :=
  .guarded _ _ ((composed_valueType types _ _ p).andReturn _)

theorem composed_propertyLines (m : Module) (modifier : String) (p : Param) :
    Signed types (propertyLines types m modifier p) :=
  .guarded _ _ ((composed_valueType types _ _ p).andReturn _)

/-- **The lines of a module are composed** of the shapes that its members name. -/
theorem composed_memberLines (roster : Roster) (m : Module) :
    Signed types (memberLines types roster m) := by
  rw [memberLines]
  refine .seq (composed_collect types (composed_eventLines types m) _) fun events => ?_
  refine .seq (composed_constructorLines types m) fun construction => ?_
  refine .seq (composed_collect types (composed_methodLines types m _ none) _) fun statics => ?_
  refine .seq (composed_collect types (composed_methodLines types m _ none) _) fun methods => ?_
  refine .seq (composed_collect types (composed_methodLines types m _ none) _) fun instances => ?_
  refine .seq (composed_collect types (composed_instancePropertyLines types m) _) fun values => ?_
  exact (composed_collect types (composed_propertyLines types m _) _).andReturn _

theorem composed_foldlM_emit (rules : Inheritance) (roster : Roster) (blocks : Blocks)
    (ms : List Module) :
    Signed types (ms.foldlM (fun blocks m => blocks.emit types rules roster m) blocks) := by
  induction ms generalizing blocks with
  | nil => exact .result blocks
  | cons m rest ih =>
    rw [List.foldlM_cons]
    exact ((composed_memberLines types roster m).andReturn _).seq ih

end

/-- The blocks of a draft are composed of the shapes that the members of its modules name. -/
theorem composed_emitAll (draft : Draft) : Signed draft.types draft.emitAll :=
  composed_foldlM_emit draft.types draft.inheritance _ _ draft.modules

end Ambient
