import Ambient.Proofs.Description.Comments
import Ambient.Proofs.Description.Undescribed
import Ambient.Proofs.Synthesis.Parallel

/-!
# Writing without descriptions

A module and the module without descriptions are written in parallel: the same interfaces are asked
for in the same order, and what is written for the one is what is written for the other with
comments put in.

## What is here

* `Unaffected types p` — the type of a value and the body of its interface are written in parallel
  with those of the value without descriptions; `unaffected` — all values are.
* `parallel_listener`, `parallel_eventLines`, `parallel_methodLines` and so on — the members of a
  module.
* `parallel_memberLines` — all that a module adds to its block.
-/

set_option autoImplicit false

namespace Ambient

open Signature Synthesis

/-- Two syntheses whose interfaces are the same but for comments in the first. -/
abbrev Shadowed {α β : Type} (Q : α → β → Prop) (x : Synthesis α) (y : Synthesis β) : Prop :=
  Parallel Commented Q x y

section

variable (types : TypeMap)

/-! ## Types -/

/-- The type of the value, and the body of its interface if it has one, are written in parallel with
those of the value without descriptions. -/
structure Unaffected (p : Param) : Prop where
  inner : ∀ site, Shadowed Eq (innerType types site p) (innerType types site p.undescribed)
  body : ∀ owner, Shadowed Commented (interfaceLines types owner p.properties)
    (interfaceLines types owner (p.properties.map Param.undescribed))

variable {types}

theorem Unaffected.internShape {p : Param} (h : Unaffected types p) (naming : Naming) :
    Shadowed Eq (internShape types p naming) (internShape types p.undescribed naming) := by
  rw [Signature.internShape, Signature.internShape, Param.name_undescribed,
    Param.properties_undescribed, shapeKey_undescribed, Param.collection_undescribed]
  exact (Parallel.interned .nil h.body).andReturn fun name other hname => by rw [hname]

theorem Unaffected.valueType {p : Param} (h : Unaffected types p) (site : Site)
    (naming : Option Naming) :
    Shadowed Eq (valueType types site naming p) (valueType types site naming p.undescribed) := by
  cases naming with
  | none =>
    rw [valueType_none, valueType_none]
    exact h.inner site
  | some naming =>
    have hshape := p.isObjectShape_undescribed
    cases hp : p.isObjectShape with
    | true =>
      rw [valueType_of_isObjectShape _ _ _ hp, valueType_of_isObjectShape _ _ _ (hshape.trans hp)]
      exact h.internShape naming
    | false =>
      rw [valueType_of_not_isObjectShape _ _ _ hp,
        valueType_of_not_isObjectShape _ _ _ (hshape.trans hp)]
      exact h.inner site

/-! ## Lists of values -/

theorem parallel_parameterTexts {ps : List Param} (h : ∀ p ∈ ps, Unaffected types p)
    (site : Site) :
    Shadowed Eq (parameterTexts types site ps)
      (parameterTexts types site (ps.map Param.undescribed)) := by
  induction ps with
  | nil => exact .result rfl
  | cons p rest ih =>
    rw [List.map_cons, parameterTexts, parameterTexts, Param.name_undescribed]
    refine .guarded _ _ (((h p List.mem_cons_self).valueType site _).seq ?_)
    rintro type _ rfl
    refine (ih fun q hq => h q (List.mem_cons_of_mem p hq)).andReturn ?_
    rintro texts _ rfl
    rw [Param.parameterText_undescribed]

theorem parallel_resultType {returns : Option Param}
    (h : ∀ p, returns = some p → Unaffected types p) (site : Site) :
    Shadowed Eq (resultType types site returns)
      (resultType types site (returns.map Param.undescribed)) := by
  cases returns with
  | none => exact .result rfl
  | some p => exact (h p rfl).valueType site _

theorem parallel_interfaceLines {fields : List Param} (h : ∀ p ∈ fields, Unaffected types p)
    (owner : String) :
    Shadowed Commented (interfaceLines types owner fields)
      (interfaceLines types owner (fields.map Param.undescribed)) := by
  induction fields with
  | nil => exact .result .nil
  | cons p rest ih =>
    rw [List.map_cons, interfaceLines, interfaceLines, Param.name_undescribed]
    refine .guarded _ _ (((h p List.mem_cons_self).valueType _ _).seq ?_)
    rintro type _ rfl
    refine (ih fun q hq => h q (List.mem_cons_of_mem p hq)).andReturn fun lines bare hlines => ?_
    rw [Param.description_undescribed, DocComment.ofDescription_none, List.nil_append,
      Param.fieldText_undescribed]
    exact ((Commented.line (.refl _)).append hlines).comment p.description

/-! ## All values -/

theorem innerType_undescribed (site : Site) (p : Param) :
    innerType types site p.undescribed =
      if !p.possibleValues.isEmpty then
        return collected p.collection (literalUnion p.possibleValues)
      else if p.isCallback then do
        let taken ← parameterTexts types site (p.parameters.map Param.undescribed)
        let result ← resultType types site (p.returns.map Param.undescribed)
        return collected p.collection (arrow taken result)
      else return types.mapCollection p.type p.collection := by
  have hvalues : literalUnion p.undescribed.possibleValues = literalUnion p.possibleValues := by
    rw [literalUnion, literalUnion, Param.map_literal_undescribed]
  have hempty : p.undescribed.possibleValues.isEmpty = p.possibleValues.isEmpty := by
    rw [Param.possibleValues_undescribed, List.isEmpty_map]
  rw [innerType, hempty, hvalues, Param.isCallback_undescribed, Param.collection_undescribed,
    Param.parameters_undescribed, Param.returns_undescribed, Param.type_undescribed]

/-- **The descriptions in a value affect neither its type nor the interfaces that it asks for.** -/
theorem unaffected (p : Param) : Unaffected types p := by
  induction p using Param.induct with
  | step p properties parameters returns =>
    refine ⟨fun site => ?_, parallel_interfaceLines properties⟩
    rw [innerType_undescribed, innerType]
    split
    · exact .result rfl
    · split
      · -- Only a callback has parts in its type, and they are written at its own site.
        refine (parallel_parameterTexts parameters site).seq ?_
        rintro taken _ rfl
        exact (parallel_resultType returns site).andReturn fun result other hresult => by
          rw [hresult]
      · exact .result rfl

end

/-! ## Members -/

section

variable (types : TypeMap)

theorem parallel_parameterList (site : Site) (ps : List Param) :
    Shadowed Eq (parameterList types site ps)
      (parameterList types site (ps.map Param.undescribed)) :=
  (parallel_parameterTexts (fun p _ => unaffected p) site).andReturn fun texts others htexts => by
    rw [htexts]

theorem parallel_returnType (site : Site) (method : Method) :
    Shadowed Eq (returnType types site method) (returnType types site method.undescribed) := by
  rw [returnType, returnType, Method.undescribed]
  cases method.returns with
  | none => exact .result rfl
  | some p =>
    dsimp only [Option.map_some]
    rw [Param.type_undescribed]
    split
    · exact .result rfl
    · exact (unaffected p).valueType site _

/-- An argument of a listener has its comment within the line. -/
theorem parallel_argumentText (owner : String) (event : Event) (p : Param) :
    Shadowed CommentedText (argumentText types owner event p)
      (argumentText types owner event.undescribed p.undescribed) := by
  rw [argumentText, argumentText, Event.undescribed, Param.name_undescribed]
  refine .guarded _ _ (((unaffected p).valueType _ _).andReturn ?_)
  rintro type _ rfl
  have hnone (margin : String) : argumentComment margin none = "" := rfl
  rw [Param.description_undescribed, hnone, String.empty_append, Param.parameterText_undescribed]
  exact (CommentedText.refl _).comment _ _

theorem parallel_listener (owner : String) (event : Event) :
    Shadowed CommentedText (listener types owner event)
      (listener types owner event.undescribed) := by
  have harguments : List.Forall₂ (fun p q => Shadowed CommentedText
      (argumentText types owner event p) (argumentText types owner event.undescribed q))
      event.arguments event.undescribed.arguments := by
    rw [Event.undescribed, List.forall₂_map_right_iff, List.forall₂_same]
    exact fun p _ => parallel_argumentText types owner event p
  refine (Parallel.forEach harguments).andReturn fun texts bares htexts => ?_
  exact ((CommentedText.refl "(").append (.intercalate _ htexts)).append (.refl ") => void")

theorem parallel_eventLines (m : Module) (event : Event) :
    Shadowed Commented (eventLines types m event)
      (eventLines types m.undescribed event.undescribed) := by
  refine .guarded _ _ ((parallel_listener types m.name event).andReturn fun text bare htext => ?_)
  refine Commented.comment (.line ?_) event.description
  exact ((CommentedText.refl _).append htext).append (.refl _)

theorem parallel_methodLines (m : Module) (modifier : String) (seed : Option String)
    (method : Method) :
    Shadowed Commented (methodLines types m modifier seed method)
      (methodLines types m.undescribed modifier seed method.undescribed) := by
  have hline (taken result : String) : Commented
      (DocComment.ofDescription method.description
        ++ [modifier ++ method.name ++ "(" ++ taken ++ ")" ++ result ++ ";"])
      [modifier ++ method.name ++ "(" ++ taken ++ ")" ++ result ++ ";"] :=
    (Commented.refl _).comment _
  refine .guarded _ _ ((parallel_parameterList types _ method.parameters).seq ?_)
  rintro taken _ rfl
  dsimp only
  have hsame : method.undescribed.name = method.name := rfl
  by_cases hname : method.name = "constructor"
  · rw [if_pos hname, if_pos (hsame.trans hname)]
    refine (Parallel.result (Q := Eq) rfl).seq ?_
    rintro result _ rfl
    exact .result (hline taken result)
  · rw [if_neg hname, if_neg (hsame ▸ hname)]
    refine Parallel.seq (Q := Eq) ?_ ?_
    · exact (parallel_returnType types _ method).andReturn fun type other htype => by rw [htype]
    · rintro result _ rfl
      exact .result (hline taken result)

theorem parallel_constructorLines (m : Module) :
    Shadowed Commented (constructorLines types m) (constructorLines types m.undescribed) := by
  rw [constructorLines, constructorLines, Module.undescribed]
  cases m.construction with
  | none => exact .result .nil
  | some c => exact parallel_methodLines types m "" _ c.asMethod

theorem parallel_instancePropertyLines (m : Module) (p : Param) :
    Shadowed Commented (instancePropertyLines types m p)
      (instancePropertyLines types m.undescribed p.undescribed) := by
  rw [instancePropertyLines, instancePropertyLines, Param.name_undescribed]
  refine .guarded _ _ (((unaffected p).valueType _ none).andReturn ?_)
  rintro type _ rfl
  rw [propertyLine, propertyLine, Param.name_undescribed, Param.optionalMark_undescribed]
  exact .refl _

theorem parallel_propertyLines (m : Module) (modifier : String) (p : Param) :
    Shadowed Commented (propertyLines types m modifier p)
      (propertyLines types m.undescribed modifier p.undescribed) := by
  rw [propertyLines, propertyLines, Param.name_undescribed]
  refine .guarded _ _ (((unaffected p).valueType _ _).andReturn ?_)
  rintro type _ rfl
  rw [propertyLine, propertyLine, Param.name_undescribed, Param.optionalMark_undescribed]
  exact .refl _

/-- A group of members is sorted and written in parallel. -/
theorem parallel_collect {α : Type} {name : α → String} {undescribed : α → α}
    (hname : ∀ a, name (undescribed a) = name a) {lines others : α → Synthesis (List String)}
    (h : ∀ a, Shadowed Commented (lines a) (others (undescribed a))) (members : List α) :
    Shadowed Commented (collect lines (sortedByName name members))
      (collect others (sortedByName name (members.map undescribed))) := by
  rw [sortedByName_map hname]
  refine (Parallel.forEach (Q := Commented) ?_).andReturn fun groups bares => Commented.flatten
  rw [List.forall₂_map_right_iff, List.forall₂_same]
  exact fun a _ => h a

/-- **What a module adds to its block** is what it adds without descriptions, with comments put
in. -/
theorem parallel_memberLines (roster : Roster) (m : Module) :
    Shadowed Commented (memberLines types roster m) (memberLines types roster m.undescribed) := by
  have hmethods (modifier : String) := parallel_collect
    (fun method : Method => (rfl : method.undescribed.name = method.name))
    (parallel_methodLines types m modifier none)
  have hevents := parallel_collect
    (fun event : Event => (rfl : event.undescribed.name = event.name))
    (parallel_eventLines types m) (m.instanceEvents ++ m.events)
  rw [List.map_append] at hevents
  rw [memberLines, memberLines]
  refine hevents.seq fun events events2 hevents => ?_
  refine (parallel_constructorLines types m).seq fun construction construction2 hconstruction => ?_
  refine (hmethods _ m.staticMethods).seq fun statics statics2 hstatics => ?_
  refine (hmethods _ m.methods).seq fun methods methods2 hmethods2 => ?_
  refine (hmethods _ m.instanceMethods).seq fun instances instances2 hinstances => ?_
  refine (parallel_collect Param.name_undescribed (parallel_instancePropertyLines types m)
    m.instanceProperties).seq fun values values2 hvalues => ?_
  refine (parallel_collect Param.name_undescribed (parallel_propertyLines types m _)
    m.properties).andReturn fun properties properties2 hproperties => ?_
  exact (((((hevents.append hconstruction).append hstatics).append hmethods2).append
    hinstances).append hvalues).append hproperties

end
end Ambient
