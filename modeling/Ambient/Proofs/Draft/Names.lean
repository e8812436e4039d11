import Ambient.Proofs.Draft.Openers
import Ambient.Proofs.Shape.Expansion
import Ambient.Proofs.Synthesis.Names
import Ambient.Proofs.Synthesis.Operations

/-!
# From which words names of interfaces are made

A shape may be met as a parameter, as a result, as a field, as an argument of a listener or as a
property, and its interface is named after the member and the module, or after the interface, that
it is met in.  A law of naming says what the words at each of these places have to be like for the
name to have some property.  Where the metadata provides such words, all interfaces of a draft have
names of that property.

The words are those of the member in which a value stands, at any depth up to the next interface.
In a callback that is an argument of a listener that is the event, with its name as it is written,
although the argument itself would be named after the words of the event.

## What is here

* `NameRules` — conditions on the names in the metadata; `Module.IsNamed`, `Method.IsNamed`,
  `Event.IsNamed` and `Param.IsNamed` say that they are met.
* `Param.showsShape`, `Event.passesShapes` — values and events whose signatures name a shape outside
  of interfaces.
* `NamingLaw` — what the words at each place have to be like.
* `Abiding`, `abiding` — a value abides by the law, in its type and in the body of its interface.
* `names_memberLines`, `names_interfaces` — modules and drafts.
-/

set_option autoImplicit false

namespace Ambient

open Signature Synthesis

/-! ## Names in the metadata -/

/-- Conditions on the names of modules, of their methods and properties and of their events, on
values that have names, and on results. -/
structure NameRules where
  module : String → Prop
  member : String → Prop
  event : String → Prop
  value : Param → Prop
  result : Param → Prop

section

variable (rules : NameRules)

/-- The fields and parameters of the value, at any depth, meet the rules, and so do the results. -/
def Param.HasParts (p : Param) : Prop :=
  p.Every fun q => (∀ f ∈ q.properties ++ q.parameters, rules.value f) ∧
    ∀ r, q.returns = some r → rules.result r

/-- The value meets the rules, and so do its parts. -/
structure Param.IsNamed (p : Param) : Prop where
  value : rules.value p
  parts : p.HasParts rules

/-- The name of the method meets the rules, and so do its parameters and its result. -/
structure Method.IsNamed (method : Method) : Prop where
  name : rules.member method.name
  parameters : ∀ p ∈ method.parameters, p.IsNamed rules
  returns : ∀ r, method.returns = some r → rules.result r ∧ r.HasParts rules

/-- The name of the event meets the rules, and so do its arguments. -/
structure Event.IsNamed (event : Event) : Prop where
  name : rules.event event.name
  arguments : ∀ p ∈ event.arguments, p.IsNamed rules

/-- All names in the module meet the rules. -/
structure Module.IsNamed (m : Module) : Prop where
  name : rules.module m.name
  construction : ∀ c, m.construction = some c → ∀ p ∈ c.parameters, p.IsNamed rules
  methods : ∀ method ∈ m.staticMethods ++ m.methods ++ m.instanceMethods, method.IsNamed rules
  properties : ∀ p ∈ m.instanceProperties ++ m.properties,
    rules.member p.name ∧ p.IsNamed rules
  events : ∀ event ∈ m.instanceEvents ++ m.events, event.IsNamed rules

end

/-! ## Shapes that show -/

mutual

/-- A shape is named in the type of the value: the value is one, or it is a callback that has one
among its parameters or as its result. -/
def Param.showsShape : Param → Bool
  | ⟨name, type, description, required, collection, properties, parameters, returns,
      possibleValues⟩ =>
    let p : Param := ⟨name, type, description, required, collection, properties, parameters,
      returns, possibleValues⟩
    p.isObjectShape || possibleValues.isEmpty && p.isCallback &&
      (showShape parameters || resultShowsShape returns)

/-- One of the values does. -/
def showShape : List Param → Bool
  | [] => false
  | p :: rest => p.showsShape || showShape rest

/-- The result does, if there is one. -/
def resultShowsShape : Option Param → Bool
  | none => false
  | some p => p.showsShape

end

/-- A shape is named in the signature of a callback that is an argument of the listener. -/
def Event.passesShapes (event : Event) : Bool :=
  event.arguments.any fun p => !p.isObjectShape && p.showsShape

theorem showShape_eq_any (ps : List Param) : showShape ps = ps.any Param.showsShape := by
  induction ps with
  | nil => rfl
  | cons p rest ih => rw [showShape, ih, List.any_cons]

namespace Param

theorem showsShape_eq (p : Param) :
    p.showsShape = (p.isObjectShape || p.possibleValues.isEmpty && p.isCallback &&
      (p.parameters.any showsShape || resultShowsShape p.returns)) := by
  cases p
  rw [showsShape, showShape_eq_any]

/-- A callback in which no shape shows has parameters and a result in which none does. -/
theorem showsShape_parts {p : Param} (h : p.showsShape = false)
    (hvalues : p.possibleValues.isEmpty = true) (hcallback : p.isCallback = true) :
    (∀ q ∈ p.parameters, q.showsShape = false) ∧
      ∀ r, p.returns = some r → r.showsShape = false := by
  rw [showsShape_eq, hvalues, hcallback, Bool.true_and, Bool.true_and, Bool.or_eq_false_iff,
    Bool.or_eq_false_iff, List.any_eq_false] at h
  refine ⟨fun q hq => Bool.not_eq_true _ ▸ h.2.1 q hq, fun r hr => ?_⟩
  have hresult := h.2.2
  rwa [hr, resultShowsShape] at hresult

theorem isObjectShape_of_showsShape {p : Param} (h : p.showsShape = false) :
    p.isObjectShape = false := by
  rw [showsShape_eq, Bool.or_eq_false_iff] at h
  exact h.1

end Param

/-! ## Laws of naming -/

/-- At a place that gives these words, every name that may be chosen satisfies `Q`. -/
def Naming.Gives (naming : Naming) (Q : String → Prop) (shapeName : String) : Prop :=
  ∀ s : Interner, Q (chosen s shapeName naming)

/-- Names of interfaces satisfy `Q` if the names in the metadata meet the rules and the sites where
values stand satisfy `Fit`. -/
structure NamingLaw (Q : String → Prop) (Fit : Site → Prop) (rules : NameRules) : Prop where
  /-- Members are sites that fit, except for events. -/
  member : ∀ m name, rules.module m → rules.member name → Fit ⟨m, name, none⟩
  construction : ∀ m, rules.module m → Fit ⟨m, "constructor", some (m ++ "Constructor")⟩
  /-- So are interfaces. -/
  inside : ∀ owner, Q owner → Fit ⟨owner, owner, none⟩
  parameter : ∀ site p, Fit site → rules.value p → p.isObjectShape = true →
    (Naming.ofParameter site p.name).Gives Q p.name
  result : ∀ site r, Fit site → rules.result r → r.isObjectShape = true →
    (Naming.ofResult site.member).Gives Q r.name
  field : ∀ owner p, Q owner → rules.value p → p.isObjectShape = true →
    (Naming.ofField owner).Gives Q p.name
  argument : ∀ event p, rules.event event → rules.value p → p.isObjectShape = true →
    (Naming.ofArgument event p.name).Gives Q p.name
  property : ∀ p, rules.value p → p.isObjectShape = true → Naming.Gives {} Q p.name

/-! ## Values -/

section

variable {types : TypeMap} {Q : String → Prop} {Fit : Site → Prop} {rules : NameRules}

/-- The value asks for interfaces whose names satisfy `Q` only: in its type, if the site fits or if
no shape shows in it, and in the body of its own interface, if the name of that satisfies `Q`. -/
structure Abiding (types : TypeMap) (Q : String → Prop) (Fit : Site → Prop) (p : Param) : Prop where
  inner : ∀ site, Fit site ∨ p.showsShape = false → Names Q (innerType types site p)
  body : ∀ owner, Q owner → Names Q (interfaceLines types owner p.properties)

/-- A value whose name is made of suitable words, if it gets one. -/
theorem Abiding.valueType {p : Param} (h : Abiding types Q Fit p) {site : Site} {naming : Naming}
    (hnaming : p.isObjectShape = true → naming.Gives Q p.name)
    (hsite : p.isObjectShape = false → Fit site ∨ p.showsShape = false) :
    Names Q (valueType types site (some naming) p) := by
  cases hshape : p.isObjectShape with
  | true =>
    rw [valueType_of_isObjectShape _ _ _ hshape, internShape]
    exact (Names.interned (hnaming hshape) h.body).andReturn _
  | false =>
    rw [valueType_of_not_isObjectShape _ _ _ hshape]
    exact h.inner site (hsite hshape)

/-- A value at a site that fits, or in which no shape shows. -/
theorem Abiding.valueType_of_site {p : Param} (h : Abiding types Q Fit p) {site : Site}
    {naming : Naming} (hnaming : Fit site → p.isObjectShape = true → naming.Gives Q p.name)
    (hsite : Fit site ∨ p.showsShape = false) :
    Names Q (Signature.valueType types site (some naming) p) := by
  refine h.valueType (fun hshape => hnaming (hsite.resolve_right fun hnone => ?_) hshape)
    fun _ => hsite
  rw [Param.isObjectShape_of_showsShape hnone] at hshape
  cases hshape

variable (law : NamingLaw Q Fit rules)

include law

theorem names_parameterTexts {ps : List Param} (h : ∀ p ∈ ps, Abiding types Q Fit p)
    (hnames : ∀ p ∈ ps, rules.value p) {site : Site}
    (hsite : Fit site ∨ ∀ p ∈ ps, p.showsShape = false) :
    Names Q (parameterTexts types site ps) := by
  induction ps with
  | nil => exact .result []
  | cons p rest ih =>
    rw [List.forall_mem_cons] at h hnames hsite
    rw [parameterTexts]
    refine .guarded _ _ (.seq ?_ fun type =>
      (ih h.2 hnames.2 (hsite.imp_right And.right)).andReturn _)
    exact h.1.valueType_of_site (fun hfit => law.parameter site p hfit hnames.1)
      (hsite.imp_right And.left)

theorem names_resultType {returns : Option Param}
    (h : ∀ r, returns = some r → Abiding types Q Fit r)
    (hnames : ∀ r, returns = some r → rules.result r) {site : Site}
    (hsite : Fit site ∨ ∀ r, returns = some r → r.showsShape = false) :
    Names Q (resultType types site returns) := by
  cases returns with
  | none => exact .result "void"
  | some r =>
    exact (h r rfl).valueType_of_site (fun hfit => law.result site r hfit (hnames r rfl))
      (hsite.imp_right fun hnone => hnone r rfl)

theorem names_interfaceLines {fields : List Param} (h : ∀ p ∈ fields, Abiding types Q Fit p)
    (hnames : ∀ p ∈ fields, rules.value p) {owner : String} (howner : Q owner) :
    Names Q (interfaceLines types owner fields) := by
  induction fields with
  | nil => exact .result []
  | cons p rest ih =>
    rw [List.forall_mem_cons] at h hnames
    rw [interfaceLines]
    refine .guarded _ _ (.seq ?_ fun type => (ih h.2 hnames.2).andReturn _)
    exact h.1.valueType_of_site (fun _ => law.field owner p howner hnames.1)
      (Or.inl (law.inside owner howner))

/-- **Values whose parts meet the rules abide by the law.** -/
theorem abiding {p : Param} (h : p.HasParts rules) : Abiding types Q Fit p := by
  induction p using Param.induct with
  | step p properties parameters returns =>
    obtain ⟨hnames, hresult⟩ := h.here
    rw [List.forall_mem_append] at hnames
    have hparameters : ∀ q ∈ p.parameters, Abiding types Q Fit q := fun q hq =>
      parameters q hq (h.of_mem_parameters hq)
    have hreturns : ∀ r, p.returns = some r → Abiding types Q Fit r := fun r hr =>
      returns r hr (h.of_returns hr)
    refine ⟨fun site hsite => ?_, fun owner howner => names_interfaceLines law
      (fun q hq => properties q hq (h.of_mem_properties hq)) hnames.1 howner⟩
    rw [innerType]
    split
    · exact .result _
    · split
      · rename_i hvalues hcallback
        rw [Bool.not_eq_true, Bool.not_eq_false'] at hvalues
        -- The parts stand at the site of the callback, and show a shape only if the callback does.
        have hparts := hsite.imp_right fun hnone =>
          Param.showsShape_parts hnone hvalues hcallback
        refine (names_parameterTexts law hparameters hnames.2
          (hparts.imp_right And.left)).seq fun taken => ?_
        exact (names_resultType law hreturns hresult (hparts.imp_right And.right)).andReturn _
      · exact .result _

end

/-! ## Members -/

section

variable {types : TypeMap} {Q : String → Prop} {Fit : Site → Prop} {rules : NameRules}

theorem names_collect {α : Type} {name : α → String} {lines : α → Synthesis (List String)}
    {members : List α} (h : ∀ a ∈ members, Names Q (lines a)) :
    Names Q (collect lines (sortedByName name members)) :=
  (Names.forEach fun a ha => h a (mem_sortedByName.1 ha)).andReturn _

variable (law : NamingLaw Q Fit rules)

include law

/-- An argument of a listener is named after the words of the event.  Where it is a callback, the
event itself has to be a site that fits, or else no shape may show. -/
theorem names_listener {owner : String} {event : Event} (h : event.IsNamed rules)
    (hevent : Fit ⟨owner, event.name, none⟩ ∨ event.passesShapes = false) :
    Names Q (listener types owner event) := by
  refine (Names.forEach fun p hp => .guarded _ _ (Names.andReturn ?_ _)).andReturn _
  have hnamed := h.arguments p hp
  refine (abiding law hnamed.parts).valueType
    (law.argument event.name p h.name hnamed.value) fun hshape => ?_
  refine hevent.imp_right fun hnone => ?_
  rw [Event.passesShapes, List.any_eq_false] at hnone
  have hp := hnone p hp
  rwa [hshape, Bool.not_false, Bool.true_and, Bool.not_eq_true] at hp

theorem names_methodLines {m : Module} {modifier : String} {seed : Option String} {method : Method}
    (hsite : Fit ⟨m.name, method.name, seed⟩)
    (hparameters : ∀ p ∈ method.parameters, p.IsNamed rules)
    (hreturns : ∀ r, method.returns = some r → rules.result r ∧ r.HasParts rules) :
    Names Q (methodLines types m modifier seed method) := by
  have htaken : Names Q (parameterList types ⟨m.name, method.name, seed⟩ method.parameters) :=
    (names_parameterTexts law (fun p hp => abiding law (hparameters p hp).parts)
      (fun p hp => (hparameters p hp).value) (Or.inl hsite)).andReturn _
  have hresult : Names Q (returnType types ⟨m.name, method.name, seed⟩ method) := by
    rw [returnType]
    split
    · exact .result _
    · rename_i r hr
      split
      · exact .result _
      · obtain ⟨hname, hparts⟩ := hreturns r hr
        exact (abiding law hparts).valueType_of_site
          (fun hfit => law.result ⟨m.name, method.name, seed⟩ r hfit hname) (Or.inl hsite)
  refine .guarded _ _ (htaken.seq fun taken => ?_)
  split
  · exact (Names.result "").andReturn _
  · exact (hresult.andReturn _).andReturn _

theorem names_constructorLines {m : Module} (h : m.IsNamed rules) :
    Names Q (constructorLines types m) := by
  rw [constructorLines]
  split
  · exact .result []
  · rename_i c hc
    exact names_methodLines law (law.construction m.name h.name) (h.construction c hc)
      fun r hr => by cases hr

theorem names_property {m : Module} {naming : Option Naming} {p : Param}
    (hm : rules.module m.name) (h : rules.member p.name ∧ p.IsNamed rules)
    (hnaming : naming = none ∨ naming = some {}) :
    Names Q (valueType types ⟨m.name, p.name, none⟩ naming p) := by
  have hsite := law.member m.name p.name hm h.1
  have hvalue : Abiding types Q Fit p := abiding law h.2.parts
  rcases hnaming with rfl | rfl
  · rw [valueType_none]
    exact hvalue.inner _ (Or.inl hsite)
  · exact hvalue.valueType_of_site (fun _ => law.property p h.2.value) (Or.inl hsite)

/-- **A module whose names meet the rules abides by the law**, if its events are sites that fit, or
pass no shapes. -/
theorem names_memberLines (roster : Roster) {m : Module} (h : m.IsNamed rules)
    (hevents : ∀ event ∈ m.instanceEvents ++ m.events,
      Fit ⟨m.name, event.name, none⟩ ∨ event.passesShapes = false) :
    Names Q (memberLines types roster m) := by
  have hmethods := h.methods
  have hproperties := h.properties
  rw [List.forall_mem_append, List.forall_mem_append] at hmethods
  rw [List.forall_mem_append] at hproperties
  have hmethod {modifier : String} {method : Method} (hnamed : method.IsNamed rules) :
      Names Q (methodLines types m modifier none method) :=
    names_methodLines law (law.member m.name method.name h.name hnamed.name) hnamed.parameters
      hnamed.returns
  rw [memberLines]
  refine .seq (names_collect fun event he => .guarded _ _
    ((names_listener law (h.events event he) (hevents event he)).andReturn _)) fun events => ?_
  refine .seq (names_constructorLines law h) fun construction => ?_
  refine .seq (names_collect fun a ha => hmethod (hmethods.1.1 a ha)) fun statics => ?_
  refine .seq (names_collect fun a ha => hmethod (hmethods.1.2 a ha)) fun methods => ?_
  refine .seq (names_collect fun a ha => hmethod (hmethods.2 a ha)) fun instances => ?_
  refine .seq (names_collect fun p hp => .guarded _ _ ((names_property law h.name
    (hproperties.1 p hp) (Or.inl rfl)).andReturn _)) fun values => ?_
  exact (names_collect fun p hp => .guarded _ _ ((names_property law h.name
    (hproperties.2 p hp) (Or.inr rfl)).andReturn _)).andReturn _

end

/-! ## Drafts -/

section

variable {Q : String → Prop}

theorem names_foldlM_emit {types : TypeMap} {rules : Inheritance} {roster : Roster}
    {ms : List Module} (h : ∀ m ∈ ms, Names Q (memberLines types roster m)) (blocks : Blocks) :
    Names Q (ms.foldlM (fun (b : Blocks) m => b.emit types rules roster m) blocks) := by
  induction ms generalizing blocks with
  | nil => exact .result blocks
  | cons m rest ih =>
    rw [List.foldlM_cons]
    exact ((h m List.mem_cons_self).andReturn _).seq
      (ih fun o ho => h o (List.mem_cons_of_mem m ho))

/-- **The interfaces of a draft have the names that its modules ask for.** -/
theorem names_interfaces {draft : Draft} {d : Declarations} (h : draft.build = .ok d)
    (hnames : ∀ m ∈ draft.modules,
      Names Q (memberLines draft.types (Roster.ofModules draft.modules) m)) :
    ∀ i ∈ d.interfaces, Q i.name := by
  obtain ⟨interner, hrun, hinterfaces, -⟩ := exists_of_build_eq_ok h
  have hall : Names Q draft.emitAll := names_foldlM_emit hnames Blocks.empty
  have hrun2 := hall (Interner.empty.reserve draft.reservedNames) (by simp [Interner.empty,
    Interner.reserve, Dictionary.keys, Dictionary.empty])
  rw [hrun] at hrun2
  intro i hi
  refine hrun2 i.name ?_
  rw [← interfaces_names, ← hinterfaces]
  exact List.mem_map_of_mem hi

end

end Ambient
