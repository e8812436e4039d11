import Mathlib.Data.List.Forall2
import Ambient.Block
import Ambient.Proofs.Shape.Expansion

/-!
# Modules without descriptions

A description tells a reader what a member is for, and may tell besides that a value is optional.
To drop descriptions and nothing else, a value without them has to say outright whether it is
optional.  Modules that are described in different words, with the same values optional, are one
module once their descriptions are dropped.

## What is here

* `Param.undescribed`, `Method.undescribed`, …, `Module.undescribed` — without descriptions, at any
  depth.
* `typeKey_undescribed`, `shapeKey_undescribed` — keys do not depend on descriptions.
* `sortedByName_map` — members keep their order when their names are kept.
* `Param.Redescribed`, …, `Module.Redescribed` — the same but for descriptions, with the same values
  optional; `Module.Redescribed.undescribed_eq` — without descriptions they are the same.
-/

set_option autoImplicit false

namespace Ambient

open Signature

/-! ## Values without descriptions -/

/-- The possible value without its description. -/
def PossibleValue.undescribed (v : PossibleValue) : PossibleValue := { v with description := none }

mutual

/-- The value without descriptions.  What its description says about whether it is optional, it says
outright. -/
def Param.undescribed : Param → Param
  | ⟨name, type, description, required, collection, properties, parameters, returns,
      possibleValues⟩ =>
    let p : Param := ⟨name, type, description, required, collection, properties, parameters,
      returns, possibleValues⟩
    ⟨name, type, none, some (!p.isOptional), collection, undescribedList properties,
      undescribedList parameters, undescribedResult returns,
      possibleValues.map PossibleValue.undescribed⟩

/-- Values without descriptions. -/
def undescribedList : List Param → List Param
  | [] => []
  | p :: rest => p.undescribed :: undescribedList rest

/-- A result without descriptions. -/
def undescribedResult : Option Param → Option Param
  | none => none
  | some p => some p.undescribed

end

theorem undescribedList_eq_map (ps : List Param) :
    undescribedList ps = ps.map Param.undescribed := by
  induction ps with
  | nil => rfl
  | cons p rest ih => rw [undescribedList, ih, List.map_cons]

theorem undescribedResult_eq_map (returns : Option Param) :
    undescribedResult returns = returns.map Param.undescribed := by
  cases returns <;> rfl

namespace Param

theorem undescribed_eq (p : Param) :
    p.undescribed = { p with
      description := none
      required := some (!p.isOptional)
      properties := p.properties.map undescribed
      parameters := p.parameters.map undescribed
      returns := p.returns.map undescribed
      possibleValues := p.possibleValues.map PossibleValue.undescribed } := by
  cases p
  rw [undescribed, undescribedList_eq_map, undescribedList_eq_map, undescribedResult_eq_map]

variable (p : Param)

@[simp] theorem name_undescribed : p.undescribed.name = p.name := by
  rw [undescribed_eq]

@[simp] theorem type_undescribed : p.undescribed.type = p.type := by
  rw [undescribed_eq]

@[simp] theorem collection_undescribed : p.undescribed.collection = p.collection := by
  rw [undescribed_eq]

@[simp] theorem description_undescribed : p.undescribed.description = none := by
  rw [undescribed_eq]

@[simp] theorem properties_undescribed :
    p.undescribed.properties = p.properties.map undescribed := by
  rw [undescribed_eq]

@[simp] theorem parameters_undescribed :
    p.undescribed.parameters = p.parameters.map undescribed := by
  rw [undescribed_eq]

@[simp] theorem returns_undescribed : p.undescribed.returns = p.returns.map undescribed := by
  rw [undescribed_eq]

@[simp] theorem possibleValues_undescribed :
    p.undescribed.possibleValues = p.possibleValues.map PossibleValue.undescribed := by
  rw [undescribed_eq]

/-- The value is as optional as it was. -/
@[simp] theorem isOptional_undescribed : p.undescribed.isOptional = p.isOptional := by
  rw [undescribed_eq, isOptional_of_required rfl, Bool.not_not]

@[simp] theorem isObjectShape_undescribed : p.undescribed.isObjectShape = p.isObjectShape := by
  simp [isObjectShape]

@[simp] theorem isCallback_undescribed : p.undescribed.isCallback = p.isCallback := by
  simp [isCallback, isFunction]

@[simp] theorem optionalMark_undescribed : optionalMark p.undescribed = optionalMark p := by
  rw [optionalMark, optionalMark, isOptional_undescribed]

@[simp] theorem parameterText_undescribed (type : String) :
    parameterText p.undescribed type = parameterText p type := by
  rw [parameterText, parameterText, name_undescribed, optionalMark_undescribed]

@[simp] theorem fieldText_undescribed (type : String) :
    fieldText p.undescribed type = fieldText p type := by
  rw [fieldText, fieldText, name_undescribed, optionalMark_undescribed]

@[simp] theorem map_literal_undescribed :
    p.undescribed.possibleValues.map literal = p.possibleValues.map literal := by
  rw [possibleValues_undescribed, List.map_map]
  rfl

@[simp] theorem kind_undescribed : p.undescribed.kind = p.kind := by
  simp [kind]

end Param

/-! ## Keys -/

section

variable (types : TypeMap)

/-- The key of a type does not depend on descriptions. -/
theorem typeKey_undescribed (p : Param) : typeKey types p.undescribed = typeKey types p := by
  induction p using Param.induct with
  | step p properties parameters returns =>
    have hfields {ps : List Param} (hps : ∀ q ∈ ps, typeKey types q.undescribed = typeKey types q) :
        (ps.map Param.undescribed).map (fieldKey types) = ps.map (fieldKey types) := by
      rw [List.map_map]
      refine List.map_congr_left fun q hq => ?_
      rw [Function.comp_apply, fieldKey, fieldKey, hps q hq, Param.name_undescribed,
        Param.optionalMark_undescribed]
    have hresult : resultKey types (p.returns.map Param.undescribed)
        = resultKey types p.returns := by
      cases hr : p.returns with
      | none => rfl
      | some q => exact returns q hr
    rw [typeKey_eq, typeKey_eq, Param.collection_undescribed, baseKey, baseKey,
      Param.kind_undescribed, Param.map_literal_undescribed, Param.properties_undescribed,
      hfields properties, Param.parameters_undescribed, hfields parameters,
      Param.returns_undescribed, hresult, Param.type_undescribed]

/-- The key of a shape does not depend on descriptions. -/
theorem shapeKey_undescribed (fields : List Param) :
    shapeKey types (fields.map Param.undescribed) = shapeKey types fields := by
  have hfields : (fields.map Param.undescribed).map (fieldKey types)
      = fields.map (fieldKey types) := by
    rw [List.map_map]
    refine List.map_congr_left fun p _ => ?_
    rw [Function.comp_apply, fieldKey, fieldKey, typeKey_undescribed, Param.name_undescribed,
      Param.optionalMark_undescribed]
  rw [shapeKey, shapeKey, fieldKeys_eq_map, fieldKeys_eq_map, hfields]

end

/-! ## Members and modules without descriptions -/

/-- The method without descriptions. -/
def Method.undescribed (method : Method) : Method where
  name := method.name
  parameters := method.parameters.map Param.undescribed
  returns := method.returns.map Param.undescribed

/-- The constructor without descriptions. -/
def Constructor.undescribed (c : Constructor) : Constructor where
  parameters := c.parameters.map Param.undescribed

/-- The event without descriptions. -/
def Event.undescribed (event : Event) : Event where
  name := event.name
  arguments := event.arguments.map Param.undescribed

/-- The module without descriptions. -/
def Module.undescribed (m : Module) : Module :=
  { m with
    description := none
    construction := m.construction.map Constructor.undescribed
    staticMethods := m.staticMethods.map Method.undescribed
    methods := m.methods.map Method.undescribed
    instanceMethods := m.instanceMethods.map Method.undescribed
    instanceProperties := m.instanceProperties.map Param.undescribed
    properties := m.properties.map Param.undescribed
    events := m.events.map Event.undescribed
    instanceEvents := m.instanceEvents.map Event.undescribed }

/-- Members keep their order when their names are kept. -/
theorem sortedByName_map {α : Type} {name : α → String} {f : α → α}
    (h : ∀ a, name (f a) = name a) (members : List α) :
    sortedByName name (members.map f) = (sortedByName name members).map f := by
  rw [sortedByName, sortedByName]
  refine (List.map_mergeSort fun a _ b _ => ?_).symm
  rw [h, h]

/-! ## Other descriptions -/

/-- The same possible value, described in other words. -/
def PossibleValue.Redescribed (v w : PossibleValue) : Prop := v.value = w.value

/-- The same value, described in other words at any depth.  What was optional still is. -/
inductive Param.Redescribed : Param → Param → Prop
  | intro {p q : Param} (name : p.name = q.name) (type : p.type = q.type)
      (required : p.required = q.required) (optional : p.isOptional = q.isOptional)
      (collection : p.collection = q.collection)
      (properties : List.Forall₂ Param.Redescribed p.properties q.properties)
      (parameters : List.Forall₂ Param.Redescribed p.parameters q.parameters)
      (returns : Option.Rel Param.Redescribed p.returns q.returns)
      (possibleValues :
        List.Forall₂ PossibleValue.Redescribed p.possibleValues q.possibleValues) :
      Param.Redescribed p q

/-- The same method, described in other words. -/
structure Method.Redescribed (m n : Method) : Prop where
  name : m.name = n.name
  parameters : List.Forall₂ Param.Redescribed m.parameters n.parameters
  returns : Option.Rel Param.Redescribed m.returns n.returns

/-- The same constructor, described in other words. -/
structure Constructor.Redescribed (c d : Constructor) : Prop where
  parameters : List.Forall₂ Param.Redescribed c.parameters d.parameters

/-- The same event, described in other words. -/
structure Event.Redescribed (e f : Event) : Prop where
  name : e.name = f.name
  arguments : List.Forall₂ Param.Redescribed e.arguments f.arguments

/-- The same module, described in other words. -/
structure Module.Redescribed (m n : Module) : Prop where
  name : m.name = n.name
  kind : m.kind = n.kind
  websiteUrl : m.websiteUrl = n.websiteUrl
  availability : m.availability = n.availability
  construction : Option.Rel Constructor.Redescribed m.construction n.construction
  staticMethods : List.Forall₂ Method.Redescribed m.staticMethods n.staticMethods
  methods : List.Forall₂ Method.Redescribed m.methods n.methods
  instanceMethods : List.Forall₂ Method.Redescribed m.instanceMethods n.instanceMethods
  instanceProperties : List.Forall₂ Param.Redescribed m.instanceProperties n.instanceProperties
  properties : List.Forall₂ Param.Redescribed m.properties n.properties
  events : List.Forall₂ Event.Redescribed m.events n.events
  instanceEvents : List.Forall₂ Event.Redescribed m.instanceEvents n.instanceEvents

/-- What is the same for related things is the same along lists of them. -/
theorem map_eq_of_forall₂ {α β : Type} {R : α → α → Prop} {f : α → β} {xs ys : List α}
    (h : List.Forall₂ R xs ys) (hf : ∀ x ∈ xs, ∀ y, R x y → f x = f y) : xs.map f = ys.map f := by
  induction h with
  | nil => rfl
  | @cons x y xs ys hhead _ ih =>
    rw [List.map_cons, List.map_cons, hf x List.mem_cons_self y hhead,
      ih fun a ha => hf a (List.mem_cons_of_mem x ha)]

theorem map_eq_of_rel {α β : Type} {R : α → α → Prop} {f : α → β} {x y : Option α}
    (h : Option.Rel R x y) (hf : ∀ a, x = some a → ∀ b, R a b → f a = f b) :
    x.map f = y.map f := by
  cases h with
  | some hab => exact congrArg some (hf _ rfl _ hab)
  | none => rfl

/-- Without descriptions, values described in other words are the same. -/
theorem Param.Redescribed.undescribed_eq {p q : Param} (h : p.Redescribed q) :
    p.undescribed = q.undescribed := by
  induction p using Param.induct generalizing q with
  | step p properties parameters returns =>
    obtain ⟨hname, htype, -, hoptional, hcollection, hproperties, hparameters, hreturns,
      hvalues⟩ := h
    have hv : p.possibleValues.map PossibleValue.undescribed
        = q.possibleValues.map PossibleValue.undescribed :=
      map_eq_of_forall₂ hvalues fun v _ w hvw => by
        rw [PossibleValue.undescribed, PossibleValue.undescribed, hvw]
    rw [Param.undescribed_eq, Param.undescribed_eq, hname, htype, hoptional, hcollection, hv,
      map_eq_of_forall₂ hproperties fun a ha b hab => properties a ha hab,
      map_eq_of_forall₂ hparameters fun a ha b hab => parameters a ha hab,
      map_eq_of_rel hreturns fun a ha b hab => returns a ha hab]

theorem map_undescribed_eq {ps qs : List Param} (h : List.Forall₂ Param.Redescribed ps qs) :
    ps.map Param.undescribed = qs.map Param.undescribed :=
  map_eq_of_forall₂ h fun _ _ _ hpq => hpq.undescribed_eq

theorem Method.Redescribed.undescribed_eq {m n : Method} (h : m.Redescribed n) :
    m.undescribed = n.undescribed := by
  rw [Method.undescribed, Method.undescribed, h.name, map_undescribed_eq h.parameters,
    map_eq_of_rel h.returns fun _ _ _ hpq => hpq.undescribed_eq]

theorem Constructor.Redescribed.undescribed_eq {c d : Constructor} (h : c.Redescribed d) :
    c.undescribed = d.undescribed := by
  rw [Constructor.undescribed, Constructor.undescribed, map_undescribed_eq h.parameters]

theorem Event.Redescribed.undescribed_eq {e f : Event} (h : e.Redescribed f) :
    e.undescribed = f.undescribed := by
  rw [Event.undescribed, Event.undescribed, h.name, map_undescribed_eq h.arguments]

/-- **Without descriptions, modules described in other words are the same.** -/
theorem Module.Redescribed.undescribed_eq {m n : Module} (h : m.Redescribed n) :
    m.undescribed = n.undescribed := by
  have hmethods {ms ns : List Method} (hms : List.Forall₂ Method.Redescribed ms ns) :
      ms.map Method.undescribed = ns.map Method.undescribed :=
    map_eq_of_forall₂ hms fun _ _ _ hmn => hmn.undescribed_eq
  have hevents {es fs : List Event} (hes : List.Forall₂ Event.Redescribed es fs) :
      es.map Event.undescribed = fs.map Event.undescribed :=
    map_eq_of_forall₂ hes fun _ _ _ hef => hef.undescribed_eq
  rw [Module.undescribed, Module.undescribed, h.name, h.kind, h.websiteUrl, h.availability,
    map_eq_of_rel h.construction fun _ _ _ hcd => hcd.undescribed_eq, hmethods h.staticMethods,
    hmethods h.methods, hmethods h.instanceMethods, map_undescribed_eq h.instanceProperties,
    map_undescribed_eq h.properties, hevents h.events, hevents h.instanceEvents]

end Ambient
