import Ambient.Proofs.Member.Lines
import Ambient.Proofs.Shape.Expansion
import Ambient.Proofs.Synthesis.Failing

/-!
# Which names a member needs

A member is asked for its name, its parameters are asked for theirs, and so are the parameters of
the callbacks that are written out in its types.  The fields of an object are asked for their names
where the object is interned, and not again where another object of the same key is met.

So there are two conditions on a member.  If the fields of all its objects have names as well,
nothing is missing; and if nothing is missing, at least everything outside of its objects has a
name.

## What is here

* `Param.Uses shapes p q` — `q` is a parameter of a callback in the type of `p`, or, if `shapes`, a
  field of an object in it.
* `Param.HasNames`, `Method.HasNames`, `Event.HasNames`, `Module.HasNames` — the two conditions.
* `Param.IsTyped`, `Param.IsTyped.hasNames`, `hasNames_of_memberLines` — what has been written has
  its names.
-/

set_option autoImplicit false

namespace Ambient

open Signature Synthesis

/-! ## Names in a type -/

namespace Param

/-- The value is a function whose parameters and result are written out, if they are known. -/
def IsWrittenOut (p : Param) : Prop := p.possibleValues = [] ∧ p.isFunction = true

/-- The value `q` is a parameter of a callback that is written out in the type of `p`, at any depth.
If `shapes`, it may also be a field of an object in it, and the callback may stand in one. -/
inductive Uses (shapes : Bool) : Param → Param → Prop
  | parameter {p q : Param} (hp : p.IsWrittenOut) (hq : q ∈ p.parameters) : Uses shapes p q
  | inParameter {p r q : Param} (hp : p.IsWrittenOut) (hr : r ∈ p.parameters)
      (h : Uses shapes r q) : Uses shapes p q
  | inResult {p r q : Param} (hp : p.IsWrittenOut) (hr : p.returns = some r)
      (h : Uses shapes r q) : Uses shapes p q
  | field {p q : Param} (hshapes : shapes = true) (hp : p.isObjectShape = true)
      (hq : q ∈ p.properties) : Uses shapes p q
  | inField {p r q : Param} (hshapes : shapes = true) (hp : p.isObjectShape = true)
      (hr : r ∈ p.properties) (h : Uses shapes r q) : Uses shapes p q

/-- Everything that is used in the type of the value has a name. -/
def HasNames (shapes : Bool) (p : Param) : Prop := ∀ q, p.Uses shapes q → q.name ≠ ""

/-- The values have names, and so has everything that is used in their types. -/
def AreNamed (shapes : Bool) (ps : List Param) : Prop :=
  ∀ p ∈ ps, p.name ≠ "" ∧ p.HasNames shapes

namespace HasNames

variable {shapes : Bool} {p : Param}

theorem intro (parameters : p.IsWrittenOut → AreNamed shapes p.parameters)
    (returns : p.IsWrittenOut → ∀ r, p.returns = some r → r.HasNames shapes)
    (properties : p.isObjectShape = true → AreNamed shapes p.properties) :
    p.HasNames shapes := by
  intro q hq
  cases hq with
  | parameter hp hq => exact (parameters hp q hq).1
  | inParameter hp hr h => exact (parameters hp _ hr).2 q h
  | inResult hp hr h => exact returns hp _ hr q h
  | field _ hp hq => exact (properties hp q hq).1
  | inField _ hp hr h => exact (properties hp _ hr).2 q h

end HasNames

/-- A function is no object. -/
theorem isObjectShape_of_isFunction {p : Param} (h : p.isFunction = true) :
    p.isObjectShape = false := by
  have hobject : p.type.isNamed "Object" = false := by
    rw [isFunction] at h
    cases htype : p.type with
    | union members => rfl
    | name n =>
      rw [htype, TypeRef.isNamed, beq_iff_eq] at h
      rw [TypeRef.isNamed, h]
      decide
  rw [isObjectShape, hobject, Bool.false_and]

end Param

/-! ## Names in a module -/

section

variable (shapes : Bool)

/-- The method has a name, and so have its parameters.  Its result counts if it is written. -/
structure Method.HasNames (method : Method) : Prop where
  name : method.name ≠ ""
  parameters : Param.AreNamed shapes method.parameters
  returns : method.name ≠ "constructor" → ∀ r, method.returns = some r →
    r.type.isNamed "undefined" = false → r.HasNames shapes

/-- The event has a name, and so have the arguments of its listeners. -/
structure Event.HasNames (event : Event) : Prop where
  name : event.name ≠ ""
  arguments : Param.AreNamed shapes event.arguments

/-- Everything in the module has a name. -/
structure Module.HasNames (m : Module) : Prop where
  events : ∀ event ∈ m.instanceEvents ++ m.events, event.HasNames shapes
  construction : ∀ c, m.construction = some c → Param.AreNamed shapes c.parameters
  methods : ∀ method ∈ m.staticMethods ++ m.methods ++ m.instanceMethods, method.HasNames shapes
  properties : Param.AreNamed shapes (m.instanceProperties ++ m.properties)

end

/-! ## What has been written has its names -/

section

variable {types : TypeMap} {s t : Interner}

/-- The type of the value has been written somewhere. -/
def Param.IsTyped (types : TypeMap) (p : Param) : Prop :=
  ∃ site naming s a t, (valueType types site naming p).run s = (.ok a, t)

theorem areTyped_of_parameterTexts {site : Site} {ps : List Param} {texts : List String}
    (h : (parameterTexts types site ps).run s = (.ok texts, t)) :
    ∀ p ∈ ps, p.name ≠ "" ∧ p.IsTyped types := by
  induction ps generalizing s t texts with
  | nil => exact List.forall_mem_nil _
  | cons p rest ih =>
    rw [parameterTexts] at h
    obtain ⟨hname, h⟩ := run_of_run_guarded h
    obtain ⟨type, r, htype, h⟩ := exists_of_run_bind_eq_ok h
    obtain ⟨more, r2, hmore, -⟩ := exists_of_run_bind_eq_ok h
    refine List.forall_mem_cons.2 ⟨⟨?_, _, _, _, _, _, htype⟩, ih hmore⟩
    simpa using hname

theorem areTyped_of_interfaceLines {owner : String} {fields : List Param} {lines : List String}
    (h : (interfaceLines types owner fields).run s = (.ok lines, t)) :
    ∀ p ∈ fields, p.name ≠ "" ∧ p.IsTyped types := by
  induction fields generalizing s t lines with
  | nil => exact List.forall_mem_nil _
  | cons p rest ih =>
    rw [interfaceLines] at h
    obtain ⟨hname, h⟩ := run_of_run_guarded h
    obtain ⟨type, r, htype, h⟩ := exists_of_run_bind_eq_ok h
    obtain ⟨more, r2, hmore, -⟩ := exists_of_run_bind_eq_ok h
    refine List.forall_mem_cons.2 ⟨⟨?_, _, _, _, _, _, htype⟩, ih hmore⟩
    simpa using hname

/-- The parameters and the result of a callback have been written if its type has. -/
theorem Param.IsTyped.parts {p : Param} (h : p.IsTyped types) (hp : p.IsWrittenOut)
    (hcallback : p.isCallback = true) :
    (∀ q ∈ p.parameters, q.name ≠ "" ∧ q.IsTyped types) ∧
      ∀ r, p.returns = some r → r.IsTyped types := by
  obtain ⟨site, naming, s, a, t, hrun⟩ := h
  rw [valueType_of_not_isObjectShape _ _ _ (isObjectShape_of_isFunction hp.2), innerType, hp.1,
    hcallback] at hrun
  obtain ⟨taken, r, htaken, hrun⟩ := exists_of_run_bind_eq_ok hrun
  obtain ⟨result, r2, hresult, -⟩ := exists_of_run_bind_eq_ok hrun
  refine ⟨areTyped_of_parameterTexts htaken, fun q hq => ?_⟩
  rw [hq] at hresult
  exact ⟨_, _, _, _, _, hresult⟩

/-- **What has been written has its names**, at least outside of objects. -/
theorem Param.IsTyped.hasNames {p : Param} (h : p.IsTyped types) : p.HasNames false := by
  intro q hq
  induction hq with
  | parameter hp hq =>
    refine ((h.parts hp ?_).1 _ hq).1
    rw [isCallback, hp.2, Bool.true_and, Bool.or_eq_true]
    exact Or.inl (by simpa using List.ne_nil_of_mem hq)
  | inParameter hp hr _ ih =>
    refine ih ((h.parts hp ?_).1 _ hr).2
    rw [isCallback, hp.2, Bool.true_and, Bool.or_eq_true]
    exact Or.inl (by simpa using List.ne_nil_of_mem hr)
  | inResult hp hr _ ih =>
    refine ih ((h.parts hp ?_).2 _ hr)
    rw [isCallback, hp.2, Bool.true_and, Bool.or_eq_true, hr]
    exact Or.inr rfl
  | field hshapes => cases hshapes
  | inField hshapes => cases hshapes

theorem areNamed_of_areTyped {ps : List Param} (h : ∀ p ∈ ps, p.name ≠ "" ∧ p.IsTyped types) :
    Param.AreNamed false ps := fun p hp => ⟨(h p hp).1, (h p hp).2.hasNames⟩

theorem hasNames_of_eventLines {m : Module} {event : Event} {lines : List String}
    (h : (eventLines types m event).run s = (.ok lines, t)) : event.HasNames false := by
  obtain ⟨hname, h⟩ := run_of_run_guarded h
  obtain ⟨text, r, hlistener, -⟩ := exists_of_run_bind_eq_ok h
  obtain ⟨arguments, r2, harguments, -⟩ := exists_of_run_bind_eq_ok hlistener
  have harguments : ∀ p ∈ event.arguments, p.name ≠ "" ∧ p.IsTyped types := by
    intro p hp
    obtain ⟨argument, s2, t2, hargument⟩ := exists_of_run_mapM harguments hp
    obtain ⟨hp, hargument⟩ := run_of_run_guarded hargument
    obtain ⟨type, r3, htype, -⟩ := exists_of_run_bind_eq_ok hargument
    exact ⟨by simpa using hp, _, _, _, _, _, htype⟩
  exact ⟨by simpa using hname, areNamed_of_areTyped harguments⟩

theorem hasNames_of_methodLines {m : Module} {modifier : String} {seed : Option String}
    {method : Method} {lines : List String}
    (h : (methodLines types m modifier seed method).run s = (.ok lines, t)) :
    method.HasNames false := by
  obtain ⟨hname, h⟩ := run_of_run_guarded h
  obtain ⟨taken, r, htaken, h⟩ := exists_of_run_bind_eq_ok h
  obtain ⟨texts, r2, htexts, -⟩ := exists_of_run_bind_eq_ok htaken
  refine ⟨by simpa using hname, areNamed_of_areTyped (areTyped_of_parameterTexts htexts),
    fun hconstructor p hp hundefined => ?_⟩
  dsimp only at h
  rw [if_neg hconstructor] at h
  obtain ⟨suffixed, r3, hsuffixed, -⟩ := exists_of_run_bind_eq_ok h
  obtain ⟨result, r4, hresult, -⟩ := exists_of_run_bind_eq_ok hsuffixed
  rw [returnType, hp] at hresult
  simp only [hundefined] at hresult
  exact Param.IsTyped.hasNames ⟨_, _, _, _, _, hresult⟩

theorem isNamed_of_property {m : Module} {site : Site} {naming : Option Naming}
    {place : MissingName.Place} {modifier : String} {p : Param} {lines : List String}
    (h : (do
      if p.name.isEmpty then throw (.within m.name place)
      let type ← valueType types site naming p
      return [propertyLine modifier p type] : Synthesis (List String)).run s = (.ok lines, t)) :
    p.name ≠ "" ∧ p.HasNames false := by
  obtain ⟨hname, h⟩ := run_of_run_guarded h
  obtain ⟨type, r, htype, -⟩ := exists_of_run_bind_eq_ok h
  exact ⟨by simpa using hname, Param.IsTyped.hasNames ⟨_, _, _, _, _, htype⟩⟩

/-- **A module that has been written has its names**, at least outside of objects. -/
theorem hasNames_of_memberLines {roster : Roster} {m : Module} {lines : List String}
    (h : (memberLines types roster m).run s = (.ok lines, t)) : m.HasNames false := by
  obtain ⟨g, -⟩ := memberGroups_of_run h
  have hmethods {modifier : String} {members : List Method} {out : List String}
      (hwritten : Written (methodLines types m modifier none) (sortedByName Method.name members)
        out) : ∀ method ∈ members, method.HasNames false := by
    intro method hmethod
    obtain ⟨group, s, t, hrun, -⟩ := hwritten.exists_of_mem (mem_sortedByName.2 hmethod)
    exact hasNames_of_methodLines hrun
  constructor
  case events =>
    intro event he
    obtain ⟨group, s, t, hrun, -⟩ := g.written_events.exists_of_mem (mem_sortedByName.2 he)
    exact hasNames_of_eventLines hrun
  case construction =>
    intro c hc
    obtain ⟨s, t, hrun⟩ := g.written_construction
    rw [constructorLines, hc] at hrun
    exact (hasNames_of_methodLines hrun).parameters
  case methods =>
    rw [List.forall_mem_append, List.forall_mem_append]
    exact ⟨⟨hmethods g.written_staticMethods, hmethods g.written_methods⟩,
      hmethods g.written_instanceMethods⟩
  case properties =>
    intro p hp
    rcases List.mem_append.1 hp with hp | hp
    · obtain ⟨group, s, t, hrun, -⟩ :=
        g.written_instanceProperties.exists_of_mem (mem_sortedByName.2 hp)
      exact isNamed_of_property hrun
    · obtain ⟨group, s, t, hrun, -⟩ := g.written_properties.exists_of_mem (mem_sortedByName.2 hp)
      exact isNamed_of_property hrun

end

end Ambient
