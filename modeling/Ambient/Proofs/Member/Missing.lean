import Ambient.Proofs.Member.Named
import Ambient.Proofs.Synthesis.Calls

/-!
# Where a missing name is reported

What a member writes is written on behalf of the module and of the member, down to the parameters of
the callbacks in it.  The fields of an object are written on behalf of its interface instead, and so
is everything in them down to the next object.  A name that is missing is reported where it is asked
for.  So it is reported under the name of the module outside of objects, and inside of one under the
name of the interface of the innermost object.

## What is here

* `Param.LacksName` — a parameter of a callback in the type has no name.
* `LackAt fields owner place` — what the body of an interface with these fields reports.
* `Param.Holds p q` — the value `q` stands in `p`, at any depth.
* `Param.ReportsInside`, `reports_valueType` — what the type of a value reports.
* `Module.Writes`, `Module.Lacks` — the values that are written for the members of a module, and
  what it reports itself.
* `reports_memberLines` — what a module reports, or an object in it.
* `failsOnlyIf_valueType`, `Module.ReportsOf.missing` — nothing else is missing than what has no
  name.
-/

set_option autoImplicit false

namespace Ambient

open Signature Synthesis

/-! ## Values -/

namespace Param

/-- A parameter of a callback in the type of the value has no name.  Objects are not looked into. -/
def LacksName (p : Param) : Prop := ∃ q, p.Uses false q ∧ q.name = ""

theorem LacksName.of_parameters {p q : Param} (hp : p.IsWrittenOut) (hq : q ∈ p.parameters)
    (h : q.name = "" ∨ q.LacksName) : p.LacksName := by
  rcases h with hname | ⟨r, hr, hname⟩
  · exact ⟨q, .parameter hp hq, hname⟩
  · exact ⟨r, .inParameter hp hq hr, hname⟩

theorem LacksName.of_returns {p r : Param} (hp : p.IsWrittenOut) (hr : p.returns = some r)
    (h : r.LacksName) : p.LacksName := by
  obtain ⟨q, hq, hname⟩ := h
  exact ⟨q, .inResult hp hr hq, hname⟩

/-- The value `q` is `p`, or it stands in `p`: as a parameter or as the result of a callback, or as
a field of an object, at any depth. -/
inductive Holds : Param → Param → Prop
  | self (p : Param) : Holds p p
  | inParameter {p r q : Param} (hp : p.IsWrittenOut) (hr : r ∈ p.parameters) (h : Holds r q) :
      Holds p q
  | inResult {p r q : Param} (hp : p.IsWrittenOut) (hr : p.returns = some r) (h : Holds r q) :
      Holds p q
  | inField {p r q : Param} (hp : p.isObjectShape = true) (hr : r ∈ p.properties)
      (h : Holds r q) : Holds p q

end Param

/-- A field has no name, or a parameter of a callback in the type of one.  This is the place where
the interface of that name, which has these fields, reports it. -/
inductive LackAt (fields : List Param) (owner : String) : MissingName.Place → Prop
  | field {p : Param} (hp : p ∈ fields) (hname : p.name = "") : LackAt fields owner (.fieldOf owner)
  | callback {p : Param} (hp : p ∈ fields) (h : p.LacksName) :
      LackAt fields owner (.parameterOf owner)

/-- The name is missing in an object that stands in the value, and is reported under the name that
the object has in the interner. -/
def Param.ReportsInside (types : TypeMap) (p : Param) (t : Interner) (e : MissingName) : Prop :=
  ∃ r owner place, p.Holds r ∧ r.isObjectShape = true ∧
    t.lookup? (shapeKey types r.properties) = some owner ∧
    LackAt r.properties owner place ∧ e = .within owner place

section

variable {types : TypeMap} {t : Interner} {e : MissingName} {p r : Param}

/-- What is reported inside of something that stands in the value is reported inside of it. -/
theorem Param.ReportsInside.of_holds (h : r.ReportsInside types t e)
    (hholds : ∀ q, r.Holds q → p.Holds q) : p.ReportsInside types t e := by
  obtain ⟨q, owner, place, hq, hshape⟩ := h
  exact ⟨q, owner, place, hholds q hq, hshape⟩

end

/-! ## What the type of a value reports -/

section

variable {types : TypeMap}

/-- What the type of a value reports that is written at the site: a parameter of a callback under
the member of the site, and what is inside of an object elsewhere. -/
def ReportsAt (types : TypeMap) (site : Site) (p : Param) (t : Interner) (e : MissingName) : Prop :=
  e = .within site.owner (.parameterOf site.member) ∧ p.LacksName ∨ p.ReportsInside types t e

theorem reports_parameterTexts {site : Site} {ps : List Param}
    (h : ∀ p ∈ ps, ∀ naming, Reports (ReportsAt types site p) (valueType types site naming p)) :
    Reports (fun t e =>
      e = .within site.owner (.parameterOf site.member) ∧ (∃ p ∈ ps, p.name = "" ∨ p.LacksName) ∨
        ∃ p ∈ ps, p.ReportsInside types t e)
      (parameterTexts types site ps) := by
  induction ps with
  | nil => exact .result []
  | cons p rest ih =>
    rw [List.forall_mem_cons] at h
    simp only [List.exists_mem_cons_iff]
    rw [parameterTexts]
    refine .guarded _ (fun hname t => .inl ⟨rfl, .inl (.inl (String.isEmpty_iff.1 hname))⟩) ?_
    refine ((h.1 _).mono fun t e => ?_).seq fun type =>
      ((ih h.2).mono fun t e => ?_).andReturn _
    · exact Or.imp (And.imp_right fun hp => .inl (.inr hp)) .inl
    · exact Or.imp (And.imp_right .inr) .inr

theorem reports_interfaceLines {owner : String} {fields : List Param}
    (h : ∀ p ∈ fields, ∀ site naming,
      Reports (ReportsAt types site p) (valueType types site naming p)) :
    Reports (fun t e =>
      (∃ place, e = .within owner place ∧ LackAt fields owner place) ∨
        ∃ p ∈ fields, p.ReportsInside types t e)
      (interfaceLines types owner fields) := by
  induction fields with
  | nil => exact .result []
  | cons p rest ih =>
    rw [List.forall_mem_cons] at h
    rw [interfaceLines]
    refine .guarded _ (fun hname t =>
      .inl ⟨_, rfl, .field List.mem_cons_self (String.isEmpty_iff.1 hname)⟩) ?_
    refine ((h.1 _ _).mono fun t e => ?_).seq fun type =>
      ((ih h.2).mono fun t e => ?_).andReturn _
    · rintro (⟨he, hp⟩ | hinside)
      · exact .inl ⟨_, he, .callback List.mem_cons_self hp⟩
      · exact .inr ⟨p, List.mem_cons_self, hinside⟩
    · rintro (⟨place, he, hlack⟩ | ⟨q, hq, hinside⟩)
      · refine .inl ⟨place, he, ?_⟩
        cases hlack with
        | field hq hname => exact .field (List.mem_cons_of_mem p hq) hname
        | callback hq hq2 => exact .callback (List.mem_cons_of_mem p hq) hq2
      · exact .inr ⟨q, List.mem_cons_of_mem p hq, hinside⟩

/-- An object reports what its body does, under the name that it has in the interner. -/
theorem reports_internShape {p : Param} {naming : Naming} (hshape : p.isObjectShape = true)
    (h : ∀ q ∈ p.properties, ∀ site naming,
      Reports (ReportsAt types site q) (valueType types site naming q)) :
    Reports (p.ReportsInside types) (internShape types p naming) := by
  refine (Reports.interned fun owner s t e hs hrun => ?_).andReturn _
  have hextends := extends_of_composed (composed_interfaceLines types owner p.properties) s
  rw [hrun] at hextends
  rcases reports_interfaceLines h s t e hrun with ⟨place, rfl, hlack⟩ | ⟨q, hq, hinside⟩
  · exact ⟨p, owner, place, .self p, hshape, hextends.knows _ _ hs, hlack, rfl⟩
  · exact hinside.of_holds fun r hr => .inField hshape hq hr

/-- **What the type of a value reports.** -/
theorem reports_valueType (types : TypeMap) (site : Site) (naming : Option Naming) (p : Param) :
    Reports (ReportsAt types site p) (valueType types site naming p) := by
  induction p using Param.induct generalizing site naming with
  | step p properties parameters returns =>
    have hinner : Reports (ReportsAt types site p) (innerType types site p) := by
      rw [innerType]
      split
      · exact .result _
      · split
        · rename_i hvalues hcallback
          have hp : p.IsWrittenOut :=
            ⟨by simpa using hvalues, Param.isFunction_of_isCallback hcallback⟩
          refine ((reports_parameterTexts fun q hq naming =>
            parameters q hq site naming).mono fun t e => ?_).seq fun taken =>
              Reports.andReturn ?_ _
          · rintro (⟨he, q, hq, hlacks⟩ | ⟨q, hq, hinside⟩)
            · exact .inl ⟨he, .of_parameters hp hq hlacks⟩
            · exact .inr (hinside.of_holds fun r hr => .inParameter hp hq hr)
          · cases hreturns : p.returns with
            | none => exact .result "void"
            | some r =>
              refine (returns r hreturns site _).mono fun t e => ?_
              exact Or.imp (And.imp_right (.of_returns hp hreturns)) fun hinside =>
                hinside.of_holds fun q hq => .inResult hp hreturns hq
        · exact .result _
    cases hshape : p.isObjectShape with
    | false => rwa [valueType_of_not_isObjectShape _ _ _ hshape]
    | true =>
      cases naming with
      | none => rwa [valueType_none]
      | some naming =>
        rw [valueType_of_isObjectShape _ _ _ hshape]
        exact (reports_internShape hshape properties).mono fun t e => .inr

end

/-! ## Modules -/

namespace Module

/-- The type of the value is written for the member of that name. -/
inductive Writes (m : Module) : String → Param → Prop
  | argument {event : Event} {p : Param} (he : event ∈ m.instanceEvents ++ m.events)
      (hp : p ∈ event.arguments) : Writes m event.name p
  | construction {c : Constructor} {p : Param} (hc : m.construction = some c)
      (hp : p ∈ c.parameters) : Writes m "constructor" p
  | parameter {method : Method} {p : Param}
      (hm : method ∈ m.staticMethods ++ m.methods ++ m.instanceMethods)
      (hp : p ∈ method.parameters) : Writes m method.name p
  | result {method : Method} {p : Param}
      (hm : method ∈ m.staticMethods ++ m.methods ++ m.instanceMethods)
      (hname : method.name ≠ "constructor") (hp : method.returns = some p)
      (htype : p.type.isNamed "undefined" = false) : Writes m method.name p
  | property {p : Param} (hp : p ∈ m.instanceProperties ++ m.properties) : Writes m p.name p

/-- A name is missing in the module, outside of objects, and this is the place where the module
reports it. -/
inductive Lacks (m : Module) : MissingName.Place → Prop
  | event {event : Event} (he : event ∈ m.instanceEvents ++ m.events) (hname : event.name = "") :
      Lacks m .event
  | argument {event : Event} {p : Param} (he : event ∈ m.instanceEvents ++ m.events)
      (hp : p ∈ event.arguments) (hname : p.name = "") : Lacks m (.argumentOf event.name)
  | construction {c : Constructor} {p : Param} (hc : m.construction = some c)
      (hp : p ∈ c.parameters) (hname : p.name = "") : Lacks m (.parameterOf "constructor")
  | method {method : Method} (hm : method ∈ m.staticMethods ++ m.methods ++ m.instanceMethods)
      (hname : method.name = "") : Lacks m .method
  | parameter {method : Method} {p : Param}
      (hm : method ∈ m.staticMethods ++ m.methods ++ m.instanceMethods)
      (hp : p ∈ method.parameters) (hname : p.name = "") : Lacks m (.parameterOf method.name)
  | instanceProperty {p : Param} (hp : p ∈ m.instanceProperties) (hname : p.name = "") :
      Lacks m .instanceProperty
  | property {p : Param} (hp : p ∈ m.properties) (hname : p.name = "") : Lacks m .property
  | callback {member : String} {p : Param} (hw : m.Writes member p) (hp : p.LacksName) :
      Lacks m (.parameterOf member)

/-- The module reports a name that is missing in it, or an object in it reports one. -/
def ReportsOf (types : TypeMap) (m : Module) (t : Interner) (e : MissingName) : Prop :=
  (∃ place, e = .within m.name place ∧ m.Lacks place) ∨
    ∃ member p, m.Writes member p ∧ p.ReportsInside types t e

end Module

section

variable {types : TypeMap} {m : Module}

/-- What the type of a value reports that is written for a member. -/
theorem Module.Writes.reports {member : String} {p : Param} (h : m.Writes member p)
    (seed : Option String) (naming : Option Naming) :
    Reports (m.ReportsOf types) (valueType types ⟨m.name, member, seed⟩ naming p) :=
  (reports_valueType types _ naming p).mono fun _ _ => Or.imp
    (fun ⟨he, hp⟩ => ⟨_, he, .callback h hp⟩) fun hinside => ⟨member, p, h, hinside⟩

theorem reports_collect {α : Type} {name : α → String} {lines : α → Synthesis (List String)}
    {members : List α} (h : ∀ a ∈ members, Reports (m.ReportsOf types) (lines a)) :
    Reports (m.ReportsOf types) (collect lines (sortedByName name members)) :=
  (Reports.forEach fun a ha => h a (mem_sortedByName.1 ha)).andReturn _

theorem reports_eventLines {event : Event} (he : event ∈ m.instanceEvents ++ m.events) :
    Reports (m.ReportsOf types) (eventLines types m event) := by
  refine .guarded _ (fun hname t => .inl ⟨_, rfl, .event he (String.isEmpty_iff.1 hname)⟩) ?_
  refine Reports.andReturn ((Reports.forEach fun p hp => ?_).andReturn _) _
  refine .guarded _ (fun hname t =>
    .inl ⟨_, rfl, .argument he hp (String.isEmpty_iff.1 hname)⟩) ?_
  exact ((Module.Writes.argument he hp).reports none _).andReturn _

/-- What a member reports whose values are written for it. -/
theorem reports_methodLines {modifier : String} {seed : Option String} {method : Method}
    (hname : method.name = "" → m.Lacks .method)
    (hparameters : ∀ p ∈ method.parameters, m.Writes method.name p ∧
      (p.name = "" → m.Lacks (.parameterOf method.name)))
    (hreturns : method.name ≠ "constructor" → ∀ r, method.returns = some r →
      r.type.isNamed "undefined" = false → m.Writes method.name r) :
    Reports (m.ReportsOf types) (methodLines types m modifier seed method) := by
  refine .guarded _ (fun h t => .inl ⟨_, rfl, hname (String.isEmpty_iff.1 h)⟩) ?_
  refine Reports.seq (Reports.andReturn ?_ _) fun taken => ?_
  · refine (reports_parameterTexts fun p _ naming =>
      reports_valueType types _ naming p).mono fun t e => ?_
    rintro (⟨rfl, p, hp, hnameless | hlacks⟩ | ⟨p, hp, hinside⟩)
    · exact .inl ⟨_, rfl, (hparameters p hp).2 hnameless⟩
    · exact .inl ⟨_, rfl, .callback (hparameters p hp).1 hlacks⟩
    · exact .inr ⟨_, p, (hparameters p hp).1, hinside⟩
  · split
    · exact (Reports.result "").andReturn _
    · rename_i hconstructor
      refine Reports.andReturn (Reports.andReturn ?_ _) _
      rw [returnType]
      split
      · exact .result _
      · rename_i r hr
        split
        · exact .result _
        · rename_i htype
          exact (hreturns hconstructor r hr (by simpa using htype)).reports seed _

theorem reports_constructorLines : Reports (m.ReportsOf types) (constructorLines types m) := by
  rw [constructorLines]
  split
  · exact .result []
  · rename_i c hc
    exact reports_methodLines (fun h => absurd h (by decide : "constructor" ≠ ""))
      (fun p hp => ⟨.construction hc hp, .construction hc hp⟩) fun hname => absurd rfl hname

/-- **What a module reports.** -/
theorem reports_memberLines (types : TypeMap) (roster : Roster) (m : Module) :
    Reports (m.ReportsOf types) (memberLines types roster m) := by
  rw [memberLines]
  have hmethod {modifier : String} {method : Method}
      (hm : method ∈ m.staticMethods ++ m.methods ++ m.instanceMethods) :
      Reports (m.ReportsOf types) (methodLines types m modifier none method) :=
    reports_methodLines (.method hm) (fun p hp => ⟨.parameter hm hp, .parameter hm hp⟩)
      fun hname r => .result hm hname
  refine .seq (reports_collect fun event he => reports_eventLines he) fun events => ?_
  refine reports_constructorLines.seq fun construction => ?_
  refine .seq (reports_collect fun a ha => hmethod (by simp [ha])) fun statics => ?_
  refine .seq (reports_collect fun a ha => hmethod (by simp [ha])) fun methods => ?_
  refine .seq (reports_collect fun a ha => hmethod (by simp [ha])) fun instances => ?_
  refine .seq (reports_collect fun p hp => ?_) fun values => ?_
  · refine .guarded _ (fun hname t =>
      .inl ⟨_, rfl, .instanceProperty hp (String.isEmpty_iff.1 hname)⟩) ?_
    exact ((Module.Writes.property (List.mem_append_left _ hp)).reports none _).andReturn _
  · refine (reports_collect fun p hp => ?_).andReturn _
    refine .guarded _ (fun hname t =>
      .inl ⟨_, rfl, .property hp (String.isEmpty_iff.1 hname)⟩) ?_
    exact ((Module.Writes.property (List.mem_append_right _ hp)).reports none _).andReturn _

end

/-! ## Nothing else is missing -/

section

variable {types : TypeMap} {t : Interner} {e : MissingName} {p q r : Param}

/-- What is used outside of objects is used. -/
theorem Param.Uses.shapes (h : p.Uses false q) : p.Uses true q := by
  induction h with
  | parameter hp hq => exact .parameter hp hq
  | inParameter hp hr _ ih => exact .inParameter hp hr ih
  | inResult hp hr _ ih => exact .inResult hp hr ih
  | field hshapes => cases hshapes
  | inField hshapes => cases hshapes

theorem Param.LacksName.not_hasNames (h : p.LacksName) : ¬ p.HasNames true := by
  obtain ⟨q, hq, hname⟩ := h
  exact fun hnamed => hnamed q hq.shapes hname

/-- What is used in the type of something that stands in the value is used in its type. -/
theorem Param.Holds.uses (h : p.Holds r) (hq : r.Uses true q) : p.Uses true q := by
  induction h with
  | self p => exact hq
  | inParameter hp hr _ ih => exact .inParameter hp hr (ih hq)
  | inResult hp hr _ ih => exact .inResult hp hr (ih hq)
  | inField hp hr _ ih => exact .inField rfl hp hr (ih hq)

theorem Param.ReportsInside.missing (h : p.ReportsInside types t e) :
    e.IsWithin ∧ ¬ p.HasNames true := by
  obtain ⟨r, owner, place, hholds, hshape, -, hlack, he⟩ := h
  refine ⟨⟨owner, place, he⟩, fun hnamed => ?_⟩
  cases hlack with
  | field hp hname => exact hnamed _ (hholds.uses (.field rfl hshape hp)) hname
  | callback hp h =>
    obtain ⟨q, hq, hname⟩ := h
    exact hnamed q (hholds.uses (.inField rfl hshape hp hq.shapes)) hname

theorem ReportsAt.missing {site : Site} (h : ReportsAt types site p t e) :
    e.IsWithin ∧ ¬ p.HasNames true := by
  rcases h with ⟨he, hlacks⟩ | hinside
  · exact ⟨⟨_, _, he⟩, hlacks.not_hasNames⟩
  · exact hinside.missing

/-- **The type of a value can be written** if everything that is used in it has a name. -/
theorem failsOnlyIf_valueType (types : TypeMap) (site : Site) (naming : Option Naming) (p : Param) :
    FailsOnlyIf (¬ p.HasNames true) (valueType types site naming p) :=
  (reports_valueType types site naming p).mono fun _ _ => ReportsAt.missing

theorem failsOnlyIf_parameterTexts (types : TypeMap) (site : Site) (ps : List Param) :
    FailsOnlyIf (¬ Param.AreNamed true ps) (parameterTexts types site ps) := by
  refine (reports_parameterTexts fun p _ naming =>
    reports_valueType types site naming p).mono fun t e => ?_
  rintro (⟨he, p, hp, hname | hlacks⟩ | ⟨p, hp, hinside⟩)
  · exact ⟨⟨_, _, he⟩, fun hnamed => (hnamed p hp).1 hname⟩
  · exact ⟨⟨_, _, he⟩, fun hnamed => hlacks.not_hasNames (hnamed p hp).2⟩
  · exact hinside.missing.imp_right fun h hnamed => h (hnamed p hp).2

variable {m : Module}

/-- The values that are written for the members of a module have names if the module does. -/
theorem Module.Writes.hasNames {member : String} (h : m.Writes member p)
    (hnamed : m.HasNames true) : p.HasNames true := by
  cases h with
  | argument he hp => exact ((hnamed.events _ he).arguments p hp).2
  | construction hc hp => exact (hnamed.construction _ hc p hp).2
  | parameter hm hp => exact ((hnamed.methods _ hm).parameters p hp).2
  | result hm hname hp htype => exact (hnamed.methods _ hm).returns hname p hp htype
  | property hp => exact (hnamed.properties p hp).2

theorem Module.Lacks.not_hasNames {place : MissingName.Place} (h : m.Lacks place) :
    ¬ m.HasNames true := by
  intro hnamed
  cases h with
  | event he hname => exact (hnamed.events _ he).name hname
  | argument he hp hname => exact ((hnamed.events _ he).arguments _ hp).1 hname
  | construction hc hp hname => exact (hnamed.construction _ hc _ hp).1 hname
  | method hm hname => exact (hnamed.methods _ hm).name hname
  | parameter hm hp hname => exact ((hnamed.methods _ hm).parameters _ hp).1 hname
  | instanceProperty hp hname => exact (hnamed.properties _ (List.mem_append_left _ hp)).1 hname
  | property hp hname => exact (hnamed.properties _ (List.mem_append_right _ hp)).1 hname
  | callback hw hp => exact hp.not_hasNames (hw.hasNames hnamed)

/-- **What a module reports is missing in it.** -/
theorem Module.ReportsOf.missing (h : m.ReportsOf types t e) :
    e.IsWithin ∧ ¬ m.HasNames true := by
  rcases h with ⟨place, he, hlacks⟩ | ⟨member, p, hwrites, hinside⟩
  · exact ⟨⟨_, place, he⟩, hlacks.not_hasNames⟩
  · exact hinside.missing.imp_right fun h hnamed => h (hwrites.hasNames hnamed)

end

end Ambient
