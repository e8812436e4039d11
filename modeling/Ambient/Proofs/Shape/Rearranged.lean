import Ambient.Proofs.Description.Undescribed
import Ambient.Proofs.Shape.Decisive

/-!
# Shapes that are listed and described differently

In which order the fields of an object are listed, and what is said about them, makes no difference
to the object, as long as the same fields are optional.  It makes none to the key of its shape
either, at any depth: the keys of fields are sorted, so an object inside has its key before the
object around it sorts by that key.  The parameters of a function keep their order, and so do the
strings that a value may be.

Hence an interface is made for such shapes once.  Whichever of them comes first, all others are
handed its interface from then on, whatever words they have for a name.

## What is here

* `Param.Rearranged`, `FieldsRearranged` — the same but for the order of fields and for what is
  said, at any depth.
* `Param.Rearranged.typeKey_eq`, `FieldsRearranged.shapeKey_eq` — they have the same keys.
* `run_internShape_of_lookup?` — a shape whose key is known is handed the interface for it.
* `internShape_of_rearranged` — both together, in any state and after any calls.
-/

set_option autoImplicit false

namespace Ambient

open Signature Synthesis

/-! ## Lists that correspond -/

theorem isEmpty_eq_of_forall₂ {α β : Type} {R : α → β → Prop} {xs : List α} {ys : List β}
    (h : List.Forall₂ R xs ys) : xs.isEmpty = ys.isEmpty := by
  cases h <;> rfl

theorem isSome_eq_of_rel {α β : Type} {R : α → β → Prop} {x : Option α} {y : Option β}
    (h : Option.Rel R x y) : x.isSome = y.isSome := by
  cases h <;> rfl

/-- In which order fields are listed does not show between braces. -/
theorem joinFieldKeys_eq_of_perm {keys others : List String} (h : keys.Perm others) :
    joinFieldKeys keys = joinFieldKeys others := by
  rw [joinFieldKeys, joinFieldKeys, mergeSort_eq_of_perm h]

/-! ## Values -/

/-- The same value with the fields of objects in another order, described in other words at any
depth.  Fields and parameters that were optional still are; of a result it does not matter. -/
inductive Param.Rearranged : Param → Param → Prop
  | intro {p q : Param} {fields : List Param} (name : p.name = q.name) (type : p.type = q.type)
      (collection : p.collection = q.collection) (order : p.properties.Perm fields)
      (properties : List.Forall₂ Param.Rearranged fields q.properties)
      (optionalProperties : fields.map Param.isOptional = q.properties.map Param.isOptional)
      (parameters : List.Forall₂ Param.Rearranged p.parameters q.parameters)
      (optionalParameters :
        p.parameters.map Param.isOptional = q.parameters.map Param.isOptional)
      (returns : Option.Rel Param.Rearranged p.returns q.returns)
      (possibleValues :
        List.Forall₂ PossibleValue.Redescribed p.possibleValues q.possibleValues) :
      Param.Rearranged p q

/-- The same fields in another order, each with its own fields rearranged and described in other
words. -/
def FieldsRearranged (fields others : List Param) : Prop :=
  ∃ listed : List Param, fields.Perm listed ∧ List.Forall₂ Param.Rearranged listed others ∧
    listed.map Param.isOptional = others.map Param.isOptional

namespace Param.Rearranged

variable {p q : Param}

theorem name_eq (h : p.Rearranged q) : p.name = q.name := by
  cases h
  assumption

theorem map_literal_eq (h : p.Rearranged q) :
    p.possibleValues.map literal = q.possibleValues.map literal := by
  obtain ⟨-, -, -, -, -, -, -, -, -, hvalues⟩ := h
  refine map_eq_of_forall₂ hvalues fun v _ w hvw => ?_
  rw [literal, literal, hvw]

/-- Which parts of a value its key has does not change. -/
theorem kind_eq (h : p.Rearranged q) : p.kind = q.kind := by
  obtain ⟨-, htype, -, horder, hproperties, -, hparameters, -, hreturns, hvalues⟩ := h
  rw [kind, kind, isObjectShape, isObjectShape, isCallback, isCallback, isFunction, isFunction,
    htype, horder.isEmpty_eq, isEmpty_eq_of_forall₂ hproperties, isEmpty_eq_of_forall₂ hparameters,
    isSome_eq_of_rel hreturns, isEmpty_eq_of_forall₂ hvalues]

/-- Values that are related one for one have the same keys, if their types have. -/
theorem map_fieldKey_eq {types : TypeMap} {ps qs : List Param}
    (h : List.Forall₂ Param.Rearranged ps qs)
    (hoptional : ps.map isOptional = qs.map isOptional)
    (hkeys : ∀ p ∈ ps, ∀ q, p.Rearranged q → typeKey types p = typeKey types q) :
    ps.map (fieldKey types) = qs.map (fieldKey types) := by
  induction h with
  | nil => rfl
  | @cons p q ps qs hpq _ ih =>
    obtain ⟨hhere, hrest⟩ := List.cons.inj hoptional
    rw [List.forall_mem_cons] at hkeys
    rw [List.map_cons, List.map_cons, ih hrest hkeys.2, fieldKey, fieldKey, optionalMark,
      optionalMark, hpq.name_eq, hhere, hkeys.1 q hpq]

theorem resultKey_eq {types : TypeMap} {returns other : Option Param}
    (h : Option.Rel Param.Rearranged returns other)
    (hkeys : ∀ r, returns = some r → ∀ s, r.Rearranged s → typeKey types r = typeKey types s) :
    resultKey types returns = resultKey types other := by
  cases h with
  | none => rfl
  | some hrs => exact hkeys _ rfl _ hrs

/-- **The key of a type is the same for rearranged values.** -/
theorem typeKey_eq (types : TypeMap) (h : p.Rearranged q) :
    typeKey types p = typeKey types q := by
  induction p using Param.induct generalizing q with
  | step p properties parameters returns =>
    have hkind := h.kind_eq
    have hliterals := h.map_literal_eq
    obtain ⟨-, htype, hcollection, horder, hproperties, hoptional, hparameters, hoptional2,
      hreturns, -⟩ := h
    -- The fields are sorted by keys that agree already, one for one.
    have hfields : (p.properties.map (fieldKey types)).Perm
        (q.properties.map (fieldKey types)) := by
      rw [← map_fieldKey_eq hproperties hoptional fun f hf g =>
        properties f (horder.mem_iff.2 hf)]
      exact horder.map _
    have htaken := map_fieldKey_eq hparameters hoptional2 fun f hf g => parameters f hf
    have hresult := resultKey_eq hreturns fun r hr s => returns r hr
    rw [Ambient.typeKey_eq, Ambient.typeKey_eq, hcollection, baseKey, baseKey, hkind, hliterals,
      joinFieldKeys_eq_of_perm hfields, htaken, hresult, htype]

end Param.Rearranged

/-! ## Shapes -/

/-- The keys of fields are sorted when they are joined. -/
theorem FieldsRearranged.shapeKey_eq (types : TypeMap) {fields others : List Param}
    (h : FieldsRearranged fields others) : shapeKey types fields = shapeKey types others := by
  obtain ⟨listed, horder, hlisted, hoptional⟩ := h
  rw [shapeKey, shapeKey, fieldKeys_eq_map, fieldKeys_eq_map, ← Param.Rearranged.map_fieldKey_eq
    hlisted hoptional fun _ _ _ hpq => hpq.typeKey_eq types]
  exact joinFieldKeys_eq_of_perm (horder.map _)

/-! ## Interfaces -/

section

variable {types : TypeMap} {s : Interner} {shape : Param} {name : String}

/-- A shape whose key is known is handed the interface for it, and nothing else happens. -/
theorem run_internShape_of_lookup? (naming : Naming)
    (h : s.lookup? (shapeKey types shape.properties) = some name) :
    (internShape types shape naming).run s = (.ok (collected shape.collection name), s) := by
  rw [internShape, run_bind_of_ok _ (run_intern_of_known h)]
  rfl

/-- Once a shape has been asked for, its key is known, and if it has been handed an interface, it is
the one for its key. -/
theorem exists_lookup?_of_internShape (types : TypeMap) (s : Interner) (shape : Param)
    (naming : Naming) :
    ∃ name, (((internShape types shape naming).run s).2).lookup? (shapeKey types shape.properties)
        = some name ∧
      ∀ text t, (internShape types shape naming).run s = (.ok text, t) →
        text = collected shape.collection name := by
  cases hs : s.lookup? (shapeKey types shape.properties) with
  | some known =>
    rw [run_internShape_of_lookup? naming hs]
    refine ⟨known, hs, fun text t hrun => ?_⟩
    cases hrun
    rfl
  | none =>
    refine ⟨_, lookup?_of_internShape_of_new naming hs, fun text t hrun => ?_⟩
    rcases hbody : (interfaceLines types (chosen s shape.name naming) shape.properties).run
      (claimed s (shapeKey types shape.properties) shape.name naming) with ⟨e | lines, u⟩
    · rw [internShape, run_bind_of_error _ (run_intern_of_error hs hbody)] at hrun
      cases hrun
    · rw [internShape, run_bind_of_ok _ (run_intern_of_ok hs hbody)] at hrun
      cases hrun
      rfl

end

/-- **An interface is made once for all shapes that are listed and described differently.**  They
have the same key.  So in every state in which one of them has an interface, every other is handed
that interface, as an array if it is a collection, for whatever naming, and the state stays the
same.  And once one of them has been asked for, every other is handed its interface from then on. -/
theorem internShape_of_rearranged (types : TypeMap) {fields others : List Param}
    (h : FieldsRearranged fields others) :
    shapeKey types fields = shapeKey types others ∧
    (∀ s name, s.lookup? (shapeKey types fields) = some name →
      ∀ shape naming, shape.properties = others →
        (internShape types shape naming).run s = (.ok (collected shape.collection name), s)) ∧
    ∀ s maker first pending d, maker.properties = fields →
      Session ⟨((internShape types maker first).run s).2, pending⟩ d →
        ∃ name,
          (∀ text t, (internShape types maker first).run s = (.ok text, t) →
            text = collected maker.collection name) ∧
          ∀ shape naming, shape.properties = others →
            (internShape types shape naming).run d.interner
              = (.ok (collected shape.collection name), d.interner) := by
  have hkey := h.shapeKey_eq types
  have hhanded : ∀ s name, s.lookup? (shapeKey types fields) = some name →
      ∀ shape naming, shape.properties = others →
        (internShape types shape naming).run s = (.ok (collected shape.collection name), s) := by
    rintro s name hname shape naming rfl
    rw [hkey] at hname
    exact run_internShape_of_lookup? naming hname
  refine ⟨hkey, hhanded, ?_⟩
  rintro s maker first pending d rfl hsession
  obtain ⟨name, hname, htext⟩ := exists_lookup?_of_internShape types s maker first
  exact ⟨name, htext, hhanded d.interner name (knows_of_session hsession _ _ hname)⟩

/-- A value that is made of no others may be described in any words. -/
theorem rearranged_simple (name : String) (type : TypeRef) (description other : Option String)
    (required demanded : Option Bool) :
    Param.Rearranged { name, type, description, required }
      { name, type, description := other, required := demanded } :=
  .intro rfl rfl rfl (.refl _) .nil rfl .nil rfl .none .nil

/-- A size with a width that is described as optional, and a function. -/
def describedFields : List Param :=
  [{ name := "size", type := .name "Object", properties :=
      [{ name := "width", type := .name "Integer", description := some "Optional, in pixels." },
        { name := "height", type := .name "Integer" }] },
    { name := "done", type := .name "Function",
      parameters := [{ name := "code", type := .name "Integer" }],
      returns := some { type := .name "String", description := some "Optional message." } }]

/-- The function first and the height first, and a width that is said to be optional outright. -/
def listedFields : List Param :=
  [{ name := "done", type := .name "Function", description := some "Called at the end.",
      parameters := [{ name := "code", type := .name "Integer", required := some true }],
      returns := some { type := .name "String" } },
    { name := "size", type := .name "Object", properties :=
      [{ name := "height", type := .name "Integer", description := some "In pixels." },
        { name := "width", type := .name "Integer", required := some false }] }]

/-- A list of the one is handed the interface of the other. -/
theorem internShape_of_rearranged_listed :
    FieldsRearranged describedFields listedFields ∧
      ∃ s, s.lookup? (shapeKey TypeMap.builtin describedFields) = some "Options" ∧
        (internShape TypeMap.builtin
            { name := "bounds", collection := true, properties := listedFields } {}).run s
          = (.ok "Options[]", s) := by
  have h : FieldsRearranged describedFields listedFields := by
    refine ⟨_, .swap _ _ _, .cons ?function (.cons ?size .nil), by decide +kernel⟩
    case function =>
      exact .intro rfl rfl rfl (.refl _) .nil rfl (.cons (rearranged_simple ..) .nil) rfl
        (.some (rearranged_simple ..)) .nil
    case size =>
      exact .intro rfl rfl rfl (.swap _ _ _)
        (.cons (rearranged_simple ..) (.cons (rearranged_simple ..) .nil)) (by decide +kernel) .nil
        rfl .none .nil
  have hlookup := Interner.lookup?_claim Interner.empty
    (shapeKey TypeMap.builtin describedFields) "" "" "Options"
  have hname : Interner.empty.choose "" "" "Options" = "Options" := by decide +kernel
  rw [hname] at hlookup
  exact ⟨h, _, hlookup,
    (internShape_of_rearranged TypeMap.builtin h).2.1 _ _ hlookup _ _ rfl⟩

end Ambient
