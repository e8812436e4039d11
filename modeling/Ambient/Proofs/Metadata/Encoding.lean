import Mathlib.Data.List.Forall2
import Ambient.Metadata.Basic
import Ambient.Json.Value

/-!
# How metadata is written in JSON

A record is an object with its fields under their keys.  One record can be written in many ways: a
field that has its default may be left out, at every depth and in every object on its own, empty
lists and absent values may be `null`, and an object may have keys that mean nothing.

## What is here

* `Json.IsOption`, `Json.IsList` — how a value that may be absent and a list are written.
* `Json.Has`, `Json.MayHave` — what an object has under the key of a field that must be given, and
  of one that may be left out.
* `TypeRef.Encoding`, `Param.Encoding`, … `Module.Encoding` — a JSON value writes a type, a value,
  … a module.  None of them mentions how JSON is read.
* `Module.exists_encoding` — every module can be written.
-/

set_option autoImplicit false

namespace Ambient

/-! ## Values and objects -/

namespace Json

variable {α : Type}

/-- A string is written as it is. -/
inductive IsString : Json → String → Prop
  | string (s : String) : IsString (.string s) s

/-- A truth value is written as it is. -/
inductive IsBool : Json → Bool → Prop
  | bool (b : Bool) : IsBool (.bool b) b

/-- A value that may be absent is written as it is, or as `null` if it is absent. -/
inductive IsOption (W : Json → α → Prop) : Json → Option α → Prop
  | absent : IsOption W .null none
  | present {value : Json} {x : α} (h : W value x) : IsOption W value (some x)

/-- A list is written as an array, and the empty one also as `null`. -/
inductive IsList (W : Json → α → Prop) : Json → List α → Prop
  | null : IsList W .null []
  | array {items : List Json} {xs : List α} (h : List.Forall₂ W items xs) :
      IsList W (.array items) xs

/-- What an object has under the key of a field that must be given. -/
inductive Has (W : Json → α → Prop) : Option Json → α → Prop
  | given {value : Json} {x : α} (h : W value x) : Has W (some value) x

/-- What an object has under the key of a field with a default: the field, or nothing if the field
has its default. -/
inductive MayHave (W : Json → α → Prop) (default : α) : Option Json → α → Prop
  | leftOut : MayHave W default none default
  | given {value : Json} {x : α} (h : W value x) : MayHave W default (some value) x

/-- No key is there twice.  Any other keys may be there besides those that mean something. -/
def HasDistinctKeys (given : List (String × Json)) : Prop := (given.map Prod.fst).Nodup

instance (given : List (String × Json)) : Decidable (HasDistinctKeys given) :=
  inferInstanceAs (Decidable (given.map Prod.fst).Nodup)

end Json

open Json

/-! ## Types and values -/

/-- A value writes a type: a name as a string, a choice of types as an array. -/
inductive TypeRef.Encoding : Json → TypeRef → Prop
  | name (n : String) : Encoding (.string n) (.name n)
  | union {items : List Json} {members : List TypeRef} (h : List.Forall₂ Encoding items members) :
      Encoding (.array items) (.union members)

/-- An object writes a possible value. -/
inductive PossibleValue.Encoding : Json → PossibleValue → Prop
  | object {given : List (String × Json)} {p : PossibleValue} (keys : HasDistinctKeys given)
      (value : Has IsString (given.lookup "value") p.value)
      (description : MayHave (IsOption IsString) none (given.lookup "description") p.description) :
      Encoding (.object given) p

/-- An object writes a value. -/
inductive Param.Encoding : Json → Param → Prop
  | object {given : List (String × Json)} {p : Param} (keys : HasDistinctKeys given)
      (name : MayHave IsString "" (given.lookup "name") p.name)
      (type : MayHave TypeRef.Encoding (.name "any") (given.lookup "type") p.type)
      (description : MayHave (IsOption IsString) none (given.lookup "description") p.description)
      (required : MayHave (IsOption IsBool) none (given.lookup "required") p.required)
      (collection : MayHave IsBool false (given.lookup "collection") p.collection)
      (properties : MayHave (IsList Encoding) [] (given.lookup "properties") p.properties)
      (parameters : MayHave (IsList Encoding) [] (given.lookup "parameters") p.parameters)
      (returns : MayHave (IsOption Encoding) none (given.lookup "returns") p.returns)
      (possibleValues : MayHave (IsList PossibleValue.Encoding) []
        (given.lookup "possibleValues") p.possibleValues) :
      Encoding (.object given) p

/-! ## Members -/

/-- An object writes a method. -/
inductive Method.Encoding : Json → Method → Prop
  | object {given : List (String × Json)} {m : Method} (keys : HasDistinctKeys given)
      (name : Has IsString (given.lookup "name") m.name)
      (description : MayHave (IsOption IsString) none (given.lookup "description") m.description)
      (parameters : MayHave (IsList Param.Encoding) [] (given.lookup "parameters") m.parameters)
      (returns : MayHave (IsOption Param.Encoding) none (given.lookup "returns") m.returns) :
      Encoding (.object given) m

/-- An object writes a constructor. -/
inductive Constructor.Encoding : Json → Constructor → Prop
  | object {given : List (String × Json)} {c : Constructor} (keys : HasDistinctKeys given)
      (description : MayHave (IsOption IsString) none (given.lookup "description") c.description)
      (parameters : MayHave (IsList Param.Encoding) [] (given.lookup "parameters") c.parameters) :
      Encoding (.object given) c

/-- An object writes an event; the arguments of its listeners are its `returns`. -/
inductive Event.Encoding : Json → Event → Prop
  | object {given : List (String × Json)} {e : Event} (keys : HasDistinctKeys given)
      (name : Has IsString (given.lookup "name") e.name)
      (description : MayHave (IsOption IsString) none (given.lookup "description") e.description)
      (arguments : MayHave (IsList Param.Encoding) [] (given.lookup "returns") e.arguments) :
      Encoding (.object given) e

/-! ## Modules -/

/-- A value writes the kind of a module. -/
inductive ModuleKind.Encoding : Json → ModuleKind → Prop
  | classKind : Encoding (.string "Class") .classKind
  | moduleKind : Encoding (.string "Module") .moduleKind
  | structureKind : Encoding (.string "Structure") .structureKind

/-- An object writes the processes in which a module is available. -/
inductive Availability.Encoding : Json → Availability → Prop
  | object {given : List (String × Json)} {a : Availability} (keys : HasDistinctKeys given)
      (main : MayHave IsBool false (given.lookup "main") a.main)
      (renderer : MayHave IsBool false (given.lookup "renderer") a.renderer) :
      Encoding (.object given) a

/-- An object writes a module. -/
inductive Module.Encoding : Json → Module → Prop
  | object {given : List (String × Json)} {m : Module} (keys : HasDistinctKeys given)
      (name : Has IsString (given.lookup "name") m.name)
      (kind : MayHave ModuleKind.Encoding .moduleKind (given.lookup "type") m.kind)
      (description : MayHave (IsOption IsString) none (given.lookup "description") m.description)
      (websiteUrl : MayHave IsString "" (given.lookup "websiteUrl") m.websiteUrl)
      (availability : MayHave (IsOption Availability.Encoding) none
        (given.lookup "process") m.availability)
      (construction : MayHave (IsOption Constructor.Encoding) none
        (given.lookup "constructorMethod") m.construction)
      (staticMethods : MayHave (IsList Method.Encoding) []
        (given.lookup "staticMethods") m.staticMethods)
      (methods : MayHave (IsList Method.Encoding) [] (given.lookup "methods") m.methods)
      (instanceMethods : MayHave (IsList Method.Encoding) []
        (given.lookup "instanceMethods") m.instanceMethods)
      (instanceProperties : MayHave (IsList Param.Encoding) []
        (given.lookup "instanceProperties") m.instanceProperties)
      (properties : MayHave (IsList Param.Encoding) [] (given.lookup "properties") m.properties)
      (events : MayHave (IsList Event.Encoding) [] (given.lookup "events") m.events)
      (instanceEvents : MayHave (IsList Event.Encoding) []
        (given.lookup "instanceEvents") m.instanceEvents) :
      Encoding (.object given) m

/-! ## Everything can be written -/

namespace Json

variable {α : Type} {W : Json → α → Prop}

theorem exists_isOption {x : Option α} (h : ∀ y, x = some y → ∃ value, W value y) :
    ∃ value, IsOption W value x := by
  cases x with
  | none => exact ⟨_, .absent⟩
  | some y =>
    obtain ⟨value, hvalue⟩ := h y rfl
    exact ⟨value, .present hvalue⟩

theorem exists_isList {xs : List α} (h : ∀ x ∈ xs, ∃ value, W value x) :
    ∃ value, IsList W value xs := by
  have hitems : ∃ items, List.Forall₂ W items xs := by
    induction xs with
    | nil => exact ⟨[], .nil⟩
    | cons x rest ih =>
      obtain ⟨value, hvalue⟩ := h x (List.mem_cons_self ..)
      obtain ⟨items, hitems⟩ := ih fun y hy => h y (List.mem_cons_of_mem _ hy)
      exact ⟨value :: items, .cons hvalue hitems⟩
  obtain ⟨items, hitems⟩ := hitems
  exact ⟨.array items, .array hitems⟩

theorem exists_isString? (s : Option String) : ∃ value, IsOption IsString value s :=
  exists_isOption fun t _ => ⟨_, .string t⟩

end Json

theorem TypeRef.exists_encoding (type : TypeRef) : ∃ value, TypeRef.Encoding value type := by
  induction type using TypeRef.induct with
  | name n => exact ⟨_, .name n⟩
  | union members ih =>
    obtain ⟨value, h⟩ := exists_isList ih
    cases h with
    | null => exact ⟨.array [], .union .nil⟩
    | array h => exact ⟨_, .union h⟩

theorem PossibleValue.exists_encoding (p : PossibleValue) :
    ∃ value, PossibleValue.Encoding value p := by
  obtain ⟨description, hdescription⟩ := exists_isString? p.description
  exact ⟨.object [("value", .string p.value), ("description", description)],
    .object (by simp [HasDistinctKeys]) (.given (.string _)) (.given hdescription)⟩

theorem Param.exists_encoding (p : Param) : ∃ value, Param.Encoding value p := by
  induction p using Param.induct with
  | step p hproperties hparameters hreturns =>
    obtain ⟨type, htype⟩ := p.type.exists_encoding
    obtain ⟨description, hdescription⟩ := exists_isString? p.description
    obtain ⟨required, hrequired⟩ := exists_isOption (W := IsBool) (x := p.required)
      fun b _ => ⟨_, .bool b⟩
    obtain ⟨properties, hproperties⟩ := exists_isList hproperties
    obtain ⟨parameters, hparameters⟩ := exists_isList hparameters
    obtain ⟨returns, hreturns⟩ := exists_isOption hreturns
    obtain ⟨values, hvalues⟩ := exists_isList fun v (_ : v ∈ p.possibleValues) => v.exists_encoding
    exact ⟨.object [("name", .string p.name), ("type", type), ("description", description),
        ("required", required), ("collection", .bool p.collection), ("properties", properties),
        ("parameters", parameters), ("returns", returns), ("possibleValues", values)],
      .object (by simp [HasDistinctKeys]) (.given (.string _)) (.given htype)
        (.given hdescription) (.given hrequired) (.given (.bool _)) (.given hproperties)
        (.given hparameters) (.given hreturns) (.given hvalues)⟩

theorem exists_params (ps : List Param) : ∃ value, IsList Param.Encoding value ps :=
  exists_isList fun p _ => p.exists_encoding

theorem Method.exists_encoding (m : Method) : ∃ value, Method.Encoding value m := by
  obtain ⟨description, hdescription⟩ := exists_isString? m.description
  obtain ⟨parameters, hparameters⟩ := exists_params m.parameters
  obtain ⟨returns, hreturns⟩ := exists_isOption fun p (_ : m.returns = some p) => p.exists_encoding
  exact ⟨.object [("name", .string m.name), ("description", description),
      ("parameters", parameters), ("returns", returns)],
    .object (by simp [HasDistinctKeys]) (.given (.string _)) (.given hdescription)
      (.given hparameters) (.given hreturns)⟩

theorem Constructor.exists_encoding (c : Constructor) : ∃ value, Constructor.Encoding value c := by
  obtain ⟨description, hdescription⟩ := exists_isString? c.description
  obtain ⟨parameters, hparameters⟩ := exists_params c.parameters
  exact ⟨.object [("description", description), ("parameters", parameters)],
    .object (by simp [HasDistinctKeys]) (.given hdescription) (.given hparameters)⟩

theorem Event.exists_encoding (e : Event) : ∃ value, Event.Encoding value e := by
  obtain ⟨description, hdescription⟩ := exists_isString? e.description
  obtain ⟨arguments, harguments⟩ := exists_params e.arguments
  exact ⟨.object [("name", .string e.name), ("description", description), ("returns", arguments)],
    .object (by simp [HasDistinctKeys]) (.given (.string _)) (.given hdescription)
      (.given harguments)⟩

theorem ModuleKind.exists_encoding (kind : ModuleKind) :
    ∃ value, ModuleKind.Encoding value kind := by
  cases kind with
  | classKind => exact ⟨_, .classKind⟩
  | moduleKind => exact ⟨_, .moduleKind⟩
  | structureKind => exact ⟨_, .structureKind⟩

theorem Availability.exists_encoding (a : Availability) :
    ∃ value, Availability.Encoding value a :=
  ⟨.object [("main", .bool a.main), ("renderer", .bool a.renderer)],
    .object (by simp [HasDistinctKeys]) (.given (.bool _)) (.given (.bool _))⟩

/-- **Every module can be written.** -/
theorem Module.exists_encoding (m : Module) : ∃ value, Module.Encoding value m := by
  obtain ⟨kind, hkind⟩ := m.kind.exists_encoding
  obtain ⟨description, hdescription⟩ := exists_isString? m.description
  obtain ⟨process, hprocess⟩ := exists_isOption
    fun a (_ : m.availability = some a) => a.exists_encoding
  obtain ⟨construction, hconstruction⟩ := exists_isOption
    fun c (_ : m.construction = some c) => c.exists_encoding
  have hlist (ms : List Method) : ∃ value, IsList Method.Encoding value ms :=
    exists_isList fun m _ => m.exists_encoding
  have hevents (es : List Event) : ∃ value, IsList Event.Encoding value es :=
    exists_isList fun e _ => e.exists_encoding
  obtain ⟨staticMethods, hstatic⟩ := hlist m.staticMethods
  obtain ⟨methods, hmethods⟩ := hlist m.methods
  obtain ⟨instanceMethods, hinstance⟩ := hlist m.instanceMethods
  obtain ⟨instanceProperties, hinstanceProperties⟩ := exists_params m.instanceProperties
  obtain ⟨properties, hproperties⟩ := exists_params m.properties
  obtain ⟨events, hevents₁⟩ := hevents m.events
  obtain ⟨instanceEvents, hevents₂⟩ := hevents m.instanceEvents
  exact ⟨.object [("name", .string m.name), ("type", kind), ("description", description),
      ("websiteUrl", .string m.websiteUrl), ("process", process),
      ("constructorMethod", construction), ("staticMethods", staticMethods), ("methods", methods),
      ("instanceMethods", instanceMethods), ("instanceProperties", instanceProperties),
      ("properties", properties), ("events", events), ("instanceEvents", instanceEvents)],
    .object (by simp [HasDistinctKeys]) (.given (.string _)) (.given hkind)
      (.given hdescription) (.given (.string _)) (.given hprocess) (.given hconstruction)
      (.given hstatic) (.given hmethods) (.given hinstance) (.given hinstanceProperties)
      (.given hproperties) (.given hevents₁) (.given hevents₂)⟩

end Ambient
