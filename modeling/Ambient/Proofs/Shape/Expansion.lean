import Ambient.Proofs.Synthesis.Texts

/-!
# What an interface says

The body of an interface names further interfaces, and which names those have depends on what else
has been written.  What the interface says does not: its statements, with every interface that is
named in them replaced by its own statements, in an order that does not depend on the order of the
fields.

## What is here

* `Param.Every` — what holds of a value and of all that it is made of.
* `expandedType`, `statements` — the type of a value, and the statements of an interface.
* `expandedType_eq_typeWith`, `statements_eq_typeWith` — types and statements are written as they
  are in bodies, but with the statements of interfaces for their names.
* `typeKey_eq`, `expandedType_eq` — keys and types by the kind of the value.
-/

set_option autoImplicit false

namespace Ambient

open Signature

/-! ## Values and their parts -/

/-- The value and all that it is made of satisfy `P`. -/
inductive Param.Every (P : Param → Prop) : Param → Prop
  | intro {p : Param} (here : P p) (properties : ∀ q ∈ p.properties, Every P q)
      (parameters : ∀ q ∈ p.parameters, Every P q)
      (returns : ∀ q, p.returns = some q → Every P q) : Every P p

namespace Param.Every

variable {P : Param → Prop} {p q : Param}

theorem here (h : p.Every P) : P p := by
  cases h
  assumption

theorem of_mem_properties (h : p.Every P) (hq : q ∈ p.properties) : q.Every P := by
  cases h with
  | intro _ properties _ _ => exact properties q hq

theorem of_mem_parameters (h : p.Every P) (hq : q ∈ p.parameters) : q.Every P := by
  cases h with
  | intro _ _ parameters _ => exact parameters q hq

theorem of_returns (h : p.Every P) (hq : p.returns = some q) : q.Every P := by
  cases h with
  | intro _ _ _ returns => exact returns q hq

end Param.Every

/-! ## Types with interfaces expanded -/

/-- The statements of an interface in one order, between braces. -/
def braced (lines : List String) : String :=
  "\x7b" ++ String.join (lines.mergeSort fun a b => !decide (b < a)) ++ "\x7d"

mutual

/-- The type of a value, with the statements of each interface for its name. -/
def expandedType (types : TypeMap) : Param → String
  | ⟨name, type, description, required, collection, properties, parameters, returns,
      possibleValues⟩ =>
    let p : Param := ⟨name, type, description, required, collection, properties, parameters,
      returns, possibleValues⟩
    if p.isObjectShape then collected collection (braced (statements types properties))
    else if !possibleValues.isEmpty then collected collection (literalUnion possibleValues)
    else if p.isCallback then
      collected collection (arrow (expandedTexts types parameters) (expandedResult types returns))
    else types.mapCollection type collection

/-- The statements of an interface with these fields. -/
def statements (types : TypeMap) : List Param → List String
  | [] => []
  | p :: rest => fieldText p (expandedType types p) :: statements types rest

/-- Parameters with their types. -/
def expandedTexts (types : TypeMap) : List Param → List String
  | [] => []
  | p :: rest => parameterText p (expandedType types p) :: expandedTexts types rest

/-- The type of a result. -/
def expandedResult (types : TypeMap) : Option Param → String
  | none => "void"
  | some p => expandedType types p

end

section

variable (types : TypeMap)

theorem statements_eq_map (fields : List Param) :
    statements types fields = fields.map fun f => fieldText f (expandedType types f) := by
  induction fields with
  | nil => rfl
  | cons p rest ih => rw [statements, ih, List.map_cons]

theorem statements_append_cons (front back : List Param) (f : Param) :
    statements types (front ++ f :: back)
      = statements types front ++ fieldText f (expandedType types f) :: statements types back := by
  rw [statements_eq_map, statements_eq_map, statements_eq_map, List.map_append, List.map_cons]

theorem expandedTexts_eq_map (ps : List Param) :
    expandedTexts types ps = ps.map fun p => parameterText p (expandedType types p) := by
  induction ps with
  | nil => rfl
  | cons p rest ih => rw [expandedTexts, ih, List.map_cons]

theorem textsWith_eq_map (interface : List Param → String) (ps : List Param) :
    textsWith types interface ps
      = ps.map fun p => parameterText p (typeWith types interface p) := by
  induction ps with
  | nil => rfl
  | cons p rest ih => rw [textsWith, ih, List.map_cons]

theorem expandedType_eq (p : Param) :
    expandedType types p =
      if p.isObjectShape then collected p.collection (braced (statements types p.properties))
      else if !p.possibleValues.isEmpty then
        collected p.collection (literalUnion p.possibleValues)
      else if p.isCallback then
        collected p.collection (arrow (expandedTexts types p.parameters)
          (expandedResult types p.returns))
      else types.mapCollection p.type p.collection := by
  cases p
  unfold expandedType
  rfl

/-- **Only the names are expanded**: in all else the type is written as in a signature. -/
theorem expandedType_eq_typeWith (p : Param) :
    expandedType types p = typeWith types (fun fields => braced (statements types fields)) p := by
  induction p using Param.induct with
  | step p _ parameters returns =>
    have htexts : expandedTexts types p.parameters
        = textsWith types (fun fields => braced (statements types fields)) p.parameters := by
      rw [expandedTexts_eq_map, textsWith_eq_map]
      exact List.map_congr_left fun q hq => by rw [parameters q hq]
    have hresult : expandedResult types p.returns
        = resultWith types (fun fields => braced (statements types fields)) p.returns := by
      cases hreturns : p.returns with
      | none => rfl
      | some q => rw [expandedResult, resultWith, returns q hreturns]
    rw [expandedType_eq, typeWith_eq, htexts, hresult]

/-- The statements of an interface are those of its body, with the statements of each interface that
is named for its name. -/
theorem statements_eq_typeWith (fields : List Param) :
    statements types fields = fields.map fun f =>
      fieldText f (typeWith types (fun gs => braced (statements types gs)) f) := by
  rw [statements_eq_map]
  exact List.map_congr_left fun f _ => by rw [expandedType_eq_typeWith]

end

/-! ## Kinds of values -/

/-- What decides how a value is written. -/
inductive Kind where
  /-- One of several strings. -/
  | choice
  /-- An object of which fields are known. -/
  | shape
  /-- A function of which parameters or the result are known. -/
  | callback
  /-- Anything else, which is known by the name of its type. -/
  | plain
deriving Repr, DecidableEq

namespace Param

/-- The kind of a value, as its key has it. -/
def kind (p : Param) : Kind :=
  if !p.possibleValues.isEmpty then .choice
  else if p.isObjectShape then .shape
  else if p.isCallback then .callback
  else .plain

/-- No quotes stand in the strings that a value may be, and no object is one of several strings. -/
structure Tame (p : Param) : Prop where
  quoteless : ∀ v ∈ p.possibleValues, '\'' ∉ v.value.toList
  simple : p.possibleValues = [] ∨ p.isObjectShape = false

/-- The values that play a part in the key of a value. -/
def parts (p : Param) : List Param :=
  match p.kind with
  | .choice => []
  | .shape => p.properties
  | .callback => p.parameters ++ p.returns.toList
  | .plain => []

/-- The value and all that play a part in its key satisfy `P`. -/
inductive Throughout (P : Param → Prop) : Param → Prop
  | intro {p : Param} (here : P p) (parts : ∀ q ∈ p.parts, Throughout P q) : Throughout P p

theorem Throughout.here {P : Param → Prop} {p : Param} (h : p.Throughout P) : P p := by
  cases h
  assumption

theorem Throughout.of_mem {P : Param → Prop} {p q : Param} (h : p.Throughout P)
    (hq : q ∈ p.parts) : q.Throughout P := by
  cases h with
  | intro _ parts => exact parts q hq

/-- Values by what plays a part in their keys. -/
theorem induct_parts {motive : Param → Prop}
    (step : ∀ p : Param, (∀ q ∈ p.parts, motive q) → motive p) (p : Param) : motive p := by
  induction p using Param.induct with
  | step p properties parameters returns =>
    refine step p fun q hq => ?_
    rw [parts] at hq
    split at hq
    · cases hq
    · exact properties q hq
    · rcases List.mem_append.1 hq with hq | hq
      · exact parameters q hq
      · exact returns q (by simpa using hq)
    · cases hq

end Param

/-! ## Keys and types by kind -/

/-- The mark of a collection at the end of a key. -/
def arrayMark (collection : Bool) : String := if collection then "[]" else ""

section

variable (types : TypeMap)

/-- The key of the type of a value, without the mark of a collection. -/
def baseKey (p : Param) : String :=
  match p.kind with
  | .choice => String.intercalate "|" (p.possibleValues.map literal)
  | .shape => joinFieldKeys (p.properties.map (fieldKey types))
  | .callback =>
    "(" ++ String.intercalate "," (p.parameters.map (fieldKey types)) ++ ")=>"
      ++ resultKey types p.returns
  | .plain => types.mapType p.type

theorem baseKey_eq (p : Param) :
    baseKey types p =
      if !p.possibleValues.isEmpty then String.intercalate "|" (p.possibleValues.map literal)
      else if p.isObjectShape then joinFieldKeys (p.properties.map (fieldKey types))
      else if p.isCallback then
        "(" ++ String.intercalate "," (p.parameters.map (fieldKey types)) ++ ")=>"
          ++ resultKey types p.returns
      else types.mapType p.type := by
  rw [baseKey, Param.kind]
  cases p.possibleValues.isEmpty with
  | false => rfl
  | true =>
    cases p.isObjectShape with
    | true => rfl
    | false => cases p.isCallback <;> rfl

theorem typeKey_eq (p : Param) : typeKey types p = baseKey types p ++ arrayMark p.collection := by
  have hfields := fieldKeys_eq_map types
  rw [baseKey_eq]
  obtain ⟨name, type, description, required, collection, properties, parameters, returns,
    possibleValues⟩ := p
  unfold typeKey
  rw [hfields parameters, hfields properties]
  cases collection with
  | true => rfl
  | false => exact String.append_empty.symm

/-- What is expanded in the type of a value, before it becomes the type of a collection. -/
def baseType (p : Param) : String :=
  match p.kind with
  | .choice => literalUnion p.possibleValues
  | .shape => braced (statements types p.properties)
  | .callback => arrow (expandedTexts types p.parameters) (expandedResult types p.returns)
  | .plain => types.mapType p.type

theorem baseType_of_choice {p : Param} (hk : p.kind = .choice) :
    baseType types p = literalUnion p.possibleValues := by
  rw [baseType, hk]

theorem baseType_of_shape {p : Param} (hk : p.kind = .shape) :
    baseType types p = braced (statements types p.properties) := by
  rw [baseType, hk]

theorem baseType_of_callback {p : Param} (hk : p.kind = .callback) :
    baseType types p
      = arrow (expandedTexts types p.parameters) (expandedResult types p.returns) := by
  rw [baseType, hk]

theorem baseType_of_plain {p : Param} (hk : p.kind = .plain) :
    baseType types p = types.mapType p.type := by
  rw [baseType, hk]

/-- The key and the type of a value are written by the same kind, if no object is one of several
strings. -/
theorem expandedType_eq_collected {p : Param}
    (h : p.possibleValues = [] ∨ p.isObjectShape = false) :
    expandedType types p = collected p.collection (baseType types p) := by
  rw [expandedType_eq, baseType, Param.kind]
  rcases h with h | h
  · rw [h]
    simp only [List.isEmpty_nil, Bool.not_true, Bool.false_eq_true, if_false]
    cases p.isObjectShape with
    | true => rfl
    | false =>
      cases p.isCallback with
      | true => rfl
      | false => rfl
  · rw [h]
    simp only [Bool.false_eq_true, if_false]
    cases p.possibleValues.isEmpty with
    | false => rfl
    | true =>
      cases p.isCallback with
      | true => rfl
      | false => rfl

end

end Ambient
