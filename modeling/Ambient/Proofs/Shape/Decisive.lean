import Ambient.Proofs.Shape.Choices
import Ambient.Proofs.Synthesis.Operations

/-!
# When a key decides what an interface says

A shape is handed an interface that is there already if that has been made for the same key.  So
sharing interfaces is right as far as shapes with one key have the same statements.  This is not so
for all shapes; here is for which it is.

## What is here

* `Documented fields` — fields that are described with identifiers.
* `Handed fields others`, `handed_iff` — a shape is handed the interface of another one if and only
  if both have the same key.
* `shapeKey_decides_iff` — among all documented shapes the key decides the statements if and only if
  no strings are given in the shape and the keys in it are clear; among those whose strings can be
  told apart, if and only if the keys are clear.
-/

set_option autoImplicit false

namespace Ambient

open Signature Synthesis

/-! ## Shapes -/

/-- The fields, and all that they are made of, are described with identifiers. -/
def Documented (fields : List Param) : Prop :=
  ∀ f ∈ fields, isIdentifier f.name = true ∧ f.Every Param.Regular

/-- No strings are given for any value that plays a part in the key. -/
def AllChoiceless (fields : List Param) : Prop := ∀ f ∈ fields, f.Throughout Param.Choiceless

/-- The strings that are given can be read off the key, and no objects are described along with
them. -/
def AllTame (fields : List Param) : Prop := ∀ f ∈ fields, f.Throughout Param.Tame

theorem AllChoiceless.tame {fields : List Param} (h : AllChoiceless fields) : AllTame fields :=
  fun f hf => (h f hf).mono fun _ hp => hp.tame

section

variable {fields others : List Param}

theorem Documented.readable (h : Documented fields) (htame : AllTame fields) :
    ∀ f ∈ fields, isIdentifier f.name = true ∧ f.Readable :=
  fun f hf => ⟨(h f hf).1, (h f hf).2, htame f hf⟩

/-! ## Strings -/

/-- Whether strings are given can be read off the key. -/
theorem allChoiceless_iff (h : Documented fields) :
    AllChoiceless fields ↔ '\'' ∉ (shapeKey TypeMap.builtin fields).toList := by
  rw [toList_shapeKey, quote_mem_joinedChars_iff fun f hf => (h f hf).1, AllChoiceless]
  constructor
  · rintro hall ⟨f, hf, hc⟩
    exact (quote_mem_keyChars_iff (h f hf).2).1 hc (hall f hf)
  · intro hnone f hf
    by_contra hstrings
    exact hnone ⟨f, hf, (quote_mem_keyChars_iff (h f hf).2).2 hstrings⟩

/-! ## Shapes that differ in one field -/

/-- Where a field is replaced by one with the same key, the shape has the same key. -/
theorem shapeKey_of_alike {f g : Param} (hfg : f.Alike g) (front back : List Param) :
    shapeKey TypeMap.builtin (front ++ g :: back)
      = shapeKey TypeMap.builtin (front ++ f :: back) := by
  refine String.toList_inj.1 ?_
  rw [toList_shapeKey, toList_shapeKey, joinedChars_of_alike hfg]

theorem documented_of_alike {f g : Param} {front back : List Param} (hfg : f.Alike g)
    (hg : g.Every Param.Regular) (h : Documented (front ++ f :: back)) :
    Documented (front ++ g :: back) :=
  forall_mem_of_replaced h fun hf => ⟨hfg.name ▸ hf.1, hg⟩

/-- The statements are the same only if the fields are written alike. -/
theorem expandedType_eq_of_perm {f g : Param} {front back : List Param} (hfg : f.Alike g)
    (h : (statements TypeMap.builtin (front ++ g :: back)).Perm
      (statements TypeMap.builtin (front ++ f :: back))) :
    expandedType TypeMap.builtin g = expandedType TypeMap.builtin f := by
  rw [statements_append_cons, statements_append_cons, fieldText_eq_of_alike hfg] at h
  exact fieldText_injective (eq_of_perm_replaced h)

/-! ## Which interface a shape is handed -/

/-- At some point of some calls an interface is made for the first fields, and at some later point
every shape with the second fields is handed that interface, and no new one. -/
def Handed (fields others : List Param) : Prop :=
  ∃ reserved ops maker naming more, maker.properties = fields ∧
    (after TypeMap.builtin reserved ops).lookup? (shapeKey TypeMap.builtin fields) = none ∧
    ∀ (shape : Param) (naming2 : Naming), shape.properties = others →
      (internShape TypeMap.builtin shape naming2).run
          (after TypeMap.builtin reserved (ops ++ .intern maker naming :: more))
        = (.ok (collected shape.collection
            (chosen (after TypeMap.builtin reserved ops) maker.name naming)),
          after TypeMap.builtin reserved (ops ++ .intern maker naming :: more))

/-- A key has a name as soon as it has been asked for, even if the body cannot be written. -/
theorem lookup?_of_internShape_of_new {types : TypeMap} {s : Interner} {shape : Param}
    (naming : Naming) (hs : s.lookup? (shapeKey types shape.properties) = none) :
    (((internShape types shape naming).run s).2).lookup? (shapeKey types shape.properties)
      = some (chosen s shape.name naming) := by
  have hext := extends_of_composed
    (composed_interfaceLines types (chosen s shape.name naming) shape.properties)
    (claimed s (shapeKey types shape.properties) shape.name naming)
  have hknown := hext.knows _ _ (Interner.lookup?_claim s _ _ _ _)
  rcases hrun : (interfaceLines types (chosen s shape.name naming) shape.properties).run
    (claimed s (shapeKey types shape.properties) shape.name naming) with ⟨e | lines, t⟩
  · rw [hrun] at hknown
    rw [internShape, run_bind_of_error _ (run_intern_of_error hs hrun)]
    exact hknown
  · rw [hrun] at hknown
    rw [internShape, run_bind_of_ok _ (run_intern_of_ok hs hrun)]
    exact hknown

/-- A shape that is handed a name without a new interface has a key that is bound to this name. -/
theorem lookup?_of_run_internShape {types : TypeMap} {s : Interner} {shape : Param}
    {naming : Naming} {name : String} (hcollection : shape.collection = false)
    (h : (internShape types shape naming).run s = (.ok name, s)) :
    s.lookup? (shapeKey types shape.properties) = some name := by
  cases hs : s.lookup? (shapeKey types shape.properties) with
  | some known =>
    rw [internShape, run_bind_of_ok _ (run_intern_of_known hs), hcollection] at h
    have hname : known = name := Except.ok.inj (congrArg Prod.fst h)
    rw [hname]
  | none =>
    have hnew := lookup?_of_internShape_of_new naming hs
    rw [h, hs] at hnew
    cases hnew

/-- The interface that is made for a key is still the one for that key after further calls. -/
theorem lookup?_after_intern {types : TypeMap} {reserved : List String} {ops : List Operation}
    (maker : Param) (naming : Naming) (more : List Operation)
    (hnew : (after types reserved ops).lookup? (shapeKey types maker.properties) = none) :
    (after types reserved (ops ++ .intern maker naming :: more)).lookup?
        (shapeKey types maker.properties)
      = some (chosen (after types reserved ops) maker.name naming) := by
  rw [after_append]
  exact knows_of_session (session_performAll types more
    (Operation.perform types (after types reserved ops) (.intern maker naming)) []) _ _
    (lookup?_of_internShape_of_new naming hnew)

/-- **A shape is handed the interface of another one** if and only if both have the same key. -/
theorem handed_iff : Handed fields others ↔
    shapeKey TypeMap.builtin others = shapeKey TypeMap.builtin fields := by
  constructor
  · rintro ⟨reserved, ops, maker, naming, more, rfl, hnew, hrun⟩
    have hother := lookup?_of_run_internShape rfl (hrun { properties := others } {} rfl)
    have hsound : Desk.Sound reserved
        ⟨after TypeMap.builtin reserved (ops ++ .intern maker naming :: more), []⟩ :=
      sound_of_session (session_performAll TypeMap.builtin _ _ []) (sound_start reserved)
    exact hsound.faithful.injective _ _ _ hother (lookup?_after_intern maker naming more hnew)
  · intro h
    have hnew : (after TypeMap.builtin [] []).lookup? (shapeKey TypeMap.builtin fields) = none :=
      rfl
    refine ⟨[], [], { properties := fields }, {}, [], rfl, hnew, fun shape naming2 hshape => ?_⟩
    have hother := lookup?_after_intern { properties := fields } {} [] hnew
    have hkey : shapeKey TypeMap.builtin shape.properties = shapeKey TypeMap.builtin fields := by
      rw [hshape, h]
    rw [internShape, hkey, run_bind_of_ok _ (run_intern_of_known hother)]
    rfl

/-! ## When the key decides -/

/-- Where the key decides, no field has a clash. -/
theorem no_clash {P : List Param → Prop} {front back : List Param} {f g : Param}
    (hdecides : ∀ others, P others →
      shapeKey TypeMap.builtin others = shapeKey TypeMap.builtin (front ++ f :: back) →
        (statements TypeMap.builtin others).Perm (statements TypeMap.builtin (front ++ f :: back)))
    (hfg : f.Alike g) (h : P (front ++ g :: back)) :
    expandedType TypeMap.builtin g = expandedType TypeMap.builtin f :=
  expandedType_eq_of_perm hfg (hdecides _ h (shapeKey_of_alike hfg front back))

/-- Among shapes whose strings can be told apart, the key decides if it is clear, and only then. -/
theorem areClear_iff_decides (h : Documented fields) (htame : AllTame fields) :
    areClear fields = true ↔ ∀ others, Documented others ∧ AllTame others →
      shapeKey TypeMap.builtin others = shapeKey TypeMap.builtin fields →
        (statements TypeMap.builtin others).Perm (statements TypeMap.builtin fields) := by
  constructor
  · rintro hclear others ⟨hdocumented, hothers⟩ hkey
    exact statements_perm_of_shapeKey_eq (h.readable htame) (hdocumented.readable hothers) hclear
      hkey
  · intro hdecides
    refine areClear_iff.2 fun f hf => ?_
    by_contra hunclear
    obtain ⟨g, hg, hfg, hne⟩ := exists_clash (h.readable htame f hf).2 (by simpa using hunclear)
    obtain ⟨front, back, rfl⟩ := List.append_of_mem hf
    exact hne (no_clash hdecides hfg ⟨documented_of_alike hfg hg.regular h,
      forall_mem_of_replaced htame fun _ => hg.tame⟩)

/-- **When the key decides what an interface says.**  The body of an interface has comments, and
statements in which further interfaces are named; what it says is these statements, with all
interfaces expanded.  A shape is handed the interface of another one just in case both have the same
key.  Then the two say the same, whatever the other shape is, just in case no strings are given in
the shape and every `[]` in its key has one reading.  Among shapes whose strings have no quotes, and
belong to no objects, it is the `[]` alone that matters. -/
theorem shapeKey_decides_iff (h : Documented fields) :
    (∀ owner s t lines, (interfaceLines TypeMap.builtin owner fields).run s = (.ok lines, t) →
      lines = fields.flatMap fun f => DocComment.ofDescription f.description
        ++ [fieldText f (typeWith TypeMap.builtin (nameIn TypeMap.builtin t) f)]) ∧
    (statements TypeMap.builtin fields = fields.map fun f =>
      fieldText f
        (typeWith TypeMap.builtin (fun gs => braced (statements TypeMap.builtin gs)) f)) ∧
    (∀ others, Handed fields others ↔
      shapeKey TypeMap.builtin others = shapeKey TypeMap.builtin fields) ∧
    ((∀ others, Documented others →
        shapeKey TypeMap.builtin others = shapeKey TypeMap.builtin fields →
          (statements TypeMap.builtin others).Perm (statements TypeMap.builtin fields)) ↔
      AllChoiceless fields ∧ areClear fields = true) ∧
    (AllTame fields →
      ((∀ others, Documented others → AllTame others →
          shapeKey TypeMap.builtin others = shapeKey TypeMap.builtin fields →
            (statements TypeMap.builtin others).Perm (statements TypeMap.builtin fields)) ↔
        areClear fields = true)) := by
  refine ⟨fun owner s t lines hrun => ?_, statements_eq_typeWith _ fields,
    fun others => handed_iff, ⟨fun hdecides => ?_, ?_⟩, fun htame => ?_⟩
  · have hcomposed := composed_interfaceLines TypeMap.builtin owner fields
    exact interfaceLines_eq _ (run_of_knows hcomposed hrun t (.refl t))
  · have hchoiceless : AllChoiceless fields := by
      intro f hf
      by_contra hstrings
      obtain ⟨g, g2, hg, hg2, hfg, hfg2, hne⟩ := exists_choice_clash (h f hf).2 hstrings
      obtain ⟨front, back, rfl⟩ := List.append_of_mem hf
      refine hne ?_
      rw [no_clash hdecides hfg (documented_of_alike hfg hg h),
        no_clash hdecides hfg2 (documented_of_alike hfg2 hg2 h)]
    exact ⟨hchoiceless, (areClear_iff_decides h hchoiceless.tame).2 fun others hothers =>
      hdecides others hothers.1⟩
  · rintro ⟨hchoiceless, hclear⟩ others hothers hkey
    -- There is no quote in the key, so no strings are given in the other shape either.
    have hsame : AllChoiceless others := by
      rw [allChoiceless_iff hothers, hkey, ← allChoiceless_iff h]
      exact hchoiceless
    exact (areClear_iff_decides h hchoiceless.tame).1 hclear others ⟨hothers, hsame.tame⟩ hkey
  · rw [areClear_iff_decides h htame]
    exact ⟨fun hdecides others hothers => hdecides others hothers.1 hothers.2,
      fun hdecides others hdocumented hothers => hdecides others ⟨hdocumented, hothers⟩⟩

end

/-- Functions that return a string, a list of them. -/
def stringLoaders : List Param :=
  [{ name := "load", type := .name "Function", collection := true,
     returns := some { type := .name "String" } }]

/-- A function that returns a list of strings. -/
def listLoader : List Param :=
  [{ name := "load", type := .name "Function",
     returns := some { type := .name "String", collection := true } }]

/-- The key of a list of functions is also that of a function with a list for a result. -/
theorem shapeKey_decides_iff_loaders :
    Documented stringLoaders ∧ AllTame stringLoaders ∧ areClear stringLoaders = false ∧
    statements TypeMap.builtin stringLoaders = ["load: (() => string)[];"] ∧
    statements TypeMap.builtin listLoader = ["load: () => string[];"] ∧
    Handed stringLoaders listLoader ∧
    ¬ ∀ others, Documented others → AllTame others →
      shapeKey TypeMap.builtin others = shapeKey TypeMap.builtin stringLoaders →
        (statements TypeMap.builtin others).Perm (statements TypeMap.builtin stringLoaders) := by
  have hstring : (TypeRef.name "String").Named :=
    named_name.2 ⟨"String", 0, by decide, Nat.zero_le 1, by decide⟩
  have hfunction : (TypeRef.name "Function").Named :=
    named_name.2 ⟨"Function", 0, by decide, Nat.zero_le 1, by decide⟩
  have hresult : (({} : Param).plainly (.name "String") false).Readable := readable_plainly hstring
  have hload : ∀ f ∈ stringLoaders, isIdentifier f.name = true ∧ f.Readable := by
    intro f hf
    rw [List.mem_singleton.1 hf]
    refine ⟨by decide, ⟨⟨fun _ hq => absurd hq List.not_mem_nil,
      fun _ hq => absurd hq List.not_mem_nil, hfunction⟩, fun _ hq => absurd hq List.not_mem_nil,
      fun _ hq => absurd hq List.not_mem_nil, fun q hq => Option.some.inj hq ▸ hresult.regular⟩,
      ⟨⟨fun _ hv => absurd hv List.not_mem_nil, Or.inl rfl⟩, fun q hq => ?_⟩⟩
    rcases (mem_parts_of_callback (by decide)).1 hq with hq | hq
    · exact absurd hq List.not_mem_nil
    · exact Option.some.inj hq ▸ hresult.tame
  have hdocumented : Documented stringLoaders :=
    fun f hf => ⟨(hload f hf).1, (hload f hf).2.regular⟩
  have htame : AllTame stringLoaders := fun f hf => (hload f hf).2.tame
  have hclear : areClear stringLoaders = false := by decide +kernel
  obtain ⟨-, -, hhanded, -, hdecides⟩ := shapeKey_decides_iff hdocumented
  refine ⟨hdocumented, htame, hclear, by decide +kernel, by decide +kernel,
    (hhanded listLoader).2 (by decide +kernel), fun h => ?_⟩
  rw [(hdecides htame).1 h] at hclear
  cases hclear

end Ambient
