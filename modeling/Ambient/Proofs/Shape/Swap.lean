import Ambient.Proofs.Shape.Sound

/-!
# One value for another

If a value that plays a part in a key is replaced by one that has the same key, the whole keeps its
key.  What the whole says changes where that value is written, and nowhere else: so it changes if
the two values are written differently.

## What is here

* `Param.Alike` — two values have the same name, mark and key.
* `Param.Swap f g p q` — `q` is `p` with `g` for `f`; `Param.Swap.alike`, `Param.Swap.readable`.
* `frame_of_swap` — the types of `p` and `q` have one frame around the types of `f` and `g`.
* `Param.Swap.expandedType_ne` — if `f` and `g` are written differently, then so are `p` and `q`.
-/

set_option autoImplicit false

namespace Ambient

open Signature Reading

/-! ## Values with one key -/

/-- The values have the same name, mark and key. -/
structure Param.Alike (p q : Param) : Prop where
  name : q.name = p.name
  mark : q.isOptional = p.isOptional
  key : keyChars q = keyChars p

section

variable {f g p q : Param}

theorem Param.Alike.optionalMark_eq (h : f.Alike g) : optionalMark g = optionalMark f := by
  rw [optionalMark, optionalMark, h.mark]

theorem Param.Alike.fieldChars_eq (h : f.Alike g) : fieldChars g = fieldChars f := by
  rw [Ambient.fieldChars_eq, Ambient.fieldChars_eq, h.name, h.optionalMark_eq, h.key]

theorem Param.Alike.fieldKey_eq (h : f.Alike g) :
    fieldKey TypeMap.builtin g = fieldKey TypeMap.builtin f :=
  String.toList_inj.1 h.fieldChars_eq

/-- Fields with the same keys make an object with the same key. -/
theorem joinedChars_of_alike (h : f.Alike g) (front back : List Param) :
    joinedChars (front ++ g :: back) = joinedChars (front ++ f :: back) := by
  rw [joinedChars, joinedChars, sortedKeys, sortedKeys, List.map_append, List.map_append,
    List.map_cons, List.map_cons, h.fieldKey_eq]

end

/-! ## Replacing a part -/

/-- The second value is the first with `g` in the place of `f`. -/
inductive Param.Swap (f g : Param) : Param → Param → Prop
  | property {p : Param} {front back : List Param} (hk : p.kind = .shape)
      (h : p.properties = front ++ f :: back) :
      Swap f g p { p with properties := front ++ g :: back }
  | parameter {p : Param} {front back : List Param} (hk : p.kind = .callback)
      (h : p.parameters = front ++ f :: back) :
      Swap f g p { p with parameters := front ++ g :: back }
  | result {p : Param} (hk : p.kind = .callback) (h : p.returns = some f) :
      Swap f g p { p with returns := some g }

/-- Whatever plays a part can be replaced. -/
theorem exists_swap {f p : Param} (hf : f ∈ p.parts) (g : Param) : ∃ q, Param.Swap f g p q := by
  rw [Param.parts] at hf
  split at hf
  · cases hf
  · rename_i hk
    obtain ⟨front, back, h⟩ := List.append_of_mem hf
    exact ⟨_, .property hk h⟩
  · rename_i hk
    rcases List.mem_append.1 hf with hf | hf
    · obtain ⟨front, back, h⟩ := List.append_of_mem hf
      exact ⟨_, .parameter hk h⟩
    · exact ⟨_, .result hk (by simpa using hf)⟩
  · cases hf

/-- What holds of all members of a list holds still when one is replaced. -/
theorem forall_mem_of_replaced {P : Param → Prop} {f g : Param} {front back : List Param}
    (h : ∀ r ∈ front ++ f :: back, P r) (hg : P f → P g) : ∀ r ∈ front ++ g :: back, P r := by
  intro r hr
  rcases List.mem_append.1 hr with hr | hr
  · exact h r (List.mem_append_left _ hr)
  · rcases List.mem_cons.1 hr with rfl | hr
    · exact hg (h f (by simp))
    · exact h r (by simp [hr])

theorem kind_eq_callback_iff {p : Param} :
    p.kind = .callback ↔ p.possibleValues = [] ∧ p.isObjectShape = false ∧ p.isCallback = true := by
  rw [Param.kind]
  cases p.possibleValues with
  | nil => cases p.isObjectShape <;> cases p.isCallback <;> simp
  | cons v rest => simp

theorem kind_eq_shape_iff {p : Param} :
    p.kind = .shape ↔ p.possibleValues = [] ∧ p.isObjectShape = true := by
  rw [Param.kind]
  cases p.possibleValues with
  | nil => cases p.isObjectShape <;> cases p.isCallback <;> simp
  | cons v rest => simp

/-- A function stays one if it has a parameter or a result. -/
theorem kind_of_callback {p : Param} (hk : p.kind = .callback) (collection : Bool)
    {parameters : List Param} {returns : Option Param}
    (h : parameters ≠ [] ∨ returns.isSome = true) :
    ({ p with collection := collection, parameters := parameters, returns := returns } : Param).kind
      = .callback := by
  obtain ⟨hvalues, hshape, hcallback⟩ := kind_eq_callback_iff.1 hk
  refine kind_eq_callback_iff.2 ⟨hvalues, hshape, ?_⟩
  have hfunction : p.isFunction = true := Param.isFunction_of_isCallback hcallback
  rw [Param.isCallback, Bool.and_eq_true]
  refine ⟨hfunction, ?_⟩
  rw [Bool.or_eq_true, Bool.not_eq_true', List.isEmpty_eq_false_iff]
  exact h

namespace Param.Swap

variable {f g p q : Param}

theorem kind_eq (h : Swap f g p q) : q.kind = p.kind := by
  cases h with
  | property hk h =>
    obtain ⟨hvalues, hshape⟩ := kind_eq_shape_iff.1 hk
    rw [Param.isObjectShape, Bool.and_eq_true] at hshape
    rw [hk]
    refine kind_eq_shape_iff.2 ⟨hvalues, ?_⟩
    rw [Param.isObjectShape, Bool.and_eq_true]
    exact ⟨hshape.1, by simp⟩
  | parameter hk h => rw [hk, kind_of_callback hk p.collection (Or.inl (by simp))]
  | result hk h => rw [hk, kind_of_callback hk p.collection (Or.inr rfl)]

theorem collection_eq (h : Swap f g p q) : q.collection = p.collection := by
  cases h <;> rfl

theorem possibleValues_eq (h : Swap f g p q) : p.possibleValues = [] ∧ q.possibleValues = [] := by
  cases h with
  | property hk h => exact ⟨(kind_eq_shape_iff.1 hk).1, (kind_eq_shape_iff.1 hk).1⟩
  | parameter hk h => exact ⟨(kind_eq_callback_iff.1 hk).1, (kind_eq_callback_iff.1 hk).1⟩
  | result hk h => exact ⟨(kind_eq_callback_iff.1 hk).1, (kind_eq_callback_iff.1 hk).1⟩

/-- What plays a part afterwards is what has been put in, or has played a part before. -/
theorem of_mem_parts {r : Param} (h : Swap f g p q) (hr : r ∈ q.parts) : r = g ∨ r ∈ p.parts := by
  have hkind := h.kind_eq
  cases h with
  | property hk h =>
    rw [mem_parts_of_shape (hkind.trans hk)] at hr
    rw [mem_parts_of_shape hk, h]
    simp only [List.mem_append, List.mem_cons] at hr ⊢
    tauto
  | parameter hk h =>
    rw [mem_parts_of_callback (hkind.trans hk)] at hr
    rw [mem_parts_of_callback hk, h]
    simp only [List.mem_append, List.mem_cons] at hr ⊢
    tauto
  | result hk h =>
    rw [mem_parts_of_callback (hkind.trans hk)] at hr
    rw [mem_parts_of_callback hk]
    rcases hr with hr | hr
    · exact Or.inr (Or.inl hr)
    · exact Or.inl (Option.some.inj hr).symm

/-- **The whole keeps its key.** -/
theorem alike (h : Swap f g p q) (hfg : f.Alike g) : p.Alike q := by
  have hkind := h.kind_eq
  cases h with
  | property hk h =>
    refine ⟨rfl, rfl, ?_⟩
    rw [keyChars_eq, keyChars_eq, baseChars_of_shape hk, baseChars_of_shape (hkind.trans hk), h,
      joinedChars_of_alike hfg]
  | parameter hk h =>
    refine ⟨rfl, rfl, ?_⟩
    rw [keyChars_eq, keyChars_eq, baseChars_of_callback hk, baseChars_of_callback (hkind.trans hk),
      h, List.map_append, List.map_append, List.map_cons, List.map_cons, hfg.fieldChars_eq]
  | result hk h =>
    refine ⟨rfl, rfl, ?_⟩
    rw [keyChars_eq, keyChars_eq, baseChars_of_callback hk, baseChars_of_callback (hkind.trans hk),
      h, resultChars_some, resultChars_some, hfg.key]

/-- The whole is described with identifiers still. -/
theorem regular (h : Swap f g p q) (hp : p.Every Param.Regular) (hg : g.Every Param.Regular)
    (hname : g.name = f.name) : q.Every Param.Regular := by
  obtain ⟨⟨hproperties, hparameters, htype⟩, hinproperties, hinparameters, hreturns⟩ := hp
  cases h with
  | property hk h =>
    rw [h] at hproperties hinproperties
    exact ⟨⟨forall_mem_of_replaced hproperties fun hf => hname ▸ hf, hparameters, htype⟩,
      forall_mem_of_replaced hinproperties fun _ => hg, hinparameters, hreturns⟩
  | parameter hk h =>
    rw [h] at hparameters hinparameters
    exact ⟨⟨hproperties, forall_mem_of_replaced hparameters fun hf => hname ▸ hf, htype⟩,
      hinproperties, forall_mem_of_replaced hinparameters fun _ => hg, hreturns⟩
  | result hk h =>
    exact ⟨⟨hproperties, hparameters, htype⟩, hinproperties, hinparameters,
      fun r hr => Option.some.inj hr ▸ hg⟩

/-- The key of the whole can be read still. -/
theorem readable (h : Swap f g p q) (hp : p.Readable) (hg : g.Readable) (hname : g.name = f.name) :
    q.Readable := by
  refine ⟨h.regular hp.regular hg.regular hname, ⟨⟨fun v hv => ?_, ?_⟩, fun r hr => ?_⟩⟩
  · rw [h.possibleValues_eq.2] at hv
    cases hv
  · exact Or.inl h.possibleValues_eq.2
  · rcases h.of_mem_parts hr with rfl | hr
    · exact hg.tame
    · exact hp.tame.of_mem hr

end Param.Swap

/-! ## The frame around a part -/

/-- A parameter in front of its type. -/
def parameterStem (p : Param) : List Char :=
  (parameterName p.name).toList ++ (optionalMark p).toList ++ [':', ' ']

theorem toList_parameterText (p : Param) (type : String) :
    (parameterText p type).toList = parameterStem p ++ type.toList := by
  rw [parameterText, String.toList_append, String.toList_append, String.toList_append,
    parameterStem]
  rfl

section

variable {f g p q : Param}

theorem parameterStem_eq (h : f.Alike g) : parameterStem g = parameterStem f := by
  rw [parameterStem, parameterStem, h.name, h.optionalMark_eq]

theorem fieldText_eq_of_alike (h : f.Alike g) (type : String) :
    fieldText g type = fieldText f type := by
  rw [fieldText, fieldText, h.name, h.optionalMark_eq]

/-- **Both wholes have one frame** around the types of the parts: texts on both sides, or the
statements of the other fields. -/
theorem frame_of_swap (h : Param.Swap f g p q) (hfg : f.Alike g) :
    (∃ before behind,
        (baseType TypeMap.builtin p).toList
          = before ++ ((expandedType TypeMap.builtin f).toList ++ behind) ∧
        (baseType TypeMap.builtin q).toList
          = before ++ ((expandedType TypeMap.builtin g).toList ++ behind)) ∨
      p.kind = .shape ∧ ∃ front back,
        statements TypeMap.builtin p.properties
          = front ++ fieldText f (expandedType TypeMap.builtin f) :: back ∧
        statements TypeMap.builtin q.properties
          = front ++ fieldText f (expandedType TypeMap.builtin g) :: back := by
  have hkind := h.kind_eq
  cases h with
  | @property front back hk h =>
    refine Or.inr ⟨hk, statements TypeMap.builtin front, statements TypeMap.builtin back, ?_, ?_⟩
    · rw [h, statements_append_cons]
    · rw [statements_append_cons, fieldText_eq_of_alike hfg]
  | @parameter front back hk h =>
    obtain ⟨before, behind, hframe⟩ := exists_frame_of_intercalate [',', ' ']
      (front.map fun r => (parameterText r (expandedType TypeMap.builtin r)).toList)
      (back.map fun r => (parameterText r (expandedType TypeMap.builtin r)).toList)
    have htexts : ∀ r : Param,
        (expandedTexts TypeMap.builtin (front ++ r :: back)).map String.toList
          = front.map (fun r => (parameterText r (expandedType TypeMap.builtin r)).toList)
            ++ (parameterStem r ++ (expandedType TypeMap.builtin r).toList)
              :: back.map fun r => (parameterText r (expandedType TypeMap.builtin r)).toList := by
      intro r
      rw [expandedTexts_eq_map, List.map_map, List.map_append, List.map_cons, Function.comp_apply,
        toList_parameterText]
      rfl
    refine Or.inl ⟨'(' :: (before ++ parameterStem f), behind ++ ')' :: ' ' :: '=' :: '>' :: ' ' ::
      (expandedResult TypeMap.builtin p.returns).toList, ?_, ?_⟩
    · rw [baseType_of_callback _ hk, toList_arrow, h, htexts, hframe]
      simp
    · rw [baseType_of_callback _ (hkind.trans hk), toList_arrow, htexts, hframe,
        parameterStem_eq hfg]
      simp
  | result hk h =>
    refine Or.inl ⟨'(' :: ([',', ' '].intercalate ((expandedTexts TypeMap.builtin
      p.parameters).map String.toList) ++ [')', ' ', '=', '>', ' ']), [], ?_, ?_⟩
    · rw [baseType_of_callback _ hk, toList_arrow, h, expandedResult]
      simp
    · rw [baseType_of_callback _ (hkind.trans hk), toList_arrow, expandedResult]
      simp

/-! ## Types that differ -/

theorem isInfix_of_toList {s t : String} {u v : List Char} (h : t.toList = u ++ s.toList ++ v)
    {part : List Char} (hs : Text.occursIn part s.toList = true) :
    Text.occursIn part t.toList = true := by
  rw [Text.occursIn_iff] at hs ⊢
  exact hs.trans ⟨u, v, h.symm⟩

/-- Parentheses are put around a type where a bar or an arrow occurs in it. -/
theorem arrayOf_eq (s : String) :
    arrayOf s = if Text.occursIn bar s.toList || Text.occursIn ['=', '>'] s.toList then
      "(" ++ s ++ ")[]" else s ++ "[]" := rfl

/-- **Array types are different** if the types of their elements are. -/
theorem arrayOf_injective {s t : String} (h : arrayOf s = arrayOf t) : s = t := by
  -- If there are parentheses on one side only, they are part of the type on the other.
  have hone : ∀ s t : String,
      (Text.occursIn bar s.toList || Text.occursIn ['=', '>'] s.toList) = true →
      (Text.occursIn bar t.toList || Text.occursIn ['=', '>'] t.toList) = false →
      "(" ++ s ++ ")[]" ≠ t ++ "[]" := by
    intro s t hs ht heq
    have heq2 := congrArg String.toList heq
    have hmark : ("(" ++ s ++ ")[]" : String).toList
        = (['('] ++ s.toList ++ [')']) ++ "[]".toList := by
      rw [String.toList_append, String.toList_append, List.append_assoc _ [')']]
      rfl
    rw [hmark, String.toList_append] at heq2
    have ht2 := (List.append_cancel_right heq2).symm
    rw [Bool.or_eq_true] at hs
    rw [Bool.or_eq_false_iff] at ht
    rcases hs with hs | hs
    · rw [isInfix_of_toList ht2 hs] at ht
      cases ht.1
    · rw [isInfix_of_toList ht2 hs] at ht
      cases ht.2
  rw [arrayOf_eq, arrayOf_eq] at h
  split at h
  · rename_i hs
    split at h
    · have h2 := congrArg String.toList h
      simp only [String.toList_append] at h2
      exact String.toList_inj.1 (List.append_cancel_left (List.append_cancel_right h2))
    · rename_i ht
      exact absurd h (hone s t hs (Bool.not_eq_true _ ▸ ht))
  · rename_i hs
    split at h
    · rename_i ht
      exact absurd h.symm (hone t s ht (Bool.not_eq_true _ ▸ hs))
    · have h2 := congrArg String.toList h
      rw [String.toList_append, String.toList_append] at h2
      exact String.toList_inj.1 (List.append_cancel_right h2)

theorem collected_injective {s t : String} {collection : Bool}
    (h : collected collection s = collected collection t) : s = t := by
  rw [collected, collected] at h
  split at h
  · exact arrayOf_injective h
  · exact h

/-- Statements can be read off what stands between braces, but for their order. -/
theorem perm_of_braced_eq {fields others : List Param}
    (hf : ∀ f ∈ fields, isIdentifier f.name = true ∧ f.Readable)
    (ho : ∀ f ∈ others, isIdentifier f.name = true ∧ f.Readable)
    (h : braced (statements TypeMap.builtin fields) = braced (statements TypeMap.builtin others)) :
    (statements TypeMap.builtin fields).Perm (statements TypeMap.builtin others) := by
  have hline : ∀ gs : List Param, (∀ f ∈ gs, isIdentifier f.name = true ∧ f.Readable) →
      ∀ u ∈ ((statements TypeMap.builtin gs).mergeSort fun a b => !decide (b < a)).map
          String.toList, ∃ w, u = w ++ [';'] ∧ Level w := by
    intro gs hgs u hu
    obtain ⟨line, hmem, rfl⟩ := List.mem_map.1 hu
    obtain ⟨f, hf, rfl⟩ := statements_of_mem ((List.mergeSort_perm _ _).mem_iff.1 hmem)
    exact ⟨_, toList_fieldText _ _,
      level_statementChars (hgs f hf).1 (level_expandedType (hgs f hf).2)⟩
  have h2 := congrArg String.toList h
  rw [toList_braced, toList_braced, List.flatMap_def, List.flatMap_def] at h2
  have hsame := eq_of_terminated_eq (by decide) (by decide) (hline fields hf) (hline others ho)
    (List.cons.inj h2).2
  -- In the same order, the statements are the same.
  have hinj : Function.Injective String.toList := fun a b hab => String.toList_inj.1 hab
  have hsorted := List.map_injective_iff.2 hinj hsame
  have hperm := List.mergeSort_perm (statements TypeMap.builtin fields) fun a b => !decide (b < a)
  rw [hsorted] at hperm
  exact hperm.symm.trans (List.mergeSort_perm _ _)

/-- Where one member of a list is replaced, and the list is permuted, the member is the same. -/
theorem eq_of_perm_replaced {x y : String} {front back : List String}
    (h : (front ++ x :: back).Perm (front ++ y :: back)) : x = y := by
  rw [List.perm_append_left_iff, ← List.singleton_append, ← List.singleton_append (x := y),
    List.perm_append_right_iff] at h
  exact List.singleton_perm_singleton.1 h

theorem fieldText_injective {type type2 : String} (h : fieldText f type = fieldText f type2) :
    type = type2 := by
  have h2 := congrArg String.toList h
  rw [toList_fieldText, toList_fieldText, statementChars, statementChars] at h2
  have h3 := List.append_cancel_left (List.append_cancel_right h2)
  exact String.toList_inj.1 (List.cons.inj (List.cons.inj h3).2).2

/-- **If the parts are written differently, then so are the wholes.** -/
theorem Param.Swap.expandedType_ne (h : Param.Swap f g p q) (hfg : f.Alike g) (hp : p.Readable)
    (hg : g.Readable) (hne : expandedType TypeMap.builtin g ≠ expandedType TypeMap.builtin f) :
    expandedType TypeMap.builtin q ≠ expandedType TypeMap.builtin p := by
  intro heq
  have hq := h.readable hp hg hfg.name
  rw [expandedType_eq_collected _ (Or.inl h.possibleValues_eq.1),
    expandedType_eq_collected _ (Or.inl h.possibleValues_eq.2), h.collection_eq] at heq
  have hbase := collected_injective heq
  rcases frame_of_swap h hfg with ⟨before, behind, hp2, hq2⟩ | ⟨hk, front, back, hp2, hq2⟩
  · rw [← hbase, hq2] at hp2
    exact hne (String.toList_inj.1 (List.append_cancel_right (List.append_cancel_left hp2)))
  · have hkq := h.kind_eq.trans hk
    rw [baseType_of_shape _ hk, baseType_of_shape _ hkq] at hbase
    have hperm := perm_of_braced_eq
      (fun r hr => ⟨hq.regular.here.properties r hr,
        hq.of_mem_parts ((mem_parts_of_shape hkq).2 hr)⟩)
      (fun r hr => ⟨hp.regular.here.properties r hr,
        hp.of_mem_parts ((mem_parts_of_shape hk).2 hr)⟩) hbase
    rw [hp2, hq2] at hperm
    exact hne (fieldText_injective (eq_of_perm_replaced hperm))

end
end Ambient
