import Mathlib.Data.List.Count
import Ambient.Proofs.Shape.Clash

/-!
# Values that are one of several strings

The key of a value that is one of several strings has these strings and nothing else.  So the key
does not tell whether the value is also described as an object, while its type is then an interface
and no choice of strings; and no fields of such an object play a part in the key.

## What is here

* `Param.Choiceless`, `quote_mem_keyChars_iff` — strings are given for no value that plays a part in
  a key, and how the key shows it.
* `weight`, `weight_of_swap` — how often a character stands in a type, and that replacing a part
  changes this for the whole as it does for the part.
* `exists_choice_clash` — two values with the key of one for which strings are given, which are
  written differently.
-/

set_option autoImplicit false

namespace Ambient

open Signature Reading

/-! ## Quotes in keys -/

/-- No strings are given that the value may be. -/
def Param.Choiceless (p : Param) : Prop := p.possibleValues = []

theorem Param.Choiceless.tame {p : Param} (h : p.Choiceless) : p.Tame :=
  ⟨fun _ hv => absurd (h ▸ hv) List.not_mem_nil, Or.inl h⟩

theorem Param.Throughout.mono {P Q : Param → Prop} (h : ∀ p, P p → Q p) {p : Param}
    (hp : p.Throughout P) : p.Throughout Q := by
  induction hp with
  | intro here _ ih => exact ⟨h _ here, ih⟩

section

variable {p q : Param}

/-- Strings are given for a value, or for one of its parts, unless they are given for none. -/
theorem not_throughout_cases {P : Param → Prop} (h : ¬ p.Throughout P) :
    ¬ P p ∨ ∃ f ∈ p.parts, ¬ f.Throughout P := by
  by_contra hnone
  rw [not_or, not_not] at hnone
  refine h ⟨hnone.1, fun f hf => ?_⟩
  by_contra hf2
  exact hnone.2 ⟨f, hf, hf2⟩

theorem kind_of_possibleValues (h : p.possibleValues ≠ []) : p.kind = .choice := by
  rw [Param.kind, List.isEmpty_eq_false_iff.2 h]
  rfl

theorem mem_fieldChars {c : Char} (h : c ∈ keyChars p) : c ∈ fieldChars p := by
  rw [fieldChars_eq]
  simp [h]

/-- The key of a field stands among the keys that are joined. -/
theorem mem_joinedKeys {fields : List Param} {c : Char} (hq : q ∈ fields) (hc : c ∈ fieldChars q) :
    c ∈ [';'].intercalate ((sortedKeys fields).map String.toList) := by
  have hkey : fieldKey TypeMap.builtin q ∈ sortedKeys fields :=
    (sortedKeys_perm _).mem_iff.2 (List.mem_map_of_mem hq)
  exact mem_intercalate_of_mem [';'] (List.mem_map_of_mem hkey) hc

/-- The key of a part stands in the key of the whole. -/
theorem mem_keyChars_of_mem_parts {c : Char} (hq : q ∈ p.parts) (hc : c ∈ keyChars q) :
    c ∈ keyChars p := by
  rw [keyChars_eq]
  refine List.mem_append_left _ ?_
  cases hk : p.kind with
  | choice =>
    rw [Param.parts, hk] at hq
    cases hq
  | shape =>
    have hmem := mem_joinedKeys ((mem_parts_of_shape hk).1 hq) (mem_fieldChars hc)
    rw [baseChars_of_shape hk, joinedChars]
    simp [hmem]
  | callback =>
    rw [baseChars_of_callback hk]
    rcases (mem_parts_of_callback hk).1 hq with hq | hq
    · have hmem := mem_intercalate_of_mem [','] (List.mem_map_of_mem hq) (mem_fieldChars hc)
      simp [hmem]
    · rw [hq, resultChars_some]
      simp [hc]
  | plain =>
    rw [Param.parts, hk] at hq
    cases hq

theorem quote_not_mem_of_isNameChar {u : List Char} (h : ∀ c ∈ u, isNameChar c = true) :
    '\'' ∉ u := fun hc => absurd (h _ hc) (by decide)

theorem quote_not_mem_fieldChars (hname : isIdentifier p.name = true) (h : '\'' ∉ keyChars p) :
    '\'' ∉ fieldChars p := by
  have hmark : '\'' ∉ (optionalMark p).toList := by
    rw [optionalMark]
    split <;> decide
  rw [fieldChars_eq, List.mem_append, List.mem_append, List.mem_cons, not_or, not_or, not_or]
  exact ⟨⟨quote_not_mem_of_isNameChar (isNameChar_of_mem hname), hmark⟩, by decide, h⟩

/-- A quote in the key of an object stands in the key of a field. -/
theorem quote_mem_joinedChars_iff {fields : List Param}
    (h : ∀ f ∈ fields, isIdentifier f.name = true) :
    '\'' ∈ joinedChars fields ↔ ∃ f ∈ fields, '\'' ∈ keyChars f := by
  rw [joinedChars, List.mem_cons, List.mem_append]
  constructor
  · rintro (hc | hc | hc)
    · exact absurd hc (by decide)
    · rcases mem_of_mem_intercalate hc with hsep | ⟨u, hu, hcu⟩
      · exact absurd hsep (by decide)
      · obtain ⟨f, hf, rfl⟩ := exists_of_mem_sortedKeys hu
        refine ⟨f, hf, ?_⟩
        by_contra hnone
        exact quote_not_mem_fieldChars (h f hf) hnone hcu
    · exact absurd hc (by decide)
  · rintro ⟨f, hf, hc⟩
    exact Or.inr (Or.inl (mem_joinedKeys hf (mem_fieldChars hc)))

/-- Where no strings are given, there are no quotes in the key. -/
theorem quote_not_mem_keyChars (hp : p.Every Param.Regular) (h : p.Throughout Param.Choiceless) :
    '\'' ∉ keyChars p := by
  induction p using Param.induct_parts with
  | step p ih =>
    have hpart : ∀ f ∈ p.parts, '\'' ∉ keyChars f := fun f hf =>
      ih f hf (hp.of_mem_parts hf) (h.of_mem hf)
    have hmark : '\'' ∉ markChars p.collection := by
      cases p.collection <;> decide
    rw [keyChars_eq, List.mem_append, not_or]
    refine ⟨fun hc => ?_, hmark⟩
    cases hk : p.kind with
    | choice => exact possibleValues_ne_nil hk h.here
    | shape =>
      rw [baseChars_of_shape hk, quote_mem_joinedChars_iff hp.here.properties] at hc
      obtain ⟨f, hf, hcf⟩ := hc
      exact hpart f ((mem_parts_of_shape hk).2 hf) hcf
    | callback =>
      rw [baseChars_of_callback hk, List.mem_cons, List.mem_append] at hc
      rcases hc with hc | hc | hc
      · exact absurd hc (by decide)
      · rcases mem_of_mem_intercalate hc with hsep | ⟨u, hu, hcu⟩
        · exact absurd hsep (by decide)
        · obtain ⟨f, hf, rfl⟩ := List.mem_map.1 hu
          exact quote_not_mem_fieldChars (hp.here.parameters f hf)
            (hpart f ((mem_parts_of_callback hk).2 (Or.inl hf))) hcu
      · simp only [List.mem_cons] at hc
        rcases hc with hc | hc | hc | hc
        · exact absurd hc (by decide)
        · exact absurd hc (by decide)
        · exact absurd hc (by decide)
        · cases hreturns : p.returns with
          | none =>
            rw [hreturns, resultChars_none] at hc
            exact absurd hc (by decide)
          | some r =>
            rw [hreturns, resultChars_some] at hc
            exact hpart r ((mem_parts_of_callback hk).2 (Or.inr hreturns)) hc
    | plain =>
      rw [baseChars_of_plain hk] at hc
      exact absurd (isTypeChar_of_mem_spelling hp.here.type _ hc) (by decide)

/-- **The key has a quote if and only if strings are given** for a value that plays a part in it. -/
theorem quote_mem_keyChars_iff (hp : p.Every Param.Regular) :
    '\'' ∈ keyChars p ↔ ¬ p.Throughout Param.Choiceless := by
  constructor
  · intro hc h
    exact quote_not_mem_keyChars hp h hc
  · intro h
    induction p using Param.induct_parts with
    | step p ih =>
      rcases not_throughout_cases h with hhere | ⟨f, hf, hpart⟩
      · rcases List.eq_nil_or_concat' p.possibleValues with hnone | ⟨front, v, hvalues⟩
        · exact absurd hnone hhere
        · rw [keyChars_eq, baseChars_of_choice (kind_of_possibleValues hhere), hvalues,
            List.map_append, List.map_singleton, intercalate_concat]
          simp [quoted]
      · exact mem_keyChars_of_mem_parts hf (ih f hf (hp.of_mem_parts hf) hpart)

/-! ## How often a character stands in a type -/

/-- How often the letter `x` stands in a text. -/
def weight (s : String) : Nat := s.toList.count 'x'

theorem weight_arrayOf (s : String) : weight (arrayOf s) = weight s := by
  rw [arrayOf_eq]
  split
  · rw [weight, String.toList_append, String.toList_append, List.count_append, List.count_append]
    simp [weight]
  · rw [weight, String.toList_append, List.count_append]
    simp [weight]

theorem weight_collected (collection : Bool) (s : String) :
    weight (collected collection s) = weight s := by
  rw [collected]
  split
  · exact weight_arrayOf s
  · rfl

/-- The order of statements has no weight. -/
theorem weight_braced (lines : List String) :
    weight (braced lines) = (lines.flatMap String.toList).count 'x' := by
  have hperm := (List.mergeSort_perm lines fun a b => !decide (b < a)).flatMap_right String.toList
  rw [weight, toList_braced, List.count_cons_of_ne (by decide), List.count_append, hperm.count_eq]
  rfl

theorem weight_fieldText (f : Param) (type : String) :
    weight (fieldText f type) = weight (fieldText f "") + weight type := by
  rw [weight, weight, toList_fieldText, toList_fieldText, statementChars, statementChars, weight]
  simp only [List.count_append, List.count_cons, List.count_nil, String.toList_empty]
  omega

/-- **Replacing a part changes the weight** of the whole as it changes that of the part. -/
theorem weight_of_swap {f g : Param} (h : Param.Swap f g p q) (hfg : f.Alike g) :
    weight (expandedType TypeMap.builtin q) + weight (expandedType TypeMap.builtin f)
      = weight (expandedType TypeMap.builtin p) + weight (expandedType TypeMap.builtin g) := by
  rw [expandedType_eq_collected _ (Or.inl h.possibleValues_eq.1),
    expandedType_eq_collected _ (Or.inl h.possibleValues_eq.2), weight_collected, weight_collected]
  rcases frame_of_swap h hfg with ⟨before, behind, hp, hq⟩ | ⟨hk, front, back, hp, hq⟩
  · rw [weight, weight, weight, weight, hp, hq]
    simp only [List.count_append]
    omega
  · have hf := weight_fieldText f (expandedType TypeMap.builtin f)
    have hg := weight_fieldText f (expandedType TypeMap.builtin g)
    rw [baseType_of_shape _ hk, baseType_of_shape _ (h.kind_eq.trans hk), weight_braced,
      weight_braced, hp, hq]
    rw [weight] at hf hg
    simp only [List.flatMap_append, List.flatMap_cons, List.count_append, hf, hg]
    omega

/-! ## Clashes -/

/-- A field of which nothing is known but its name. -/
def unknownField (field : String) : Param :=
  ({ name := field } : Param).plainly (.name "any") false

/-- In the place of `p`, an object of which one field is known. -/
def Param.described (p : Param) (field : String) : Param :=
  { p with type := .name "Object", properties := [unknownField field] }

theorem expandedType_unknownField (field : String) :
    expandedType TypeMap.builtin (unknownField field) = "any" := by
  have hany : TypeMap.builtin.mapType (.name "any") = "any" := by decide +kernel
  rw [unknownField, expandedType_eq_collected _ (Or.inl rfl), baseType_of_plain _ kind_plainly]
  exact hany

theorem regular_described {field : String} (hfield : isIdentifier field = true)
    (hp : p.Every Param.Regular) : (p.described field).Every Param.Regular := by
  obtain ⟨hhere, -, hparameters, hreturns⟩ := hp
  have hany : (TypeRef.name "any").Named :=
    named_name.2 ⟨"any", 0, by decide, Nat.zero_le 1, by decide⟩
  refine ⟨⟨fun r hr => ?_, hhere.parameters, ?_⟩, fun r hr => ?_, hparameters, hreturns⟩
  · rw [List.mem_singleton.1 hr]
    exact hfield
  · exact named_name.2 ⟨"Object", 0, by decide, Nat.zero_le 1, by decide⟩
  · rw [List.mem_singleton.1 hr]
    exact (readable_plainly hany).regular

/-- The field does not show in the key. -/
theorem alike_described (h : p.possibleValues ≠ []) (field : String) :
    p.Alike (p.described field) := by
  refine ⟨rfl, rfl, ?_⟩
  have hkind : (p.described field).kind = .choice := kind_of_possibleValues h
  rw [keyChars_eq, keyChars_eq, baseChars_of_choice (kind_of_possibleValues h),
    baseChars_of_choice hkind]
  rfl

/-- But it shows in the type. -/
theorem weight_described (p : Param) (field : String) :
    weight (expandedType TypeMap.builtin (p.described field))
      = weight (fieldText (unknownField field) "any") := by
  have hshape : (p.described field).isObjectShape = true := by
    have hnamed : (TypeRef.name "Object").isNamed "Object" = true := by decide
    rw [Param.isObjectShape, Param.described, hnamed]
    rfl
  have hstatements : statements TypeMap.builtin (p.described field).properties
      = [fieldText (unknownField field) "any"] := by
    rw [Param.described, statements_eq_map, List.map_singleton, expandedType_unknownField]
  rw [expandedType_eq, if_pos hshape, weight_collected, hstatements, weight_braced,
    List.flatMap_singleton, weight]

/-- **Where strings are given, the key does not decide how the value is written.** -/
theorem exists_choice_clash (hp : p.Every Param.Regular) (h : ¬ p.Throughout Param.Choiceless) :
    ∃ q r : Param, q.Every Param.Regular ∧ r.Every Param.Regular ∧ p.Alike q ∧ p.Alike r ∧
      weight (expandedType TypeMap.builtin q) ≠ weight (expandedType TypeMap.builtin r) := by
  induction p using Param.induct_parts with
  | step p ih =>
    rcases not_throughout_cases h with hhere | ⟨f, hf, hpart⟩
    · refine ⟨p.described "x", p.described "y", regular_described (by decide) hp,
        regular_described (by decide) hp, alike_described hhere _, alike_described hhere _, ?_⟩
      rw [weight_described, weight_described]
      decide
    · obtain ⟨g, g2, hg, hg2, hfg, hfg2, hne⟩ := ih f hf (hp.of_mem_parts hf) hpart
      obtain ⟨q, hq⟩ := exists_swap hf g
      obtain ⟨r, hr⟩ := exists_swap hf g2
      refine ⟨q, r, hq.regular hp hg hfg.name, hr.regular hp hg2 hfg2.name, hq.alike hfg,
        hr.alike hfg2, fun heq => hne ?_⟩
      have hqw := weight_of_swap hq hfg
      have hrw := weight_of_swap hr hfg2
      omega

end

end Ambient
