import Ambient.Proofs.Shape.Swap

/-!
# Keys that can be read in two ways

Where the key of a function, or of a choice of types, ends with a `[]` that may belong to the whole
as well as to the last part, there are two values with that key: one is a collection, and the type
of its elements stands between parentheses; in the other the last part has the `[]`.  So a key that
is not clear does not decide how the value is written.

## What is here

* `Param.plainly`, `Param.returning`, `Param.marked` — values that are made for a key.
* `exists_longer`, `exists_shorter` — a value with one `[]` more, or less, at the end of its key.
* `exists_clash_here` — the two readings of a `[]`.
* `exists_clash` — to a value whose key is not clear there is another one with that key, which is
  written differently.
-/

set_option autoImplicit false

namespace Ambient

open Signature Reading

/-! ## Values made for a key -/

/-- In the place of `p`, a value that is known by its type only. -/
def Param.plainly (p : Param) (type : TypeRef) (collection : Bool) : Param :=
  ⟨p.name, type, p.description, p.required, collection, [], [], none, []⟩

/-- A function with the parameters of `p`, and another result. -/
def Param.returning (p result : Param) (collection : Bool) : Param :=
  { p with collection := collection, returns := some result }

/-- The value itself, or a collection of such values. -/
def Param.marked (p : Param) (collection : Bool) : Param := { p with collection := collection }

/-- The key of a function up to its result. -/
def callbackStem (p : Param) : List Char :=
  '(' :: ([','].intercalate (p.parameters.map fieldChars) ++ [')', '=', '>'])

section

variable {p r : Param} {type : TypeRef} {collection : Bool}

theorem kind_plainly : (p.plainly type collection).kind = .plain := by
  simp [Param.kind, Param.plainly, Param.isObjectShape, Param.isCallback]

theorem keyChars_plainly :
    keyChars (p.plainly type collection) = spelling type ++ markChars collection := by
  rw [keyChars_eq, baseChars_of_plain kind_plainly, Param.plainly]

theorem readable_plainly (h : type.Named) : (p.plainly type collection).Readable := by
  refine ⟨⟨⟨fun q hq => ?_, fun q hq => ?_, h⟩, fun q hq => ?_, fun q hq => ?_, fun q hq => ?_⟩,
    ⟨⟨fun v hv => ?_, Or.inl rfl⟩, fun q hq => ?_⟩⟩
  · cases hq
  · cases hq
  · cases hq
  · cases hq
  · cases hq
  · cases hv
  · rw [Param.parts, kind_plainly] at hq
    cases hq

theorem kind_returning (hk : p.kind = .callback) : (p.returning r collection).kind = .callback :=
  kind_of_callback hk collection (Or.inr rfl)

theorem baseChars_eq_callbackStem (hk : p.kind = .callback) :
    baseChars p = callbackStem p ++ resultChars p.returns := by
  rw [baseChars_of_callback hk, callbackStem]
  simp

theorem keyChars_returning (hk : p.kind = .callback) :
    keyChars (p.returning r collection) = callbackStem p ++ keyChars r ++ markChars collection := by
  rw [keyChars_eq, baseChars_eq_callbackStem (kind_returning hk), ← resultChars_some]
  rfl

theorem readable_returning (hk : p.kind = .callback) (hp : p.Readable) (hr : r.Readable) :
    (p.returning r collection).Readable := by
  obtain ⟨hhere, hproperties, hparameters, -⟩ := hp.regular
  have hvalues : p.possibleValues = [] := (kind_eq_callback_iff.1 hk).1
  refine ⟨⟨⟨hhere.properties, hhere.parameters, hhere.type⟩, hproperties, hparameters,
    fun q hq => Option.some.inj hq ▸ hr.regular⟩,
    ⟨⟨fun v hv => ?_, Or.inl hvalues⟩, fun q hq => ?_⟩⟩
  · rw [show (p.returning r collection).possibleValues = [] from hvalues] at hv
    cases hv
  · rcases (mem_parts_of_callback (kind_returning hk)).1 hq with hq | hq
    · exact hp.tame.of_mem ((mem_parts_of_callback hk).2 (Or.inl hq))
    · exact Option.some.inj hq ▸ hr.tame

theorem keyChars_marked : keyChars (p.marked collection) = baseChars p ++ markChars collection :=
  keyChars_eq _

theorem readable_marked (hp : p.Readable) : (p.marked collection).Readable := by
  obtain ⟨⟨hhere, hproperties, hparameters, hreturns⟩, ⟨htame, hparts⟩⟩ := hp
  exact ⟨⟨⟨hhere.properties, hhere.parameters, hhere.type⟩, hproperties, hparameters, hreturns⟩,
    ⟨⟨htame.quoteless, htame.simple⟩, hparts⟩⟩

end

/-! ## One mark more or less -/

/-- The key of a result that is not full may have a `[]` more, if that holds of what is returned. -/
theorem exists_longer_result {returns : Option Param} (hfull : isFullResult returns = false)
    (h : ∀ r, returns = some r → r.isFull = false →
      ∃ q : Param, q.Readable ∧ keyChars q = keyChars r ++ ['[', ']']) :
    ∃ q : Param, q.Readable ∧ keyChars q = resultChars returns ++ ['[', ']'] := by
  cases returns with
  | none =>
    have hvoid : spelling (.name "undefined") = resultChars none := by decide +kernel
    refine ⟨({} : Param).plainly (.name "undefined") true, readable_plainly ?_, ?_⟩
    · exact named_name.2 ⟨"undefined", 0, by decide, Nat.zero_le 1, by decide⟩
    · rw [keyChars_plainly, hvoid, markChars_true]
  | some r =>
    rw [resultChars_some]
    exact h r rfl hfull

/-- **A key that is not full may have a `[]` more.** -/
theorem exists_longer {p : Param} (hp : p.Readable) (hfull : p.isFull = false) :
    ∃ q : Param, q.Readable ∧ keyChars q = keyChars p ++ ['[', ']'] := by
  induction p using Param.induct with
  | step p _ _ returns =>
    cases hcollection : p.collection with
    | false =>
      refine ⟨p.marked true, readable_marked hp, ?_⟩
      rw [keyChars_marked, keyChars_eq, hcollection, markChars_false, List.append_nil,
        markChars_true]
    | true =>
      rw [Param.isFull_eq, hcollection, Bool.true_and] at hfull
      cases hk : p.kind with
      | choice =>
        rw [hk] at hfull
        cases hfull
      | shape =>
        rw [hk] at hfull
        cases hfull
      | callback =>
        rw [hk] at hfull
        obtain ⟨r, hr, hkey⟩ := exists_longer_result hfull fun r hr hrfull => returns r hr
          (hp.of_mem_parts ((mem_parts_of_callback hk).2 (Or.inr hr))) hrfull
        refine ⟨p.returning r true, readable_returning hk hp hr, ?_⟩
        rw [keyChars_returning hk, hkey, keyChars_eq, baseChars_eq_callbackStem hk, hcollection]
        simp
      | plain =>
        rw [hk] at hfull
        obtain ⟨grown, hgrown, hspelling⟩ := exists_grown hp.regular.here.type hfull
        refine ⟨p.plainly grown true, readable_plainly hgrown, ?_⟩
        rw [keyChars_plainly, hspelling, keyChars_eq, baseChars_of_plain hk, hcollection]
        rfl

theorem ne_append_mark {u v : List Char} {c : Char} (hc : c ≠ ']') :
    v ++ [c] ≠ u ++ ['[', ']'] := by
  intro h
  have hlast := congrArg List.getLast? h
  rw [List.getLast?_concat, List.getLast?_append] at hlast
  exact hc (Option.some.inj hlast)

/-- The key of a result with a `[]` at the end is that of a value that is returned. -/
theorem exists_shorter_result {p : Param} (hk : p.kind = .callback) {u : List Char}
    (h : baseChars p = u ++ ['[', ']']) : ∃ r v, p.returns = some r ∧
      keyChars r = v ++ ['[', ']'] ∧ u = callbackStem p ++ v := by
  rw [baseChars_eq_callbackStem hk] at h
  have hlast : (callbackStem p).getLast? = some '>' := by
    rw [callbackStem, ← List.cons_append, List.getLast?_append]
    rfl
  obtain ⟨v, hv, rfl⟩ := exists_of_append_eq_marked (by rw [hlast]; decide)
    (by rw [hlast]; decide) h
  cases hreturns : p.returns with
  | none =>
    rw [hreturns] at hv
    exact absurd hv (void_ne_append_arrayMarks v 0)
  | some r =>
    rw [hreturns, resultChars_some] at hv
    exact ⟨r, v, rfl, hv, rfl⟩

/-- **A key with a `[]` at the end may have one less.** -/
theorem exists_shorter {p : Param} (hp : p.Readable) {u : List Char}
    (h : keyChars p = u ++ ['[', ']']) : ∃ q : Param, q.Readable ∧ keyChars q = u := by
  induction p using Param.induct generalizing u with
  | step p _ _ returns =>
    rw [keyChars_eq] at h
    cases hcollection : p.collection with
    | true =>
      rw [hcollection, markChars_true] at h
      refine ⟨p.marked false, readable_marked hp, ?_⟩
      rw [keyChars_marked, markChars_false, List.append_nil, List.append_cancel_right h]
    | false =>
      rw [hcollection, markChars_false, List.append_nil] at h
      cases hk : p.kind with
      | choice =>
        rcases List.eq_nil_or_concat' p.possibleValues with hnone | ⟨front, v, hvalues⟩
        · exact absurd hnone (possibleValues_ne_nil hk)
        · rw [baseChars_of_choice hk, hvalues, List.map_append, List.map_singleton,
            intercalate_concat, quoted, ← List.cons_append, ← List.append_assoc] at h
          exact absurd h (ne_append_mark (by decide))
      | shape =>
        rw [baseChars_of_shape hk, joinedChars, ← List.cons_append] at h
        exact absurd h (ne_append_mark (by decide))
      | callback =>
        obtain ⟨r, v, hr, hv, rfl⟩ := exists_shorter_result hk h
        obtain ⟨r2, hr2, hkey⟩ := returns r hr
          (hp.of_mem_parts ((mem_parts_of_callback hk).2 (Or.inr hr))) hv
        refine ⟨p.returning r2 false, readable_returning hk hp hr2, ?_⟩
        rw [keyChars_returning hk, hkey, markChars_false, List.append_nil]
      | plain =>
        rw [baseChars_of_plain hk] at h
        obtain ⟨shrunk, hshrunk, hspelling⟩ := exists_shrunk hp.regular.here.type h
        refine ⟨p.plainly shrunk false, readable_plainly hshrunk, ?_⟩
        rw [keyChars_plainly, hspelling, markChars_false, List.append_nil]

/-- A bar in front of a `[]` stands in front of it entirely. -/
theorem occursIn_bar_of_append_mark {u : List Char}
    (h : Text.occursIn bar (u ++ ['[', ']']) = true) : Text.occursIn bar u = true := by
  rw [Text.occursIn_iff] at h ⊢
  obtain ⟨s, t, hst⟩ := h
  rcases List.append_eq_append_iff.1 hst with ⟨v, hu, -⟩ | ⟨v, hsplit, hmark⟩
  · exact ⟨s, v, hu.symm⟩
  · -- What is left of the bar is part of the `[]`, while the bar ends with a blank.
    rcases List.eq_nil_or_concat' v with rfl | ⟨front, c, rfl⟩
    · exact ⟨s, [], by rw [hsplit, List.append_nil, List.append_nil]⟩
    · have hlast := congrArg List.getLast? hsplit
      rw [bar, ← List.append_assoc, List.getLast?_concat, List.getLast?_append] at hlast
      have hblank : c = ' ' := (Option.some.inj hlast).symm
      have hmem : c ∈ ['[', ']'] := hmark ▸ by simp
      rw [hblank] at hmem
      exact absurd hmem (by decide)

/-! ## Where parentheses stand -/

theorem exists_append_of_intercalate (sep u : List Char) (us : List (List Char)) :
    ∃ v, sep.intercalate (u :: us) = u ++ v := by
  cases us with
  | nil => exact ⟨[], by simp⟩
  | cons w rest =>
    refine ⟨sep ++ sep.intercalate (w :: rest), ?_⟩
    rw [List.intercalate_cons_cons, List.append_assoc]

/-- A parameter does not begin with a parenthesis. -/
theorem exists_cons_of_parameterStem {p : Param} (h : isIdentifier p.name = true) :
    ∃ c rest, parameterStem p = c :: rest ∧ c ≠ '(' := by
  have hmark : '(' ∉ (optionalMark p).toList := by
    rw [optionalMark]
    split <;> decide
  have hne : ∀ c ∈ parameterStem p, c ≠ '(' := by
    intro c hc
    rw [parameterStem, List.mem_append, List.mem_append] at hc
    rcases hc with (hc | hc) | hc
    · exact ne_of_isNameChar (isNameChar_of_mem_parameterName h c hc) (by decide)
    · rintro rfl
      exact hmark hc
    · rintro rfl
      exact absurd hc (by decide)
  cases hstem : parameterStem p with
  | nil => exact absurd (congrArg List.length hstem) (by simp [parameterStem])
  | cons c rest => exact ⟨c, rest, rfl, hne c (by simp [hstem])⟩

/-- In front of a function type stands one parenthesis, so there are two in front of its array. -/
theorem opens_of_callback {p : Param} (hk : p.kind = .callback) (hp : p.Readable) :
    ['(', '('].isPrefixOf (expandedType TypeMap.builtin p).toList = p.collection := by
  rw [expandedType_eq_collected _ hp.tame.here.simple, baseType_of_callback _ hk]
  cases p.collection with
  | true =>
    have harrow : ∀ taken result, Text.occursIn ['=', '>'] (arrow taken result).toList = true := by
      intro taken result
      rw [Text.occursIn_iff, toList_arrow]
      exact ⟨'(' :: ([',', ' '].intercalate (taken.map String.toList) ++ [')', ' ']),
        ' ' :: result.toList, by simp⟩
    rw [collected, if_pos rfl, arrayOf_eq, harrow, Bool.or_true, if_pos rfl, String.toList_append,
      String.toList_append, toList_arrow]
    rfl
  | false =>
    rw [collected, if_neg (by decide), toList_arrow, expandedTexts_eq_map]
    cases hparameters : p.parameters with
    | nil => rfl
    | cons q rest =>
      obtain ⟨c, more, hstem, hc⟩ :=
        exists_cons_of_parameterStem (hp.regular.here.parameters q (by simp [hparameters]))
      rw [List.map_cons, List.map_cons, toList_parameterText, hstem]
      obtain ⟨v, hv⟩ := exists_append_of_intercalate [',', ' ']
        (c :: more ++ (expandedType TypeMap.builtin q).toList) ((rest.map fun r =>
          parameterText r (expandedType TypeMap.builtin r)).map String.toList)
      rw [hv]
      simp [List.isPrefixOf, hc.symm]

/-- In front of a choice of types stands no parenthesis, unless it is that of an array. -/
theorem opens_of_plain {p : Param} (hk : p.kind = .plain) (hp : p.Readable)
    (hbar : Text.occursIn bar (spelling p.type) = true) :
    ['('].isPrefixOf (expandedType TypeMap.builtin p).toList = p.collection := by
  have hbar2 : Text.occursIn bar (TypeMap.builtin.mapType p.type).toList = true := hbar
  rw [expandedType_eq_collected _ hp.tame.here.simple, baseType_of_plain _ hk]
  cases p.collection with
  | true =>
    rw [collected, if_pos rfl, arrayOf_eq, hbar2, Bool.true_or, if_pos rfl, String.toList_append,
      String.toList_append]
    rfl
  | false =>
    rw [collected, if_neg (by decide)]
    show ['('].isPrefixOf (spelling p.type) = false
    cases hspelling : spelling p.type with
    | nil => rfl
    | cons c rest =>
      have hc : c ≠ '(' := ne_of_isTypeChar
        (isTypeChar_of_mem_spelling hp.regular.here.type c (by simp [hspelling])) (by decide)
      simp [List.isPrefixOf, hc.symm]

/-! ## Clashes -/

section

variable {p : Param}

theorem alike_plainly {type : TypeRef} {collection : Bool}
    (hkey : spelling type ++ markChars collection = keyChars p) :
    p.Alike (p.plainly type collection) := ⟨rfl, rfl, keyChars_plainly.trans hkey⟩

theorem alike_returning (hk : p.kind = .callback) {r : Param} {collection : Bool}
    (hkey : callbackStem p ++ keyChars r ++ markChars collection = keyChars p) :
    p.Alike (p.returning r collection) := ⟨rfl, rfl, (keyChars_returning hk).trans hkey⟩

theorem isClearHere_eq_false : p.isClearHere = false ↔
    (∃ u, keyChars p = u ++ ['[', ']']) ∧ p.isFull = false := by
  rw [Param.isClearHere, Bool.or_eq_false_iff, Bool.not_eq_false', endsMarked_iff]

/-- **The two readings of a `[]`** behind the key of a function. -/
theorem exists_clash_of_callback (hk : p.kind = .callback) (hp : p.Readable)
    (hclear : p.isClearHere = false) : ∃ q : Param, q.Readable ∧ p.Alike q ∧
      expandedType TypeMap.builtin q ≠ expandedType TypeMap.builtin p := by
  obtain ⟨⟨u, hu⟩, hfull⟩ := isClearHere_eq_false.1 hclear
  -- The types open differently if one value is a collection and the other is not.
  have hdiffer : ∀ (collection : Bool) {r : Param}, r.Readable → collection ≠ p.collection →
      expandedType TypeMap.builtin (p.returning r collection) ≠ expandedType TypeMap.builtin p := by
    intro collection r hr hne heq
    have hreadable : (p.returning r collection).Readable := readable_returning hk hp hr
    have hopens : _ = collection := opens_of_callback (kind_returning hk) hreadable
    rw [heq, opens_of_callback hk hp] at hopens
    exact hne hopens.symm
  have hreturned : ∀ r, p.returns = some r → r.Readable := fun r hr =>
    hp.of_mem_parts ((mem_parts_of_callback hk).2 (Or.inr hr))
  cases hcollection : p.collection with
  | true =>
    rw [Param.isFull_eq, hcollection, Bool.true_and, hk] at hfull
    obtain ⟨r, hr, hkey⟩ := exists_longer_result hfull fun r hr => exists_longer (hreturned r hr)
    refine ⟨_, readable_returning hk hp hr, alike_returning hk ?_, hdiffer false hr
      (by rw [hcollection]; decide)⟩
    rw [hkey, keyChars_eq, hcollection, baseChars_eq_callbackStem hk]
    simp
  | false =>
    rw [keyChars_eq, hcollection, markChars_false, List.append_nil] at hu
    obtain ⟨r, v, hr, hv, rfl⟩ := exists_shorter_result hk hu
    obtain ⟨r2, hr2, hkey⟩ := exists_shorter (hreturned r hr) hv
    refine ⟨_, readable_returning hk hp hr2, alike_returning hk ?_, hdiffer true hr2
      (by rw [hcollection]; decide)⟩
    rw [hkey, keyChars_eq, hcollection, hu, markChars_true, markChars_false, List.append_nil]

/-- **The two readings of a `[]`** behind the key of a choice of types. -/
theorem exists_clash_of_plain (hk : p.kind = .plain) (hp : p.Readable)
    (hbar : Text.occursIn bar (spelling p.type) = true) (hclear : p.isClearHere = false) :
    ∃ q : Param, q.Readable ∧ p.Alike q ∧
      expandedType TypeMap.builtin q ≠ expandedType TypeMap.builtin p := by
  obtain ⟨⟨u, hu⟩, hfull⟩ := isClearHere_eq_false.1 hclear
  have hdiffer : ∀ (collection : Bool) {type : TypeRef}, type.Named →
      Text.occursIn bar (spelling type) = true → collection ≠ p.collection →
      expandedType TypeMap.builtin (p.plainly type collection)
        ≠ expandedType TypeMap.builtin p := by
    intro collection type htype hbar2 hne heq
    have hreadable : (p.plainly type collection).Readable := readable_plainly htype
    have hopens : _ = collection := opens_of_plain kind_plainly hreadable hbar2
    rw [heq, opens_of_plain hk hp hbar] at hopens
    exact hne hopens.symm
  rw [keyChars_eq, baseChars_of_plain hk] at hu
  cases hcollection : p.collection with
  | true =>
    rw [Param.isFull_eq, hcollection, Bool.true_and, hk] at hfull
    obtain ⟨grown, hgrown, hspelling⟩ := exists_grown hp.regular.here.type hfull
    have hbar2 : Text.occursIn bar (spelling grown) = true := by
      rw [Text.occursIn_iff] at hbar ⊢
      rw [hspelling]
      exact hbar.trans (List.prefix_append _ _).isInfix
    refine ⟨_, readable_plainly hgrown, alike_plainly ?_, hdiffer false hgrown hbar2
      (by rw [hcollection]; decide)⟩
    rw [hspelling, keyChars_eq, hcollection, baseChars_of_plain hk, markChars_false,
      List.append_nil, markChars_true]
  | false =>
    rw [hcollection, markChars_false, List.append_nil] at hu
    obtain ⟨shrunk, hshrunk, hspelling⟩ := exists_shrunk hp.regular.here.type hu
    have hbar2 : Text.occursIn bar (spelling shrunk) = true := by
      rw [hspelling]
      exact occursIn_bar_of_append_mark (hu ▸ hbar)
    refine ⟨_, readable_plainly hshrunk, alike_plainly ?_, hdiffer true hshrunk hbar2
      (by rw [hcollection]; decide)⟩
    rw [hspelling, keyChars_eq, hcollection, baseChars_of_plain hk, markChars_false,
      List.append_nil, markChars_true, hu]

/-- A key is not clear because of a function or of a choice of types, here or in a part. -/
theorem isClear_eq_false_cases (h : p.isClear = false) :
    (p.kind = .callback ∧ p.isClearHere = false) ∨
      (p.kind = .plain ∧ Text.occursIn bar (spelling p.type) = true ∧ p.isClearHere = false) ∨
        ∃ f ∈ p.parts, f.isClear = false := by
  have hone : ∀ fields : List Param, areClear fields = false →
      ∃ f ∈ fields, f.isClear = false := by
    intro fields hfields
    by_contra hnone
    have hall : areClear fields = true := areClear_iff.2 fun f hf => by
      by_contra hf2
      exact hnone ⟨f, hf, by simpa using hf2⟩
    rw [hall] at hfields
    cases hfields
  rw [Param.isClear_eq] at h
  cases hk : p.kind with
  | choice =>
    rw [hk] at h
    cases h
  | shape =>
    rw [hk] at h
    obtain ⟨f, hf, hclear⟩ := hone _ h
    exact Or.inr (Or.inr ⟨f, (mem_parts_of_shape hk).2 hf, hclear⟩)
  | callback =>
    rw [hk] at h
    simp only [Bool.and_eq_false_iff] at h
    rcases h with (h | h) | h
    · exact Or.inl ⟨rfl, h⟩
    · obtain ⟨f, hf, hclear⟩ := hone _ h
      exact Or.inr (Or.inr ⟨f, (mem_parts_of_callback hk).2 (Or.inl hf), hclear⟩)
    · cases hreturns : p.returns with
      | none =>
        rw [hreturns] at h
        cases h
      | some r =>
        rw [hreturns] at h
        exact Or.inr (Or.inr ⟨r, (mem_parts_of_callback hk).2 (Or.inr hreturns), h⟩)
  | plain =>
    rw [hk, Bool.or_eq_false_iff, Bool.not_eq_false'] at h
    exact Or.inr (Or.inl ⟨rfl, h.1, h.2⟩)

/-- **A key that is not clear does not decide how the value is written.** -/
theorem exists_clash (hp : p.Readable) (hclear : p.isClear = false) :
    ∃ q : Param, q.Readable ∧ p.Alike q ∧
      expandedType TypeMap.builtin q ≠ expandedType TypeMap.builtin p := by
  induction p using Param.induct_parts with
  | step p ih =>
    rcases isClear_eq_false_cases hclear with ⟨hk, hhere⟩ | ⟨hk, hbar, hhere⟩ | ⟨f, hf, hpart⟩
    · exact exists_clash_of_callback hk hp hhere
    · exact exists_clash_of_plain hk hp hbar hhere
    · obtain ⟨g, hg, hfg, hne⟩ := ih f hf (hp.of_mem_parts hf) hpart
      obtain ⟨q, hswap⟩ := exists_swap hf g
      exact ⟨q, hswap.readable hp hg hfg.name, hswap.alike hfg, hswap.expandedType_ne hfg hp hg hne⟩

end

end Ambient
