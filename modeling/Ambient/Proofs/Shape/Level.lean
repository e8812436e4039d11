import Ambient.Proofs.Shape.Expansion
import Ambient.Proofs.Shape.Spelling

/-!
# Keys and types are level

Where names are identifiers, and no quotes stand in strings, the key of a value is a level text: it
can be told apart from what stands around it.  The same holds of the type of a value.

## What is here

* `Param.Regular`, `Param.Readable` — values that are described with identifiers, and of which the
  keys can be read.
* `keyChars`, `fieldChars` — keys, character by character, and `baseChars_of_shape` and so on.
* `level_keyChars`, `level_expandedType` — keys and types are level.
-/

set_option autoImplicit false

namespace Ambient

open Signature Reading

/-! ## Readable values -/

/-- The fields and parameters of a value have identifiers for names, and its type is made of
identifiers. -/
structure Param.Regular (p : Param) : Prop where
  properties : ∀ q ∈ p.properties, isIdentifier q.name = true
  parameters : ∀ q ∈ p.parameters, isIdentifier q.name = true
  type : p.type.Named

/-- The key of a value can be read. -/
structure Param.Readable (p : Param) : Prop where
  regular : p.Every Param.Regular
  tame : p.Throughout Param.Tame

theorem Param.Every.of_mem_parts {P : Param → Prop} {p q : Param} (h : p.Every P)
    (hq : q ∈ p.parts) : q.Every P := by
  rw [Param.parts] at hq
  split at hq
  · cases hq
  · exact h.of_mem_properties hq
  · rcases List.mem_append.1 hq with hq | hq
    · exact h.of_mem_parameters hq
    · exact h.of_returns (by simpa using hq)
  · cases hq

theorem Param.Readable.of_mem_parts {p q : Param} (h : p.Readable) (hq : q ∈ p.parts) :
    q.Readable :=
  ⟨h.regular.of_mem_parts hq, h.tame.of_mem hq⟩

section

variable {p q : Param}

theorem mem_parts_of_shape (hk : p.kind = .shape) : q ∈ p.parts ↔ q ∈ p.properties := by
  rw [Param.parts, hk]

theorem mem_parts_of_callback (hk : p.kind = .callback) :
    q ∈ p.parts ↔ q ∈ p.parameters ∨ p.returns = some q := by
  rw [Param.parts, hk]
  simp only [List.mem_append, Option.mem_toList]

/-! ## Keys, character by character -/

/-- The key of the type of a value. -/
def keyChars (p : Param) : List Char := (typeKey TypeMap.builtin p).toList

/-- The key of the type of a value, without the mark of a collection. -/
def baseChars (p : Param) : List Char := (baseKey TypeMap.builtin p).toList

/-- The key of a value with its name. -/
def fieldChars (p : Param) : List Char := (fieldKey TypeMap.builtin p).toList

/-- The key of what a function returns. -/
def resultChars (returns : Option Param) : List Char := (resultKey TypeMap.builtin returns).toList

/-- The mark of a collection. -/
def markChars (collection : Bool) : List Char := if collection then ['[', ']'] else []

@[simp] theorem markChars_true : markChars true = ['[', ']'] := rfl

@[simp] theorem markChars_false : markChars false = [] := rfl

theorem keyChars_eq (p : Param) : keyChars p = baseChars p ++ markChars p.collection := by
  rw [keyChars, typeKey_eq, String.toList_append, baseChars, arrayMark, markChars]
  cases p.collection <;> rfl

theorem fieldChars_eq (p : Param) :
    fieldChars p = p.name.toList ++ (optionalMark p).toList ++ ':' :: keyChars p := by
  rw [fieldChars, fieldKey, String.toList_append, String.toList_append, String.toList_append,
    List.append_assoc]
  rfl

theorem resultChars_some (p : Param) : resultChars (some p) = keyChars p := by
  rw [resultChars, resultKey, keyChars]

theorem resultChars_none : resultChars none = ['v', 'o', 'i', 'd'] := rfl

/-- A string between single quotes. -/
def quoted (v : PossibleValue) : List Char := '\'' :: (v.value.toList ++ ['\''])

theorem toList_literal (v : PossibleValue) : (literal v).toList = quoted v := by
  rw [literal, String.toList_append, String.toList_append, quoted]
  rfl

theorem baseChars_of_choice (hk : p.kind = .choice) :
    baseChars p = ['|'].intercalate (p.possibleValues.map quoted) := by
  rw [baseChars, baseKey, hk]
  show (String.intercalate "|" _).toList = _
  rw [String.toList_intercalate, List.map_map]
  exact congrArg _ (List.map_congr_left fun v _ => toList_literal v)

/-- The keys of fields, in order. -/
def sortedKeys (fields : List Param) : List String :=
  (fields.map (fieldKey TypeMap.builtin)).mergeSort fun a b => !decide (b < a)

theorem sortedKeys_perm (fields : List Param) :
    (sortedKeys fields).Perm (fields.map (fieldKey TypeMap.builtin)) :=
  List.mergeSort_perm _ _

/-- The key of an object with these fields. -/
def joinedChars (fields : List Param) : List Char :=
  '{' :: ([';'].intercalate ((sortedKeys fields).map String.toList) ++ ['}'])

theorem toList_shapeKey (fields : List Param) :
    (shapeKey TypeMap.builtin fields).toList = joinedChars fields := by
  rw [shapeKey, fieldKeys_eq_map, joinFieldKeys, String.toList_append, String.toList_append,
    String.toList_intercalate]
  rfl

theorem baseChars_of_shape (hk : p.kind = .shape) : baseChars p = joinedChars p.properties := by
  rw [baseChars, baseKey, hk, ← toList_shapeKey, shapeKey, fieldKeys_eq_map]

theorem baseChars_of_callback (hk : p.kind = .callback) :
    baseChars p = '(' :: ([','].intercalate (p.parameters.map fieldChars) ++
      ')' :: '=' :: '>' :: resultChars p.returns) := by
  rw [baseChars, baseKey, hk]
  show ("(" ++ _ ++ ")=>" ++ _ : String).toList = _
  rw [String.toList_append, String.toList_append, String.toList_append,
    String.toList_intercalate, List.map_map, List.append_assoc, List.append_assoc]
  rfl

theorem baseChars_of_plain (hk : p.kind = .plain) : baseChars p = spelling p.type := by
  rw [baseChars, baseKey, hk]
  rfl

end

/-! ## Names are level -/

theorem isTypeChar_of_isNameChar {c : Char} (h : isNameChar c = true) : isTypeChar c = true := by
  rw [isTypeChar, isWordChar, h]
  rfl

theorem level_of_isNameChar {u : List Char} (h : ∀ c ∈ u, isNameChar c = true) : Level u :=
  level_of_isPlain (List.all_eq_true.2 fun c hc =>
    isPlain_of_isTypeChar (isTypeChar_of_isNameChar (h c hc)))

theorem isNameChar_of_mem {s : String} (h : isIdentifier s = true) :
    ∀ c ∈ s.toList, isNameChar c = true := by
  obtain ⟨c, rest, hs, hchars⟩ := exists_cons_of_isIdentifier h
  rw [hs]
  exact hchars

theorem level_optionalMark (p : Param) : Level (optionalMark p).toList := by
  rw [optionalMark]
  split
  · exact level_of_isPlain (by decide)
  · exact level_nil

/-- Capitalising keeps the ASCII characters of identifiers. -/
theorem isNameChar_of_mem_upper {c : Char} (hascii : c.toNat < 128) (h : isNameChar c = true) :
    ∀ d ∈ Character.upper c, isNameChar d = true := by
  have hall : ∀ n < 128, isNameChar (Char.ofNat n) = true →
      (Character.upper (Char.ofNat n)).all isNameChar = true := by
    decide +kernel
  have h2 := hall c.toNat hascii
  rw [Char.ofNat_toNat] at h2
  exact List.all_eq_true.1 (h2 h)

theorem toNat_lt_of_toLower {c : Char} (h : c.toLower.toNat < 128) : c.toNat < 128 := by
  by_contra hlarge
  have hsame : c.toLower = c :=
    dif_neg fun hupper => hlarge (Nat.lt_of_le_of_lt hupper.2 (by decide))
  rw [hsame] at h
  exact hlarge h

/-- The name of a parameter is an identifier still when it is declared. -/
theorem isNameChar_of_mem_parameterName {name : String} (h : isIdentifier name = true) :
    ∀ c ∈ (parameterName name).toList, isNameChar c = true := by
  obtain ⟨first, rest, hname, hchars⟩ := exists_cons_of_isIdentifier h
  cases hword : isReservedWord name with
  | false =>
    rw [parameterName_of_not_isReservedWord hword, hname]
    exact hchars
  | true =>
    -- The words are ASCII words, and so is what differs from them in case only.
    have hascii : first.toNat < 128 := by
      rw [isReservedWord, Text.lowercaseAscii, hname, List.contains_iff_mem] at hword
      have hall : ∀ w ∈ reservedWords, w.toList.all (fun c => c.toNat < 128) = true := by decide
      exact toNat_lt_of_toLower (by simpa using List.all_eq_true.1 (hall _ hword) _ (by simp))
    have hupper : (Text.upperFirst name).toList = Character.upper first ++ rest := by
      rw [Text.upperFirst, hname, String.toList_ofList]
    rw [parameterName, if_pos hword, String.toList_append, hupper]
    intro c hc
    rcases List.mem_append.1 hc with hc | hc
    · have hall : "the".toList.all isNameChar = true := by decide
      exact List.all_eq_true.1 hall c hc
    · rcases List.mem_append.1 hc with hc | hc
      · exact isNameChar_of_mem_upper hascii (hchars first (by simp)) c hc
      · exact hchars c (List.mem_cons_of_mem _ hc)

/-! ## Keys are level -/

theorem level_markChars (collection : Bool) : Level (markChars collection) := by
  cases collection with
  | true => exact level_of_isPlain (by decide)
  | false => exact level_nil

theorem level_fieldChars {p : Param} (hname : isIdentifier p.name = true)
    (h : Level (keyChars p)) : Level (fieldChars p) := by
  have hcolon : Level [':'] := level_of_isPlain (by decide)
  rw [fieldChars_eq]
  exact ((level_of_isNameChar (isNameChar_of_mem hname)).append (level_optionalMark p)).append
    (hcolon.append h)

theorem level_quoted_of_tame {p : Param} (h : p.Tame) :
    ∀ u ∈ p.possibleValues.map quoted, Level u := by
  intro u hu
  obtain ⟨v, hv, rfl⟩ := List.mem_map.1 hu
  exact level_quoted (h.quoteless v hv)

/-- The keys of fields, in order, are keys of fields. -/
theorem exists_of_mem_sortedKeys {fields : List Param} {u : List Char}
    (h : u ∈ (sortedKeys fields).map String.toList) : ∃ f ∈ fields, u = fieldChars f := by
  obtain ⟨key, hkey, rfl⟩ := List.mem_map.1 h
  obtain ⟨f, hf, rfl⟩ := List.mem_map.1 ((sortedKeys_perm fields).mem_iff.1 hkey)
  exact ⟨f, hf, rfl⟩

/-- **Keys are level.** -/
theorem level_keyChars {p : Param} (h : p.Readable) : Level (keyChars p) := by
  induction p using Param.induct with
  | step p properties parameters returns =>
    rw [keyChars_eq]
    refine Level.append ?_ (level_markChars _)
    cases hk : p.kind with
    | choice =>
      rw [baseChars_of_choice hk]
      exact Level.intercalate (level_of_isPlain (by decide)) (level_quoted_of_tame h.tame.here)
    | shape =>
      rw [baseChars_of_shape hk, joinedChars]
      refine level_bracketed (Inner.intercalate (inner_of_isSeparator (by decide)) ?_)
        (by decide) (by decide)
      intro u hu
      obtain ⟨f, hf, rfl⟩ := exists_of_mem_sortedKeys hu
      exact (level_fieldChars (h.regular.here.properties f hf)
        (properties f hf (h.of_mem_parts ((mem_parts_of_shape hk).2 hf)))).inner
    | callback =>
      rw [baseChars_of_callback hk]
      have htaken : Level ('(' :: ([','].intercalate (p.parameters.map fieldChars) ++ [')'])) := by
        refine level_bracketed (Inner.intercalate (inner_of_isSeparator (by decide)) ?_)
          (by decide) (by decide)
        intro u hu
        obtain ⟨q, hq, rfl⟩ := List.mem_map.1 hu
        exact (level_fieldChars (h.regular.here.parameters q hq)
          (parameters q hq (h.of_mem_parts ((mem_parts_of_callback hk).2 (Or.inl hq))))).inner
      have harrow : Level ['=', '>'] := level_of_isPlain (by decide)
      have hresult : Level (resultChars p.returns) := by
        cases hreturns : p.returns with
        | none =>
          rw [resultChars_none]
          exact level_of_isPlain (by decide)
        | some q =>
          rw [resultChars_some]
          exact returns q hreturns (h.of_mem_parts ((mem_parts_of_callback hk).2 (Or.inr hreturns)))
      simpa using (htaken.append harrow).append hresult
    | plain =>
      rw [baseChars_of_plain hk]
      exact level_spelling h.regular.here.type

/-! ## Types are level -/

theorem level_arrayOf {s : String} (h : Level s.toList) : Level (arrayOf s).toList := by
  have hmark : Level ['[', ']'] := level_of_isPlain (by decide)
  rw [arrayOf]
  split
  · have hparens : Level ('(' :: (s.toList ++ [')'])) :=
      level_bracketed h.inner (by decide) (by decide)
    rw [String.toList_append, String.toList_append]
    simpa using hparens.append hmark
  · rw [String.toList_append]
    exact h.append hmark

theorem level_collected {s : String} (h : Level s.toList) (collection : Bool) :
    Level (collected collection s).toList := by
  rw [collected]
  split
  · exact level_arrayOf h
  · exact h

/-- A statement without its semicolon. -/
def statementChars (p : Param) (type : String) : List Char :=
  p.name.toList ++ (optionalMark p).toList ++ ':' :: ' ' :: type.toList

theorem toList_fieldText (p : Param) (type : String) :
    (fieldText p type).toList = statementChars p type ++ [';'] := by
  rw [fieldText, String.toList_append, String.toList_append, String.toList_append,
    String.toList_append, statementChars]
  simp

theorem level_statementChars {p : Param} {type : String} (hname : isIdentifier p.name = true)
    (h : Level type.toList) : Level (statementChars p type) := by
  have hcolon : Level [':', ' '] := level_of_isPlain (by decide)
  exact ((level_of_isNameChar (isNameChar_of_mem hname)).append (level_optionalMark p)).append
    (hcolon.append h)

theorem level_parameterText {p : Param} {type : String} (hname : isIdentifier p.name = true)
    (h : Level type.toList) : Level (parameterText p type).toList := by
  have hcolon : Level [':', ' '] := level_of_isPlain (by decide)
  rw [parameterText, String.toList_append, String.toList_append, String.toList_append]
  exact (((level_of_isNameChar (isNameChar_of_mem_parameterName hname)).append
    (level_optionalMark p)).append hcolon).append h

theorem toList_braced (lines : List String) :
    (braced lines).toList = '{' ::
      ((lines.mergeSort fun a b => !decide (b < a)).flatMap String.toList ++ ['}']) := by
  rw [braced, String.toList_append, String.toList_append, String.toList_join]
  rfl

theorem toList_arrow (taken : List String) (result : String) :
    (arrow taken result).toList = '(' :: ([',', ' '].intercalate (taken.map String.toList) ++
      ')' :: ' ' :: '=' :: '>' :: ' ' :: result.toList) := by
  rw [arrow, String.toList_append, String.toList_append, String.toList_append,
    String.toList_intercalate, List.append_assoc, List.append_assoc]
  rfl

theorem statements_of_mem {fields : List Param} {line : String}
    (h : line ∈ statements TypeMap.builtin fields) :
    ∃ f ∈ fields, line = fieldText f (expandedType TypeMap.builtin f) := by
  rw [statements_eq_map, List.mem_map] at h
  obtain ⟨f, hf, rfl⟩ := h
  exact ⟨f, hf, rfl⟩

/-- **Types are level.** -/
theorem level_expandedType {p : Param} (h : p.Readable) :
    Level (expandedType TypeMap.builtin p).toList := by
  induction p using Param.induct with
  | step p properties parameters returns =>
    rw [expandedType_eq_collected _ h.tame.here.simple]
    refine level_collected ?_ _
    cases hk : p.kind with
    | choice =>
      rw [baseType_of_choice _ hk, literalUnion, String.toList_intercalate, List.map_map]
      refine Level.intercalate (level_of_isPlain (by decide)) fun u hu => ?_
      obtain ⟨v, hv, rfl⟩ := List.mem_map.1 hu
      rw [Function.comp_apply, toList_literal]
      exact level_quoted_of_tame h.tame.here _ (List.mem_map_of_mem hv)
    | shape =>
      rw [baseType_of_shape _ hk, toList_braced]
      refine level_bracketed (Inner.flatMap fun line hline => ?_) (by decide) (by decide)
      obtain ⟨f, hf, rfl⟩ := statements_of_mem ((List.mergeSort_perm _ _).mem_iff.1 hline)
      have hf2 := properties f hf (h.of_mem_parts ((mem_parts_of_shape hk).2 hf))
      rw [toList_fieldText]
      exact (level_statementChars (h.regular.here.properties f hf) hf2).inner.append
        (inner_of_isSeparator (by decide))
    | callback =>
      rw [baseType_of_callback _ hk, toList_arrow]
      have htaken : Level ('(' :: ([',', ' '].intercalate ((expandedTexts TypeMap.builtin
          p.parameters).map String.toList) ++ [')'])) := by
        have hcomma : Inner [',', ' '] := fun depth s => rfl
        refine level_bracketed (Inner.intercalate hcomma fun u hu => ?_) (by decide) (by decide)
        rw [expandedTexts_eq_map, List.map_map] at hu
        obtain ⟨q, hq, rfl⟩ := List.mem_map.1 hu
        exact (level_parameterText (h.regular.here.parameters q hq) (parameters q hq
          (h.of_mem_parts ((mem_parts_of_callback hk).2 (Or.inl hq))))).inner
      have harrow : Level [' ', '=', '>', ' '] := level_of_isPlain (by decide)
      have hresult : Level (expandedResult TypeMap.builtin p.returns).toList := by
        cases hreturns : p.returns with
        | none => exact level_of_isPlain (by decide)
        | some q =>
          rw [expandedResult]
          exact returns q hreturns (h.of_mem_parts ((mem_parts_of_callback hk).2 (Or.inr hreturns)))
      simpa using (htaken.append harrow).append hresult
    | plain =>
      rw [baseType_of_plain _ hk]
      exact level_spelling h.regular.here.type

end Ambient
