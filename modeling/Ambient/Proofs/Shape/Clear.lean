import Mathlib.Data.String.Basic
import Mathlib.Data.List.Sort
import Ambient.Proofs.Shape.Level

/-!
# Which keys can be read in one way only

The key of a function ends with the key of its result, and the key of a choice of types with that of
the last type.  A `[]` behind it may belong to the whole, which is then a collection, or to the last
part.  The key tells nothing of this, while the type of a value has parentheses in the one case and
none in the other.

A key is clear if there is no such `[]` in it, or if the last part could not have one more.

## What is here

* `fieldChars_injective`, `kind_eq_of_baseChars`, `properties_of_baseChars` and so on — what can be
  read off a key.
* `Param.isFull` — no value has the same key with a `[]` behind it; `keyChars_ne_of_isFull`.
* `Param.isClear` — the key of a value, and of all that play a part in it, is clear.
-/

set_option autoImplicit false

namespace Ambient

open Signature Reading

/-! ## Reading the key of a field -/

theorem eq_of_name_append_eq {u v s t : List Char} {c d : Char}
    (hu : ∀ e ∈ u, isNameChar e = true) (hv : ∀ e ∈ v, isNameChar e = true)
    (hc : isNameChar c = false) (hd : isNameChar d = false)
    (h : u ++ c :: s = v ++ d :: t) : u = v ∧ c :: s = d :: t := by
  have hread : ∀ (w r : List Char) (e : Char), (∀ x ∈ w, isNameChar x = true) →
      isNameChar e = false → (w ++ e :: r).takeWhile isNameChar = w := by
    intro w r e hw he
    rw [List.takeWhile_append_of_pos hw, List.takeWhile_cons_of_neg (by simp [he]), List.append_nil]
  have huv : u = v := by rw [← hread u s c hu hc, h, hread v t d hv hd]
  subst huv
  exact ⟨rfl, List.append_cancel_left h⟩

/-- **The key of a field has its name, its mark and the key of its type.** -/
theorem fieldChars_injective {p q : Param} (hp : isIdentifier p.name = true)
    (hq : isIdentifier q.name = true) (h : fieldChars p = fieldChars q) :
    p.name = q.name ∧ optionalMark p = optionalMark q ∧ keyChars p = keyChars q := by
  have hcolon : isNameChar ':' = false := by decide
  have hquery : isNameChar '?' = false := by decide
  rw [fieldChars_eq, fieldChars_eq, List.append_assoc, List.append_assoc] at h
  have hp2 := isNameChar_of_mem hp
  have hq2 := isNameChar_of_mem hq
  rw [optionalMark, optionalMark] at h ⊢
  generalize p.isOptional = a at h ⊢
  generalize q.isOptional = b at h ⊢
  cases a with
  | true =>
    cases b with
    | true =>
      obtain ⟨hname, hrest⟩ := eq_of_name_append_eq hp2 hq2 hquery hquery h
      exact ⟨String.toList_inj.1 hname, rfl, (List.cons.inj (List.cons.inj hrest).2).2⟩
    | false =>
      obtain ⟨-, hrest⟩ := eq_of_name_append_eq hp2 hq2 hquery hcolon h
      exact absurd (List.cons.inj hrest).1 (by decide)
  | false =>
    cases b with
    | true =>
      obtain ⟨-, hrest⟩ := eq_of_name_append_eq hp2 hq2 hcolon hquery h
      exact absurd (List.cons.inj hrest).1 (by decide)
    | false =>
      obtain ⟨hname, hrest⟩ := eq_of_name_append_eq hp2 hq2 hcolon hcolon h
      exact ⟨String.toList_inj.1 hname, rfl, (List.cons.inj hrest).2⟩

theorem fieldChars_ne_nil (p : Param) : fieldChars p ≠ [] := by
  rw [fieldChars_eq]
  simp

/-! ## Reading the key of a value -/

/-- The kind of a value, as its key begins. -/
def kindAt : List Char → Kind
  | '\'' :: _ => .choice
  | '{' :: _ => .shape
  | '(' :: _ => .callback
  | _ => .plain

theorem kindAt_of_isTypeChar {u : List Char} (h : ∀ c ∈ u, isTypeChar c = true) :
    kindAt u = .plain := by
  cases u with
  | nil => rfl
  | cons c rest =>
    have hc := h c (by simp)
    have hquote : c ≠ '\'' := ne_of_isTypeChar hc (by decide)
    have hbrace : c ≠ '{' := ne_of_isTypeChar hc (by decide)
    have hparen : c ≠ '(' := ne_of_isTypeChar hc (by decide)
    rw [kindAt]
    · exact fun _ heq => hquote (List.cons.inj heq).1
    · exact fun _ heq => hbrace (List.cons.inj heq).1
    · exact fun _ heq => hparen (List.cons.inj heq).1

/-- Behind a key stand marks only. -/
def Marks (u : List Char) : Prop := ∀ c ∈ u, c = '[' ∨ c = ']'

theorem marks_append {u v : List Char} (hu : Marks u) (hv : Marks v) : Marks (u ++ v) := by
  intro c hc
  rcases List.mem_append.1 hc with hc | hc
  · exact hu c hc
  · exact hv c hc

theorem marks_markChars (collection : Bool) : Marks (markChars collection) := by
  cases collection with
  | true => simp [Marks, markChars]
  | false => simp [Marks, markChars]

theorem marks_arrayMarks (depth : Nat) : Marks (arrayMarks depth) := fun _ h => mem_arrayMarks h

section

variable {p q : Param} {s t : List Char}

theorem possibleValues_ne_nil (hk : p.kind = .choice) : p.possibleValues ≠ [] := by
  intro h
  rw [Param.kind, h] at hk
  cases hp : p.isObjectShape <;> cases hc : p.isCallback <;> simp [hp, hc] at hk

theorem kindAt_baseChars (h : p.type.Named) (hs : Marks s) :
    kindAt (baseChars p ++ s) = p.kind := by
  cases hk : p.kind with
  | choice =>
    cases hvalues : p.possibleValues with
    | nil => exact absurd hvalues (possibleValues_ne_nil hk)
    | cons v rest =>
      rw [baseChars_of_choice hk, hvalues, List.map_cons, intercalate_cons_eq]
      rfl
  | shape =>
    rw [baseChars_of_shape hk]
    rfl
  | callback =>
    rw [baseChars_of_callback hk]
    rfl
  | plain =>
    rw [baseChars_of_plain hk]
    refine kindAt_of_isTypeChar fun c hc => ?_
    rcases List.mem_append.1 hc with hc | hc
    · exact isTypeChar_of_mem_spelling h c hc
    · rcases hs c hc with rfl | rfl <;> decide

/-- The kind of a value can be read off its key. -/
theorem kind_eq_of_baseChars (hp : p.type.Named) (hq : q.type.Named) (hs : Marks s) (ht : Marks t)
    (h : baseChars p ++ s = baseChars q ++ t) : p.kind = q.kind := by
  rw [← kindAt_baseChars hp hs, h, kindAt_baseChars hq ht]

/-- Strings with a bar in front of each are determined up to the marks. -/
theorem eq_of_barred_eq {us vs : List (List Char)} (hs : Marks s) (ht : Marks t)
    (hus : ∀ u ∈ us, '\'' ∉ u) (hvs : ∀ v ∈ vs, '\'' ∉ v)
    (h : us.flatMap (fun u => '|' :: '\'' :: (u ++ ['\''])) ++ s
      = vs.flatMap (fun v => '|' :: '\'' :: (v ++ ['\''])) ++ t) : us = vs ∧ s = t := by
  have hno : ∀ r more : List Char, Marks r → r ≠ '|' :: more := by
    rintro r more hr rfl
    exact absurd (hr '|' (by simp)) (by decide)
  have hquote : ∀ (w r : List Char), '\'' ∉ w →
      (w ++ '\'' :: r).takeWhile (· != '\'') = w := by
    intro w r hw
    rw [List.takeWhile_append_of_pos, List.takeWhile_cons_of_neg (by decide), List.append_nil]
    exact fun c hc => bne_iff_ne.2 fun heq => hw (heq ▸ hc)
  induction us generalizing vs with
  | nil =>
    cases vs with
    | nil => exact ⟨rfl, h⟩
    | cons v rest => exact absurd h (hno _ _ hs)
  | cons u rest ih =>
    cases vs with
    | nil => exact absurd h.symm (hno _ _ ht)
    | cons v more =>
      simp only [List.flatMap_cons, List.cons_append, List.append_assoc, List.nil_append,
        List.cons.injEq, true_and] at h
      have huv : u = v := by
        rw [← hquote u _ (hus u (by simp)), h, hquote v _ (hvs v (by simp))]
      subst huv
      have hrest := (List.cons.inj (List.append_cancel_left h)).2
      obtain ⟨rfl, rfl⟩ := ih (fun w hw => hus w (List.mem_cons_of_mem _ hw))
        (fun w hw => hvs w (List.mem_cons_of_mem _ hw)) hrest
      exact ⟨rfl, rfl⟩

/-- The strings that a value may be can be read off its key. -/
theorem values_of_baseChars (hkp : p.kind = .choice) (hkq : q.kind = .choice) (hp : p.Tame)
    (hq : q.Tame) (hs : Marks s) (ht : Marks t) (h : baseChars p ++ s = baseChars q ++ t) :
    p.possibleValues.map PossibleValue.value = q.possibleValues.map PossibleValue.value ∧
      s = t := by
  have hbar : ∀ r : Param, r.kind = .choice →
      '|' :: baseChars r = (r.possibleValues.map fun v => v.value.toList).flatMap
        fun u => '|' :: '\'' :: (u ++ ['\'']) := by
    intro r hkr
    cases hvalues : r.possibleValues with
    | nil => exact absurd hvalues (possibleValues_ne_nil hkr)
    | cons v rest =>
      rw [baseChars_of_choice hkr, hvalues, List.map_cons, intercalate_cons_eq, List.flatMap_map,
        List.map_cons, List.flatMap_cons, List.flatMap_map]
      rfl
  have hquote : ∀ r : Param, r.Tame → ∀ u ∈ r.possibleValues.map (fun v => v.value.toList),
      '\'' ∉ u := by
    intro r hr u hu
    obtain ⟨v, hv, rfl⟩ := List.mem_map.1 hu
    exact hr.quoteless v hv
  have h2 := congrArg ('|' :: ·) h
  simp only [← List.cons_append, hbar p hkp, hbar q hkq] at h2
  obtain ⟨hvalues, hst⟩ := eq_of_barred_eq hs ht (hquote p hp) (hquote q hq) h2
  have hinj : Function.Injective String.toList := fun a b hab => String.toList_inj.1 hab
  refine ⟨List.map_injective_iff.2 hinj ?_, hst⟩
  rw [List.map_map, List.map_map]
  exact hvalues

/-- The keys of fields can be read off the key of their object, but for their order. -/
theorem fieldKeys_of_joined_eq {fields others : List Param}
    (hf : ∀ f ∈ fields, isIdentifier f.name = true ∧ f.Readable)
    (ho : ∀ f ∈ others, isIdentifier f.name = true ∧ f.Readable)
    (h : joinedChars fields ++ s = joinedChars others ++ t) :
    (fields.map (fieldKey TypeMap.builtin)).Perm (others.map (fieldKey TypeMap.builtin)) ∧
      s = t := by
  have hlevel : ∀ gs : List Param, (∀ f ∈ gs, isIdentifier f.name = true ∧ f.Readable) →
      ∀ u ∈ (sortedKeys gs).map String.toList, Level u ∧ u ≠ [] := by
    intro gs hgs u hu
    obtain ⟨f, hf, rfl⟩ := exists_of_mem_sortedKeys hu
    exact ⟨level_fieldChars (hgs f hf).1 (level_keyChars (hgs f hf).2), fieldChars_ne_nil f⟩
  rw [joinedChars, joinedChars] at h
  simp only [List.cons_append, List.append_assoc, List.nil_append, List.cons.injEq, true_and] at h
  obtain ⟨hkeys, hst⟩ :=
    eq_of_joined_eq (by decide) (by decide) (hlevel fields hf) (hlevel others ho) h
  have hinj : Function.Injective String.toList := fun a b hab => String.toList_inj.1 hab
  have hsorted := List.map_injective_iff.2 hinj hkeys
  exact ⟨((sortedKeys_perm _).symm.trans (hsorted ▸ List.Perm.refl _)).trans (sortedKeys_perm _),
    hst⟩

/-- The same of a value that is an object. -/
theorem properties_of_baseChars (hkp : p.kind = .shape) (hkq : q.kind = .shape) (hp : p.Readable)
    (hq : q.Readable) (h : baseChars p ++ s = baseChars q ++ t) :
    (p.properties.map (fieldKey TypeMap.builtin)).Perm
      (q.properties.map (fieldKey TypeMap.builtin)) ∧ s = t := by
  rw [baseChars_of_shape hkp, baseChars_of_shape hkq] at h
  exact fieldKeys_of_joined_eq
    (fun f hf => ⟨hp.regular.here.properties f hf, hp.of_mem_parts ((mem_parts_of_shape hkp).2 hf)⟩)
    (fun f hf => ⟨hq.regular.here.properties f hf, hq.of_mem_parts ((mem_parts_of_shape hkq).2 hf)⟩)
    h

/-- The keys of parameters can be read off the key of a function, in order. -/
theorem parameters_of_baseChars (hkp : p.kind = .callback) (hkq : q.kind = .callback)
    (hp : p.Readable) (hq : q.Readable) (h : baseChars p ++ s = baseChars q ++ t) :
    p.parameters.map fieldChars = q.parameters.map fieldChars ∧
      resultChars p.returns ++ s = resultChars q.returns ++ t := by
  have hlevel : ∀ r : Param, r.kind = .callback → r.Readable →
      ∀ u ∈ r.parameters.map fieldChars, Level u ∧ u ≠ [] := by
    intro r hkr hr u hu
    obtain ⟨f, hf, rfl⟩ := List.mem_map.1 hu
    exact ⟨level_fieldChars (hr.regular.here.parameters f hf)
      (level_keyChars (hr.of_mem_parts ((mem_parts_of_callback hkr).2 (Or.inl hf)))),
      fieldChars_ne_nil f⟩
  rw [baseChars_of_callback hkp, baseChars_of_callback hkq] at h
  simp only [List.cons_append, List.append_assoc, List.cons.injEq, true_and] at h
  obtain ⟨hkeys, hrest⟩ :=
    eq_of_joined_eq (by decide) (by decide) (hlevel p hkp hp) (hlevel q hkq hq) h
  exact ⟨hkeys, (List.cons.inj (List.cons.inj hrest).2).2⟩

end

/-! ## Full keys -/

mutual

/-- No value has the same key with a `[]` behind it: the value is a collection already, and its last
part could not be one as well. -/
def Param.isFull : Param → Bool
  | ⟨name, type, description, required, collection, properties, parameters, returns,
      possibleValues⟩ =>
    let p : Param := ⟨name, type, description, required, collection, properties, parameters,
      returns, possibleValues⟩
    collection && match p.kind with
      | .choice => true
      | .shape => true
      | .callback => isFullResult returns
      | .plain => isSpent (spelling type)

/-- The same of a result. -/
def isFullResult : Option Param → Bool
  | none => false
  | some p => p.isFull

end

theorem Param.isFull_eq (p : Param) :
    p.isFull = (p.collection && match p.kind with
      | .choice => true
      | .shape => true
      | .callback => isFullResult p.returns
      | .plain => isSpent (spelling p.type)) := by
  cases p
  unfold Param.isFull
  rfl

theorem arrayMarks_succ (depth : Nat) :
    arrayMarks (depth + 1) = '[' :: ']' :: arrayMarks depth := by
  have h := arrayMarks_add 1 depth
  rw [Nat.add_comm] at h
  rw [← h]
  rfl

theorem length_arrayMarks (depth : Nat) : (arrayMarks depth).length = 2 * depth := by
  induction depth with
  | zero => rfl
  | succ depth ih =>
    rw [arrayMarks, List.length_append, ih]
    simp
    omega

theorem length_markChars_le (collection : Bool) : (markChars collection).length ≤ 2 := by
  cases collection <;> simp [markChars]

/-- A mark that a key has behind it may be moved to the front of the others. -/
theorem eq_of_append_markChars {u v : List Char} {collection : Bool} {depth : Nat}
    (h : u ++ ('[' :: ']' :: arrayMarks depth) = v ++ markChars collection) :
    v = u ++ arrayMarks depth ∨ v = u ++ arrayMarks (depth + 1) := by
  rw [← arrayMarks_succ] at h
  cases collection with
  | true =>
    rw [arrayMarks, ← List.append_assoc] at h
    exact Or.inl (List.append_cancel_right h).symm
  | false =>
    rw [markChars, if_neg (by decide), List.append_nil] at h
    exact Or.inr h.symm

theorem void_ne_append_arrayMarks (u : List Char) (depth : Nat) :
    resultChars none ≠ u ++ arrayMarks (depth + 1) := by
  intro h
  have hlast := congrArg List.getLast? h
  rw [arrayMarks, ← List.append_assoc, List.getLast?_append, resultChars_none] at hlast
  simp at hlast

/-- No result has the key of a full one with marks behind it, if that holds of the values that are
returned. -/
theorem resultChars_ne_of_isFullResult {returns other : Option Param}
    (hfull : isFullResult returns = true)
    (h : ∀ r r2, returns = some r → other = some r2 → r.isFull = true →
      ∀ n, keyChars r2 ≠ keyChars r ++ arrayMarks (n + 1)) (depth : Nat) :
    resultChars other ≠ resultChars returns ++ arrayMarks (depth + 1) := by
  cases returns with
  | none => cases hfull
  | some r =>
    cases other with
    | none => exact void_ne_append_arrayMarks _ depth
    | some r2 =>
      rw [resultChars_some, resultChars_some]
      exact h r r2 rfl rfl hfull depth

/-- **No value has a full key with marks behind it.** -/
theorem keyChars_ne_of_isFull {p q : Param} (hp : p.Readable) (hq : q.Readable)
    (hfull : p.isFull = true) (depth : Nat) :
    keyChars q ≠ keyChars p ++ arrayMarks (depth + 1) := by
  induction p using Param.induct generalizing q depth with
  | step p _ _ returns =>
    intro h
    rw [Param.isFull_eq, Bool.and_eq_true] at hfull
    rw [keyChars_eq, keyChars_eq, hfull.1, List.append_assoc] at h
    have hkind := kind_eq_of_baseChars hq.regular.here.type hp.regular.here.type
      (marks_markChars _) (marks_append (marks_markChars true) (marks_arrayMarks (depth + 1))) h
    have hlong : ∀ {collection : Bool},
        markChars collection ≠ markChars true ++ arrayMarks (depth + 1) := by
      intro collection heq
      have hlength := congrArg List.length heq
      have hle := length_markChars_le collection
      have htwo : (markChars true).length = 2 := rfl
      rw [List.length_append, length_arrayMarks, htwo] at hlength
      omega
    have hfull2 := hfull.2
    cases hk : p.kind with
    | choice =>
      exact hlong (values_of_baseChars (hkind.trans hk) hk hq.tame.here hp.tame.here
        (marks_markChars _) (marks_append (marks_markChars true) (marks_arrayMarks _)) h).2
    | shape => exact hlong (properties_of_baseChars (hkind.trans hk) hk hq hp h).2
    | callback =>
      have hresult := (parameters_of_baseChars (hkind.trans hk) hk hq hp h).2
      rw [hk] at hfull2
      have hno : ∀ n, resultChars q.returns ≠ resultChars p.returns ++ arrayMarks (n + 1) :=
        resultChars_ne_of_isFullResult hfull2 fun r r2 hr hr2 hrfull n => returns r hr
          (hp.of_mem_parts ((mem_parts_of_callback hk).2 (Or.inr hr)))
          (hq.of_mem_parts ((mem_parts_of_callback (hkind.trans hk)).2 (Or.inr hr2))) hrfull n
      rcases eq_of_append_markChars hresult.symm with heq | heq
      · exact hno depth heq
      · exact hno (depth + 1) heq
    | plain =>
      rw [hk] at hfull2
      rw [baseChars_of_plain hk, baseChars_of_plain (hkind.trans hk)] at h
      rcases eq_of_append_markChars h.symm with heq | heq
      · exact spelling_ne_of_isSpent hq.regular.here.type hfull2 depth heq
      · exact spelling_ne_of_isSpent hq.regular.here.type hfull2 (depth + 1) heq

/-! ## Clear keys -/

/-- There is no doubt about a `[]` at the end of the key. -/
def Param.isClearHere (p : Param) : Bool := !endsMarked (keyChars p) || p.isFull

mutual

/-- The key of the value can be read in one way only, and so can the keys of all that play a part
in it.  There may be doubt where a function or a choice of types is written. -/
def Param.isClear : Param → Bool
  | ⟨name, type, description, required, collection, properties, parameters, returns,
      possibleValues⟩ =>
    let p : Param := ⟨name, type, description, required, collection, properties, parameters,
      returns, possibleValues⟩
    match p.kind with
    | .choice => true
    | .shape => areClear properties
    | .callback => p.isClearHere && areClear parameters && isClearResult returns
    | .plain => !Text.occursIn bar (spelling type) || p.isClearHere

/-- The same of several values. -/
def areClear : List Param → Bool
  | [] => true
  | p :: rest => p.isClear && areClear rest

/-- The same of a result. -/
def isClearResult : Option Param → Bool
  | none => true
  | some p => p.isClear

end

theorem areClear_iff {ps : List Param} : areClear ps = true ↔ ∀ p ∈ ps, p.isClear = true := by
  induction ps with
  | nil => simp [areClear]
  | cons p rest ih => simp [areClear, ih]

theorem Param.isClear_eq (p : Param) :
    p.isClear = match p.kind with
      | .choice => true
      | .shape => areClear p.properties
      | .callback => p.isClearHere && areClear p.parameters && isClearResult p.returns
      | .plain => !Text.occursIn bar (spelling p.type) || p.isClearHere := by
  cases p
  unfold Param.isClear
  rfl

/-- What plays a part in a clear key is clear. -/
theorem isClear_of_mem_parts {p q : Param} (h : p.isClear = true) (hq : q ∈ p.parts) :
    q.isClear = true := by
  rw [Param.isClear_eq] at h
  cases hk : p.kind with
  | choice =>
    rw [Param.parts, hk] at hq
    cases hq
  | shape =>
    rw [hk] at h
    exact areClear_iff.1 h q ((mem_parts_of_shape hk).1 hq)
  | callback =>
    rw [hk] at h
    simp only [Bool.and_eq_true] at h
    rcases (mem_parts_of_callback hk).1 hq with hq | hq
    · exact areClear_iff.1 h.1.2 q hq
    · have hresult := h.2
      rwa [hq] at hresult
  | plain =>
    rw [Param.parts, hk] at hq
    cases hq

end Ambient
