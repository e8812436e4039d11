import Ambient.Proofs.Shape.Clear

/-!
# Clear keys decide what an interface says

Two values with one key have one type, if the key is clear.  So shapes with one key say the same,
but for the order of their statements.

## What is here

* `perm_map_of_perm_map` — what is determined by keys is permuted with them.
* `braced_eq_of_perm` — the order of statements does not show between braces.
* `mapCollection_eq`, `statements_perm_of_keys` and so on — one kind of value after the other.
* `expandedType_eq_of_keyChars_eq` — values with one key have one type, if the key is clear.
* `statements_perm_of_shapeKey_eq` — shapes with one key have the same statements.
-/

set_option autoImplicit false

namespace Ambient

open Signature Reading

/-! ## Order -/

/-- What is determined by keys is permuted with them. -/
theorem perm_map_of_perm_map {α β γ : Type} {key : α → β} {f : α → γ} {as bs : List α}
    (h : (as.map key).Perm (bs.map key))
    (hkey : ∀ a ∈ as, ∀ b ∈ bs, key a = key b → f a = f b) : (as.map f).Perm (bs.map f) := by
  induction as generalizing bs with
  | nil =>
    rw [List.map_nil, List.nil_perm, List.map_eq_nil_iff] at h
    rw [h]
  | cons a rest ih =>
    have hmem : key a ∈ bs.map key := h.subset (by simp)
    obtain ⟨b, hb, hab⟩ := List.mem_map.1 hmem
    obtain ⟨front, back, rfl⟩ := List.append_of_mem hb
    rw [List.map_cons, List.map_append, List.map_cons, hab] at h
    have hrest : (rest.map key).Perm ((front ++ back).map key) := by
      rw [List.map_append]
      exact (h.trans List.perm_middle).cons_inv
    have hsub : ∀ c ∈ front ++ back, c ∈ front ++ b :: back := fun c hc => by
      rcases List.mem_append.1 hc with hc | hc
      · exact List.mem_append_left _ hc
      · exact List.mem_append_right _ (List.mem_cons_of_mem _ hc)
    have ih2 := ih hrest fun c hc d hd => hkey c (List.mem_cons_of_mem _ hc) d (hsub d hd)
    rw [List.map_append] at ih2
    rw [List.map_cons, List.map_append, List.map_cons, hkey a (by simp) b hb hab.symm]
    exact (ih2.cons _).trans List.perm_middle.symm

/-- What is determined by keys is the same where the keys are. -/
theorem map_eq_of_map_eq {α β γ : Type} {key : α → β} {f : α → γ} {as bs : List α}
    (h : as.map key = bs.map key)
    (hkey : ∀ a ∈ as, ∀ b ∈ bs, key a = key b → f a = f b) : as.map f = bs.map f := by
  induction as generalizing bs with
  | nil =>
    rw [List.map_nil, eq_comm, List.map_eq_nil_iff] at h
    rw [h]
  | cons a rest ih =>
    cases bs with
    | nil => cases h
    | cons b more =>
      rw [List.map_cons, List.map_cons, List.cons.injEq] at h
      rw [List.map_cons, List.map_cons, hkey a (by simp) b (by simp) h.1,
        ih h.2 fun c hc d hd => hkey c (List.mem_cons_of_mem _ hc) d (List.mem_cons_of_mem _ hd)]

theorem mergeSort_eq_of_perm {xs ys : List String} (h : xs.Perm ys) :
    (xs.mergeSort fun a b => !decide (b < a)) = ys.mergeSort fun a b => !decide (b < a) := by
  have htrans : ∀ a b c : String, (!decide (b < a)) = true → (!decide (c < b)) = true →
      (!decide (c < a)) = true := by
    intro a b c hab hbc
    rw [Bool.not_eq_true', decide_eq_false_iff_not, not_lt] at hab hbc ⊢
    exact hab.trans hbc
  have htotal : ∀ a b : String, (!decide (b < a) || !decide (a < b)) = true := by
    intro a b
    rw [Bool.or_eq_true, Bool.not_eq_true', Bool.not_eq_true', decide_eq_false_iff_not,
      decide_eq_false_iff_not, not_lt, not_lt]
    exact le_total a b
  refine List.Perm.eq_of_pairwise ?_ (List.pairwise_mergeSort htrans htotal xs)
    (List.pairwise_mergeSort htrans htotal ys)
    (((List.mergeSort_perm _ _).trans h).trans (List.mergeSort_perm _ _).symm)
  intro a b _ _ hab hba
  rw [Bool.not_eq_true', decide_eq_false_iff_not, not_lt] at hab hba
  exact le_antisymm hab hba

/-- The order of statements does not show between braces. -/
theorem braced_eq_of_perm {xs ys : List String} (h : xs.Perm ys) : braced xs = braced ys := by
  rw [braced, braced, mergeSort_eq_of_perm h]

/-! ## Types of values -/

theorem markChars_injective {a b : Bool} (h : markChars a = markChars b) : a = b := by
  cases a <;> cases b <;> first | rfl | exact absurd h (by decide)

section

variable {p q : Param}

/-- Where there is no doubt about a `[]`, functions with one key are both collections or neither. -/
theorem collection_eq_of_isClearHere (hkp : p.kind = .callback) (hkq : q.kind = .callback)
    (hp : p.Readable) (hq : q.Readable) (hclear : p.isClearHere = true)
    (h : keyChars p = keyChars q)
    (hresult : resultChars p.returns ++ markChars p.collection
      = resultChars q.returns ++ markChars q.collection) : p.collection = q.collection := by
  cases hpc : p.collection with
  | true =>
    cases hqc : q.collection with
    | true => rfl
    | false =>
      have hmarked : endsMarked (keyChars p) = true :=
        endsMarked_iff.2 ⟨_, by rw [keyChars_eq, hpc]; rfl⟩
      rw [Param.isClearHere, hmarked, Bool.not_true, Bool.false_or, Param.isFull_eq, hkp,
        Bool.and_eq_true] at hclear
      rw [hpc, hqc, markChars_true, markChars_false, List.append_nil] at hresult
      have hno : resultChars q.returns ≠ resultChars p.returns ++ ['[', ']'] :=
        resultChars_ne_of_isFullResult hclear.2
          (fun r r2 hr hr2 hfull n => keyChars_ne_of_isFull
            (hp.of_mem_parts ((mem_parts_of_callback hkp).2 (Or.inr hr)))
            (hq.of_mem_parts ((mem_parts_of_callback hkq).2 (Or.inr hr2))) hfull n) 0
      exact absurd hresult.symm hno
  | false =>
    cases hqc : q.collection with
    | false => rfl
    | true =>
      have hmarked : endsMarked (keyChars p) = true :=
        endsMarked_iff.2 ⟨_, by rw [h, keyChars_eq, hqc]; rfl⟩
      rw [Param.isClearHere, hmarked, Bool.not_true, Bool.false_or, Param.isFull_eq, hpc] at hclear
      cases hclear

/-- Where nothing divides a spelling, no parentheses are put around it. -/
theorem arrayOf_mapType {type : TypeRef} (h : type.Named)
    (hbar : Text.occursIn bar (spelling type) = false) :
    arrayOf (TypeMap.builtin.mapType type) = TypeMap.builtin.mapType type ++ "[]" := by
  have harrow : Text.occursIn "=>".toList (spelling type) = false := by
    cases hoccurs : Text.occursIn "=>".toList (spelling type) with
    | false => rfl
    | true =>
      have hmem : '=' ∈ spelling type := mem_of_occursIn hoccurs (by decide)
      exact absurd (isTypeChar_of_mem_spelling h _ hmem) (by decide)
  have hbar2 : Text.occursIn " | ".toList (TypeMap.builtin.mapType type).toList = false := hbar
  have harrow2 : Text.occursIn "=>".toList (TypeMap.builtin.mapType type).toList = false := harrow
  rw [arrayOf, hbar2, harrow2]
  rfl

/-- Where nothing divides a spelling, the array of a type is spelled like the type that has the mark
itself. -/
theorem mapCollection_of_grown {type other : TypeRef} (h : type.Named)
    (hbar : Text.occursIn bar (spelling type) = false)
    (hgrown : spelling other = spelling type ++ ['[', ']']) :
    TypeMap.builtin.mapCollection type true = TypeMap.builtin.mapCollection other false := by
  rw [TypeMap.mapCollection, if_pos rfl, arrayOf_mapType h hbar, TypeMap.mapCollection,
    if_neg (by decide)]
  refine String.toList_inj.1 ?_
  rw [String.toList_append]
  exact hgrown.symm

/-- Named types with one key are spelled alike, if the key is clear. -/
theorem mapCollection_eq {type other : TypeRef} {a b : Bool} (hn : type.Named) (hn2 : other.Named)
    (hclear : Text.occursIn bar (spelling type) = false ∨
      endsMarked (spelling type ++ markChars a) = false ∨
        (a = true ∧ isSpent (spelling type) = true))
    (h : spelling type ++ markChars a = spelling other ++ markChars b) :
    TypeMap.builtin.mapCollection type a = TypeMap.builtin.mapCollection other b := by
  by_cases hab : a = b
  · subst hab
    have hsame : TypeMap.builtin.mapType type = TypeMap.builtin.mapType other :=
      String.toList_inj.1 (List.append_cancel_right h)
    rw [TypeMap.mapCollection, TypeMap.mapCollection, hsame]
  -- The mark belongs to a collection on one side, and to the type on the other.
  have hmarked : endsMarked (spelling type ++ markChars a) = true := by
    cases a with
    | true => exact endsMarked_iff.2 ⟨_, rfl⟩
    | false =>
      cases b with
      | true => exact endsMarked_iff.2 ⟨_, h⟩
      | false => exact absurd rfl hab
  rw [hmarked] at hclear
  cases a with
  | true =>
    cases b with
    | true => exact absurd rfl hab
    | false =>
      have hgrown : spelling other = spelling type ++ ['[', ']'] := by simpa using h.symm
      rcases hclear with hbar | hmarked2 | ⟨-, hspent⟩
      · exact mapCollection_of_grown hn hbar hgrown
      · cases hmarked2
      · exact absurd hgrown (spelling_ne_of_isSpent hn2 hspent 0)
  | false =>
    cases b with
    | false => exact absurd rfl hab
    | true =>
      have hgrown : spelling type = spelling other ++ ['[', ']'] := by simpa using h
      rcases hclear with hbar | hmarked2 | ⟨ha, -⟩
      · refine (mapCollection_of_grown hn2 ?_ hgrown).symm
        by_contra hoccurs
        rw [Bool.not_eq_false, Text.occursIn_iff] at hoccurs
        have hinfix := hoccurs.trans (List.prefix_append (spelling other) ['[', ']']).isInfix
        rw [← hgrown, ← Text.occursIn_iff, hbar] at hinfix
        cases hinfix
      · cases hmarked2
      · cases ha

/-- What has the key of no result is written like no result. -/
theorem expandedType_of_void (h : q.Readable) (hkey : keyChars q = resultChars none) :
    expandedType TypeMap.builtin q = "void" := by
  have hkind : q.kind = .plain := by
    rw [← kindAt_baseChars h.regular.here.type (marks_markChars q.collection), ← keyChars_eq, hkey]
    rfl
  rw [keyChars_eq, baseChars_of_plain hkind] at hkey
  have hcollection : q.collection = false := by
    cases hqc : q.collection with
    | false => rfl
    | true =>
      rw [hqc, markChars_true] at hkey
      exact absurd hkey.symm (void_ne_append_arrayMarks _ 0)
  rw [hcollection, markChars_false, List.append_nil] at hkey
  rw [expandedType_eq_collected _ h.tame.here.simple, baseType, hkind, hcollection]
  exact String.toList_inj.1 hkey

/-- Results with one key are written alike, if that holds of the values that are returned. -/
theorem expandedResult_eq_of_resultChars_eq {returns other : Option Param}
    (hp : ∀ r, returns = some r → r.Readable) (hq : ∀ r, other = some r → r.Readable)
    (hkey : resultChars returns = resultChars other)
    (h : ∀ r r2, returns = some r → other = some r2 → keyChars r = keyChars r2 →
      expandedType TypeMap.builtin r = expandedType TypeMap.builtin r2) :
    expandedResult TypeMap.builtin returns = expandedResult TypeMap.builtin other := by
  cases returns with
  | none =>
    cases other with
    | none => rfl
    | some r2 =>
      rw [resultChars_some] at hkey
      exact (expandedType_of_void (hq r2 rfl) hkey.symm).symm
  | some r =>
    cases other with
    | none =>
      rw [resultChars_some] at hkey
      exact expandedType_of_void (hp r rfl) hkey
    | some r2 =>
      rw [resultChars_some, resultChars_some] at hkey
      exact h r r2 rfl rfl hkey

/-- Fields with the same keys have the same statements, if that holds of the types. -/
theorem statements_perm_of_keys {fields others : List Param}
    (hf : ∀ f ∈ fields, isIdentifier f.name = true) (ho : ∀ g ∈ others, isIdentifier g.name = true)
    (hkeys : (fields.map (fieldKey TypeMap.builtin)).Perm (others.map (fieldKey TypeMap.builtin)))
    (htype : ∀ f ∈ fields, ∀ g ∈ others, keyChars f = keyChars g →
      expandedType TypeMap.builtin f = expandedType TypeMap.builtin g) :
    (statements TypeMap.builtin fields).Perm (statements TypeMap.builtin others) := by
  rw [statements_eq_map, statements_eq_map]
  refine perm_map_of_perm_map hkeys fun f hfm g hgm hfg => ?_
  obtain ⟨hname, hmark, hkey⟩ :=
    fieldChars_injective (hf f hfm) (ho g hgm) (congrArg String.toList hfg)
  rw [fieldText, fieldText, hname, hmark, htype f hfm g hgm hkey]

/-- Parameters with the same keys are written alike, if that holds of the types. -/
theorem expandedTexts_eq_of_keys {ps others : List Param}
    (hf : ∀ f ∈ ps, isIdentifier f.name = true) (ho : ∀ g ∈ others, isIdentifier g.name = true)
    (hkeys : ps.map fieldChars = others.map fieldChars)
    (htype : ∀ f ∈ ps, ∀ g ∈ others, keyChars f = keyChars g →
      expandedType TypeMap.builtin f = expandedType TypeMap.builtin g) :
    expandedTexts TypeMap.builtin ps = expandedTexts TypeMap.builtin others := by
  rw [expandedTexts_eq_map, expandedTexts_eq_map]
  refine map_eq_of_map_eq hkeys fun f hfm g hgm hfg => ?_
  obtain ⟨hname, hmark, hkey⟩ := fieldChars_injective (hf f hfm) (ho g hgm) hfg
  rw [parameterText, parameterText, hname, hmark, htype f hfm g hgm hkey]

/-- The same strings make the same choice. -/
theorem literalUnion_eq {values others : List PossibleValue}
    (h : values.map PossibleValue.value = others.map PossibleValue.value) :
    literalUnion values = literalUnion others := by
  have hliteral : ∀ vs : List PossibleValue,
      vs.map literal = (vs.map PossibleValue.value).map fun v => "'" ++ v ++ "'" := by
    intro vs
    rw [List.map_map]
    rfl
  rw [literalUnion, literalUnion, hliteral, hliteral, h]

/-- **Values with one key have one type**, if the key is clear. -/
theorem expandedType_eq_of_keyChars_eq (hp : p.Readable) (hq : q.Readable)
    (hclear : p.isClear = true) (h : keyChars p = keyChars q) :
    expandedType TypeMap.builtin p = expandedType TypeMap.builtin q := by
  induction p using Param.induct generalizing q with
  | step p properties parameters returns =>
    have hbase := h
    rw [keyChars_eq, keyChars_eq] at hbase
    have hkind := kind_eq_of_baseChars hp.regular.here.type hq.regular.here.type
      (marks_markChars _) (marks_markChars _) hbase
    have hhere := hclear
    rw [Param.isClear_eq] at hhere
    rw [expandedType_eq_collected _ hp.tame.here.simple,
      expandedType_eq_collected _ hq.tame.here.simple]
    cases hk : p.kind with
    | choice =>
      have hkq := hkind.symm.trans hk
      obtain ⟨hvalues, hmarks⟩ := values_of_baseChars hk hkq hp.tame.here hq.tame.here
        (marks_markChars _) (marks_markChars _) hbase
      rw [baseType_of_choice _ hk, baseType_of_choice _ hkq, markChars_injective hmarks,
        literalUnion_eq hvalues]
    | shape =>
      have hkq := hkind.symm.trans hk
      obtain ⟨hfields, hmarks⟩ := properties_of_baseChars hk hkq hp hq hbase
      rw [baseType_of_shape _ hk, baseType_of_shape _ hkq, markChars_injective hmarks]
      refine congrArg (collected _) (braced_eq_of_perm ?_)
      refine statements_perm_of_keys hp.regular.here.properties hq.regular.here.properties hfields
        fun f hf g hg hkey => ?_
      have hfp := (mem_parts_of_shape hk).2 hf
      exact properties f hf (hp.of_mem_parts hfp)
        (hq.of_mem_parts ((mem_parts_of_shape hkq).2 hg)) (isClear_of_mem_parts hclear hfp) hkey
    | callback =>
      have hkq := hkind.symm.trans hk
      obtain ⟨htaken, hresult⟩ := parameters_of_baseChars hk hkq hp hq hbase
      rw [hk] at hhere
      simp only [Bool.and_eq_true] at hhere
      have hcollection := collection_eq_of_isClearHere hk hkq hp hq hhere.1.1 h hresult
      rw [hcollection] at hresult
      have hreturned := fun r (hr : p.returns = some r) => (mem_parts_of_callback hk).2 (Or.inr hr)
      have hreturned2 := fun r (hr : q.returns = some r) =>
        (mem_parts_of_callback hkq).2 (Or.inr hr)
      have hmembers : expandedTexts TypeMap.builtin p.parameters
          = expandedTexts TypeMap.builtin q.parameters := by
        refine expandedTexts_eq_of_keys hp.regular.here.parameters hq.regular.here.parameters htaken
          fun f hf g hg hkey => ?_
        have hfp := (mem_parts_of_callback hk).2 (Or.inl hf)
        exact parameters f hf (hp.of_mem_parts hfp)
          (hq.of_mem_parts ((mem_parts_of_callback hkq).2 (Or.inl hg)))
          (isClear_of_mem_parts hclear hfp) hkey
      have hresults : expandedResult TypeMap.builtin p.returns
          = expandedResult TypeMap.builtin q.returns :=
        expandedResult_eq_of_resultChars_eq (fun r hr => hp.of_mem_parts (hreturned r hr))
          (fun r hr => hq.of_mem_parts (hreturned2 r hr)) (List.append_cancel_right hresult)
          fun r r2 hr hr2 hkey => returns r hr (hp.of_mem_parts (hreturned r hr))
            (hq.of_mem_parts (hreturned2 r2 hr2)) (isClear_of_mem_parts hclear (hreturned r hr))
            hkey
      rw [baseType_of_callback _ hk, baseType_of_callback _ hkq, hcollection, hmembers, hresults]
    | plain =>
      have hkq := hkind.symm.trans hk
      rw [baseChars_of_plain hk, baseChars_of_plain hkq] at hbase
      rw [baseType, baseType, hk, hkq]
      refine mapCollection_eq hp.regular.here.type hq.regular.here.type ?_ hbase
      rw [hk, Bool.or_eq_true, Bool.not_eq_true', Param.isClearHere, Bool.or_eq_true,
        Bool.not_eq_true', keyChars_eq, baseChars_of_plain hk, Param.isFull_eq, hk,
        Bool.and_eq_true] at hhere
      exact hhere

end

/-! ## Statements of interfaces -/

/-- **Shapes with one key have the same statements**, if the keys of the fields are clear. -/
theorem statements_perm_of_shapeKey_eq {fields others : List Param}
    (hf : ∀ f ∈ fields, isIdentifier f.name = true ∧ f.Readable)
    (ho : ∀ f ∈ others, isIdentifier f.name = true ∧ f.Readable) (hclear : areClear fields = true)
    (h : shapeKey TypeMap.builtin others = shapeKey TypeMap.builtin fields) :
    (statements TypeMap.builtin others).Perm (statements TypeMap.builtin fields) := by
  have hjoined : joinedChars fields ++ [] = joinedChars others ++ [] := by
    rw [← toList_shapeKey, ← toList_shapeKey, h]
  refine (statements_perm_of_keys (fun f hfm => (hf f hfm).1) (fun g hgm => (ho g hgm).1)
    (fieldKeys_of_joined_eq hf ho hjoined).1 fun f hfm g hgm hkey => ?_).symm
  exact expandedType_eq_of_keyChars_eq (hf f hfm).2 (ho g hgm).2 (areClear_iff.1 hclear f hfm) hkey

end Ambient
