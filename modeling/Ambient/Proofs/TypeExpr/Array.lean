import Ambient.Proofs.Synthesis.Run
import Ambient.Proofs.TypeExpr.Grammar

/-!
# Arrays of type expressions

Whether the element of an array is put between parentheses is decided by its text alone: it is if a
bar with blanks around it or an arrow stands anywhere in it, be it in a string, between brackets or
between parentheses.  Where there are none, the `[]` behind the element belongs to all of it; and
where parentheses are not needed they do no harm.

## What is here

* `Reads e t` — the text is a type expression, which says `t`; `Reads.unique` — and nothing else.
* `reads_arrayOf` — **the array type of an expression is that of all of it.**
* `mapName_append_arrayMarks` — the `[]` behind a name.
* `valueType_collection`, `internShape_collection` — the types of collections.
* `arrays_of_elements` — how arrays of names, of values and of interfaces are spelled.
-/

set_option autoImplicit false

namespace Ambient

open Character Signature Synthesis Text

/-! ## Reading a type expression -/

/-- The text is a type expression, and this is what it says. -/
def Reads (e : String) (t : TypeExpr) : Prop :=
  ∃ ts, tokens e.toList = some ts ∧ Derives .whole ts t

section

variable {e : String} {t u : TypeExpr}

/-- A type expression says one thing only. -/
theorem Reads.unique (h : Reads e t) (h2 : Reads e u) : t = u := by
  obtain ⟨ts, hts, ht⟩ := h
  obtain ⟨us, hus, hu⟩ := h2
  cases hts.symm.trans hus
  exact (derives_unique ht hu rfl (ends_nil _) (ends_nil _)).1

theorem tokens_of_isIdentifier (h : isIdentifier e = true) :
    tokens e.toList = some [.name e.toList] := by
  obtain ⟨c, rest, he, hchars⟩ := exists_cons_of_isIdentifier h
  have hfirst : firstToken e.toList = some (some (.name e.toList), e.toList.length) := by
    have hall := List.takeWhile_eq_self_iff.2 hchars
    rw [he, firstToken_of_isNameChar (hchars c List.mem_cons_self), hall]
  have htokens := Tokens.more hfirst (by rw [List.drop_length]; exact .nil)
  exact tokens_iff.2 htokens

theorem reads_of_isIdentifier (h : isIdentifier e = true) : Reads e (.name e.toList) :=
  ⟨_, tokens_of_isIdentifier h, (Derives.suffixed 0 (.name _)).whole_of_suffixed⟩

/-- **The array type of an expression is that of all of it.** -/
theorem reads_arrayOf (h : Reads e t) : Reads (arrayOf e) (.array t) := by
  obtain ⟨ts, hts, ht⟩ := h
  have hmarks : tokens ['[', ']'] = some [.openBracket, .closeBracket] := by decide +kernel
  have hclosed : tokens [')', '[', ']'] = some [.closeParen, .openBracket, .closeBracket] := by
    decide +kernel
  rw [arrayOf]
  split
  · have htext : ("(" ++ e ++ ")[]").toList = '(' :: (e.toList ++ ')' :: ['[', ']']) := by
      simp
    refine ⟨_, ?_, ht.array_of_parenthesized.whole_of_suffixed⟩
    rw [htext, tokens_openParen (tokens_append (by decide) hts hclosed)]
    simp
  · -- There is neither a bar nor an arrow among the tokens.
    rename_i hnot
    rw [Bool.or_eq_true, not_or] at hnot
    have hsign {sign : TypeToken} (hmem : sign ∈ ts) (hname : ∀ word, sign ≠ .name word)
        (hliteral : ∀ units, sign ≠ .literal units) :
        ∃ part, (part, sign) ∈ TypeToken.signs ∧ occursIn part e.toList = true :=
      occursIn_of_mem_tokens hts hmem hname hliteral
    have hbar : TypeToken.bar ∉ ts := fun hmem => by
      obtain ⟨part, hpart, hoccurs⟩ := hsign hmem (by simp) (by simp)
      obtain rfl : part = " | ".toList := by simpa [TypeToken.signs] using hpart
      exact hnot.1 hoccurs
    have harrow : TypeToken.arrow ∉ ts := fun hmem => by
      obtain ⟨part, hpart, hoccurs⟩ := hsign hmem (by simp) (by simp)
      obtain rfl : part = "=>".toList := by simpa [TypeToken.signs] using hpart
      exact hnot.2 hoccurs
    refine ⟨_, ?_, (ht.suffixed_of_whole hbar harrow).array.whole_of_suffixed⟩
    rw [String.toList_append]
    exact tokens_append (by decide) hts hmarks

theorem reads_arrayOfDepth (h : Reads e t) (depth : Nat) :
    Reads (arrayOfDepth depth e) (.arrays depth t) := by
  induction depth with
  | zero => exact h
  | succ depth ih => exact reads_arrayOf ih

end

/-! ## Names -/

section

variable (types : TypeMap)

/-- The name of the element, without blanks around it and without `[]`. -/
def elementName (name : String) : String :=
  String.ofList (peelArrays (trim name.toList).reverse).2.reverse

theorem mapName_eq (name : String) :
    types.mapName name = arrayOfDepth (peelArrays (trim name.toList).reverse).1
      (types.mapElement (elementName name)) := rfl

/-- One more `[]` behind a name is one more that is taken off. -/
theorem peelArrays_append (s : List Char) :
    peelArrays (trim (s ++ ['[', ']'])).reverse
      = ((peelArrays (trim s).reverse).1 + 1, (peelArrays (trim s).reverse).2) := by
  have hstart : trimStart (s ++ ['[', ']']) = trimStart s ++ ['[', ']'] := by
    rw [trimStart, List.dropWhile_append]
    split
    · rename_i hblank
      rw [trimStart, List.isEmpty_iff.1 hblank]
      rfl
    · rfl
  have hend : (trim (s ++ ['[', ']'])).reverse = ']' :: '[' :: (trimStart s).reverse := by
    rw [trim, hstart, trimEnd, List.reverse_reverse, List.reverse_append]
    rfl
  have hrest : (trimStart s).reverse.dropWhile isBlank = (trim s).reverse := by
    rw [trim, trimEnd, List.reverse_reverse]
  rw [hend, peelArrays, hrest]

/-- **A name with `[]` behind it** is spelled as an array of what the name is spelled as. -/
theorem mapName_append_arrayMarks (name : String) (depth : Nat) :
    types.mapName (name ++ String.ofList (arrayMarks depth))
      = arrayOfDepth depth (types.mapName name) := by
  induction depth with
  | zero =>
    rw [arrayMarks, String.ofList_nil, String.append_empty]
    rfl
  | succ depth ih =>
    have hname : (name ++ String.ofList (arrayMarks (depth + 1))).toList
        = (name ++ String.ofList (arrayMarks depth)).toList ++ ['[', ']'] := by
      simp [arrayMarks]
    rw [arrayOfDepth_succ, ← ih, mapName_eq, mapName_eq, elementName, elementName, hname,
      peelArrays_append]
    rfl

/-- What is mapped is spelled as an expression if every mapped name is; so are identifiers, and what
has no name is `any`. -/
theorem reads_mapElement (hmapped : ∀ name e, types.get? name = some e → ∃ t, Reads e t)
    {name : String} (h : name = "" ∨ types.contains name = true ∨ isIdentifier name = true) :
    ∃ t, Reads (types.mapElement name) t := by
  rw [TypeMap.mapElement]
  split
  · exact ⟨_, reads_of_isIdentifier (by decide)⟩
  · rename_i hne
    cases hget : types.get? name with
    | some e => exact hmapped name e hget
    | none =>
      rcases h with rfl | hcontains | hidentifier
      · exact absurd rfl hne
      · rw [TypeMap.contains, hget] at hcontains
        cases hcontains
      · exact ⟨_, reads_of_isIdentifier hidentifier⟩

end

/-! ## Collections -/

section

variable (types : TypeMap) (site : Site)

theorem innerType_collection (p : Param) :
    innerType types site { p with collection := true }
      = arrayOf <$> innerType types site { p with collection := false } := by
  have hinner (collection : Bool) : innerType types site { p with collection := collection } =
      if !p.possibleValues.isEmpty then return collected collection (literalUnion p.possibleValues)
      else if p.isCallback then do
        let taken ← parameterTexts types site p.parameters
        let result ← resultType types site p.returns
        return collected collection (arrow taken result)
      else return types.mapCollection p.type collection := rfl
  rw [hinner, hinner]
  cases p.possibleValues.isEmpty with
  | false => exact (map_pure arrayOf _).symm
  | true =>
    cases p.isCallback with
    | false => exact (map_pure arrayOf _).symm
    | true =>
      change (parameterTexts types site p.parameters >>= _) = _ <$> (_ >>= _)
      rw [map_bind]
      refine congrArg _ (funext fun taken => ?_)
      rw [map_bind]
      exact congrArg _ (funext fun result => (map_pure arrayOf _).symm)

theorem internShape_collection (shape : Param) (naming : Naming) :
    internShape types { shape with collection := true } naming
      = arrayOf <$> internShape types { shape with collection := false } naming := by
  rw [internShape, internShape, map_bind]
  exact congrArg _ (funext fun interface => (map_pure arrayOf _).symm)

/-- **The type of a collection** is the array type of what it would be for a single value. -/
theorem valueType_collection (naming : Option Naming) (p : Param) :
    valueType types site naming { p with collection := true }
      = arrayOf <$> valueType types site naming { p with collection := false } := by
  cases hshape : p.isObjectShape with
  | false =>
    rw [valueType_of_not_isObjectShape _ _ _ (p := { p with collection := true }) hshape,
      valueType_of_not_isObjectShape _ _ _ (p := { p with collection := false }) hshape]
    exact innerType_collection types site p
  | true =>
    cases naming with
    | none =>
      rw [valueType_none, valueType_none]
      exact innerType_collection types site p
    | some naming =>
      rw [valueType_of_isObjectShape _ _ _ (p := { p with collection := true }) hshape,
        valueType_of_isObjectShape _ _ _ (p := { p with collection := false }) hshape]
      exact internShape_collection types p naming

/-- Where the type of a single value is an expression, that of a collection is the array of it. -/
theorem reads_of_run_map {x : Synthesis String} {s s' : Interner} {e : String} {t : TypeExpr}
    (h : x.run s = (.ok e, s')) (ht : Reads e t) :
    ∃ text, (arrayOf <$> x).run s = (.ok text, s') ∧ Reads text (.array t) := by
  refine ⟨arrayOf e, ?_, reads_arrayOf ht⟩
  rw [map_eq_pure_bind, run_bind_of_ok _ h]
  rfl

end

/-- **Arrays are those of the whole element.**  A type expression says one thing only, and its array
type says that there is an array of it.  So a name with `[]` behind it is spelled as an array of
what the name is spelled as, an array of arrays for more of them, and it is spelled as an expression
if all mapped names are; and the types of collections are those of arrays of single values, whether
they are mapped, composed or interned. -/
theorem arrays_of_elements (types : TypeMap) :
    (∀ e t u, Reads e t → Reads e u → t = u) ∧
    (∀ e t, Reads e t → Reads (arrayOf e) (.array t)) ∧
    (∀ name t, Reads (types.mapName name) t →
      ∀ depth, Reads (types.mapName (name ++ String.ofList (arrayMarks depth))) (.arrays depth t)) ∧
    ((∀ name e, types.get? name = some e → ∃ t, Reads e t) →
      ∀ name, elementName name = "" ∨ types.contains (elementName name) = true ∨
          isIdentifier (elementName name) = true →
        ∃ t, ∀ depth,
          Reads (types.mapName (name ++ String.ofList (arrayMarks depth))) (.arrays depth t)) ∧
    (∀ (p : Param) t, Reads (types.mapParam { p with collection := false }) t →
      Reads (types.mapParam { p with collection := true }) (.array t)) ∧
    (∀ site naming (p : Param) s e s' t,
      (valueType types site naming { p with collection := false }).run s = (.ok e, s') →
      Reads e t → ∃ text,
        (valueType types site naming { p with collection := true }).run s = (.ok text, s') ∧
          Reads text (.array t)) ∧
    (∀ (shape : Param) naming s e s' t,
      (internShape types { shape with collection := false } naming).run s = (.ok e, s') →
      Reads e t → ∃ text,
        (internShape types { shape with collection := true } naming).run s = (.ok text, s') ∧
          Reads text (.array t)) := by
  have hname (name : String) (t : TypeExpr) (h : Reads (types.mapName name) t) (depth : Nat) :
      Reads (types.mapName (name ++ String.ofList (arrayMarks depth))) (.arrays depth t) := by
    rw [mapName_append_arrayMarks]
    exact reads_arrayOfDepth h depth
  refine ⟨fun _ _ _ => Reads.unique, fun _ _ => reads_arrayOf, hname, fun hmapped name h => ?_,
    fun p t h => reads_arrayOf h, fun site naming p s e s' t h ht => ?_,
    fun shape naming s e s' t h ht => ?_⟩
  · obtain ⟨t, ht⟩ := reads_mapElement types hmapped h
    have hspelled : ∃ u, Reads (types.mapName name) u := by
      rw [mapName_eq]
      exact ⟨_, reads_arrayOfDepth ht _⟩
    obtain ⟨u, hu⟩ := hspelled
    exact ⟨u, hname name u hu⟩
  · rw [valueType_collection]
    exact reads_of_run_map h ht
  · rw [internShape_collection]
    exact reads_of_run_map h ht

/-- Spells handlers as functions to a choice. -/
def handlers : TypeMap := TypeMap.empty.register "Handler" "(x: number) => 'on' | 'off'"

/-- What a handler is. -/
def handler : TypeExpr :=
  .function [(false, ['x'], false, some (.name "number".toList))]
    (.union [.literal (Literal.unitsOf "on".toList), .literal (Literal.unitsOf "off".toList)])

theorem reads_handler : Reads (handlers.mapName "Handler") handler := by
  have hname : handlers.mapName "Handler" = "(x: number) => 'on' | 'off'" := by decide +kernel
  have htokens : tokens "(x: number) => 'on' | 'off'".toList =
      some [.openParen, .name ['x'], .colon, .name "number".toList, .closeParen, .arrow,
        .literal (Literal.unitsOf "on".toList), .bar, .literal (Literal.unitsOf "off".toList)] := by
    decide +kernel
  have hnumber : Derives .whole [.name "number".toList] (.name "number".toList) :=
    (Derives.suffixed 0 (.name _)).whole_of_suffixed
  have hliteral (us : List Nat) : Derives .suffixed [.literal us] (.literal us) :=
    .suffixed 0 (.literal us)
  have hresult (us vs : List Nat) :
      Derives .whole [.literal us, .bar, .literal vs] (.union [.literal us, .literal vs]) :=
    @Derives.choice [([.literal us], .literal us), ([.literal vs], .literal vs)]
      (List.cons_ne_nil _ _) (by simp [hliteral])
  have hfunction := @Derives.function [⟨false, ['x'], false, some (_, _)⟩] _ _
    (by simpa using hnumber)
    (hresult (Literal.unitsOf "on".toList) (Literal.unitsOf "off".toList))
  exact ⟨_, hname ▸ htokens, hfunction⟩

/-- An array of arrays of handlers. -/
theorem arrays_of_elements_handlers :
    handlers.mapName "Handler[][]" = "(((x: number) => 'on' | 'off')[])[]" ∧
      Reads (handlers.mapName "Handler[][]") (.array (.array handler)) := by
  refine ⟨by decide +kernel, ?_⟩
  obtain ⟨-, -, hname, -⟩ := arrays_of_elements handlers
  exact hname "Handler" handler reads_handler 2

end Ambient
