import Mathlib.Data.List.Forall2
import Ambient.Proofs.TypeExpr.Array
import Ambient.Proofs.TypeExpr.Parts
import Ambient.Proofs.TypeMap.Unions

/-!
# Choices of expressions

Type expressions are types in the sense of choices.  What may stand between bars is an expression
with neither bars nor arrows outside of brackets, and what extends as far as it can is a function
type.  So what holds of choices in any grammar of types holds of expressions; and as it is known
what each of them says, it is known of which meanings a spelling is the choice.

## What is here

* `ReadsTight s t` — the text is an expression that may stand between bars, which says `t`.
* `exists_part_hasArrow` — an arrow outside of brackets stands in some part of the text.
* `expressions` — **the grammar of type expressions, as texts.**
* `Reads.exists_denotes` — **an expression is a choice of members**, and says the choice of what
  these say.
* `choice_of_expressions` — whether the spelling of a type is the choice of its names, where all
  mapped names are spelled as expressions.
-/

set_option autoImplicit false

namespace Ambient

open Character Text

/-! ## Members -/

/-- The text is an expression that may stand between bars, and this is what it says.  There are no
blanks around it. -/
def ReadsTight (s : List Char) (t : TypeExpr) : Prop :=
  trim s = s ∧ ∃ ts, tokens s = some ts ∧ Derives .suffixed ts t

section

variable {s : List Char} {ts : List TypeToken} {t : TypeExpr} {level : TypeLevel}

/-- The blanks around an expression have no part in it. -/
theorem Derives.tokens_trim (h : Derives level ts t) (hs : Tokens s ts) : Tokens (trim s) ts := by
  refine hs.trim ?_ ?_
  · obtain ⟨c, more, rfl, hc⟩ := h.exists_cons
    rintro ⟨⟩
    cases hc
  · obtain ⟨front, c, rfl, hc⟩ := h.exists_concat
    rw [List.getLast?_concat]
    exact fun hlast => hc (Option.some.inj hlast)

theorem readsTight_trim (h : Derives .suffixed ts t) (hs : Tokens s ts) : ReadsTight (trim s) t :=
  ⟨trim_trim s, ts, tokens_iff.2 (h.tokens_trim hs), h⟩

theorem readsTight_of_isIdentifier {e : String} (h : isIdentifier e = true) :
    ReadsTight e.toList (.name e.toList) :=
  ⟨(isBare_of_isIdentifier h).1, _, tokens_of_isIdentifier h, .suffixed 0 (.name _)⟩

theorem ReadsTight.reads (h : ReadsTight s t) : Reads (String.ofList s) t := by
  obtain ⟨-, ts, hts, ht⟩ := h
  exact ⟨ts, by rwa [String.toList_ofList], ht.whole_of_suffixed⟩

theorem ReadsTight.ne_nil (h : ReadsTight s t) : s ≠ [] := by
  rintro rfl
  obtain ⟨-, ts, hts, ht⟩ := h
  cases hts
  obtain ⟨c, more, hcons, -⟩ := ht.exists_cons
  cases hcons

theorem ReadsTight.isClosed (h : ReadsTight s t) : IsClosed s := by
  obtain ⟨-, ts, hts, ht⟩ := h
  exact ht.isClosed (tokens_iff.1 hts)

theorem ReadsTight.sheltered (h : ReadsTight s t) : Nesting.bare.sheltered s = true := by
  obtain ⟨-, ts, hts, ht⟩ := h
  exact ht.sheltered (tokens_iff.1 hts)

theorem ReadsTight.barParts (h : ReadsTight s t) : barParts s = [s] := by
  rw [barParts_of_sheltered h.sheltered, h.1]

end

/-! ## Arrows -/

section

variable {n : Nesting} {s : List Char}

theorem hasArrowFrom_append (n : Nesting) (s t : List Char) :
    hasArrowFrom n (s ++ t) = (hasArrowFrom n s || hasArrowFrom (s.foldl Nesting.step n) t) := by
  induction s generalizing n with
  | nil => rfl
  | cons c rest ih => rw [List.cons_append, hasArrowFrom, hasArrowFrom, ih, Bool.or_assoc]; rfl

/-- Where nothing is open and no arrow is under way, it does not matter what stands in front. -/
theorem hasArrowFrom_eq_bare (hclosers : n.closers = []) (hbefore : n.before ≠ '=')
    (s : List Char) : hasArrowFrom n s = hasArrowFrom Nesting.bare s := by
  cases s with
  | nil => rfl
  | cons c rest =>
    rw [hasArrowFrom, hasArrowFrom, Nesting.step_of_closers_eq_nil hclosers,
      Nesting.step_of_closers_eq_nil rfl, beq_false_of_ne hbefore]
    simp [Nesting.bare]

theorem hasArrowFrom_cons_blank {c : Char} (hc : isBlank c = true) (s : List Char) :
    hasArrowFrom Nesting.bare (c :: s) = hasArrowFrom Nesting.bare s := by
  have hequals : c ≠ '=' := by
    rintro rfl
    exact absurd hc (by decide)
  rw [hasArrowFrom, Nesting.step_of_closers_eq_nil rfl, Nesting.closer?_of_isBlank hc,
    hasArrowFrom_eq_bare rfl hequals]
  rfl

theorem hasArrowFrom_append_blank {c : Char} (hc : isBlank c = true) (n : Nesting)
    (s : List Char) : hasArrowFrom n (s ++ [c]) = hasArrowFrom n s := by
  have hangle : c ≠ '>' := by
    rintro rfl
    exact absurd hc (by decide)
  rw [hasArrowFrom_append, hasArrowFrom, hasArrowFrom, beq_false_of_ne hangle, Bool.and_false,
    Bool.or_false, Bool.or_false]

/-- The blanks around a text have no part in arrows. -/
theorem hasArrowFrom_trim (s : List Char) :
    hasArrowFrom Nesting.bare (trim s) = hasArrowFrom Nesting.bare s :=
  trim_induction (P := fun t => hasArrowFrom Nesting.bare t = hasArrowFrom Nesting.bare s)
    (fun _ t hc h => (hasArrowFrom_cons_blank hc t).symm.trans h)
    (fun _ t hc h => (hasArrowFrom_append_blank hc _ t).symm.trans h) rfl

/-- An arrow outside of brackets stands in some part of the text. -/
theorem exists_part_hasArrow (current s : List Char)
    (h : hasArrowFrom Nesting.bare (current.reverse ++ s) = true) :
    ∃ part ∈ barPartsFrom (current.reverse.foldl Nesting.step Nesting.bare) current s,
      hasArrowFrom Nesting.bare part = true := by
  induction s generalizing current with
  | nil =>
    rw [List.append_nil] at h
    exact ⟨_, List.mem_singleton.2 rfl, (hasArrowFrom_trim _).trans h⟩
  | cons c rest ih =>
    rw [barPartsFrom]
    split
    · rename_i hbar
      obtain ⟨hclosers, rfl⟩ := hbar
      have hbehind : hasArrowFrom ⟨(Nesting.closer? '|').toList, '|'⟩ rest
          = hasArrowFrom Nesting.bare rest :=
        hasArrowFrom_eq_bare rfl (by decide : '|' ≠ '=') rest
      rw [hasArrowFrom_append, hasArrowFrom, Nesting.step_of_closers_eq_nil hclosers, hbehind,
        Bool.or_eq_true] at h
      rcases h with hfront | hrest
      · exact ⟨_, List.mem_cons_self, (hasArrowFrom_trim _).trans hfront⟩
      · obtain ⟨part, hpart, harrow⟩ := ih [] (by simpa using hrest)
        exact ⟨part, List.mem_cons_of_mem _ hpart, harrow⟩
    · have hmore := ih (c :: current) (by simpa using h)
      rwa [List.reverse_cons, List.foldl_append] at hmore

end

/-! ## The grammar -/

/-- **The grammar of type expressions, as texts.**  What extends as far as it can has an arrow
outside of brackets. -/
def expressions : TypeGrammar where
  Identifier s := isIdentifier (String.ofList s) = true
  Member s := ∃ t, ReadsTight s t
  Loose s := hasArrowFrom Nesting.bare s = true ∧ ∃ t, Reads (String.ofList s) t
  isIdentifier _ h := h
  member_of_identifier s h := by
    have htight := readsTight_of_isIdentifier h
    rw [String.toList_ofList] at htight
    exact ⟨_, htight⟩
  member _ := fun ⟨_, h⟩ => ⟨h.ne_nil, h.isClosed, h.barParts⟩
  loose s := by
    rintro ⟨harrow, t, ts, hts, ht⟩
    rw [String.toList_ofList] at hts
    obtain ⟨part, hpart, hpartArrow⟩ := exists_part_hasArrow [] s harrow
    refine ⟨ht.isClosed (tokens_iff.1 hts), part, hpart, ?_, ?_⟩
    · rintro rfl
      cases hpartArrow
    · rintro ⟨u, hu⟩
      rw [hasArrowFrom_of_sheltered hu.sheltered] at hpartArrow
      cases hpartArrow

/-! ## Expressions as choices -/

section

variable {s : List Char} {ts : List TypeToken} {t : TypeExpr} {e : String}

/-- What stands between the bars of a choice says what its members do. -/
theorem readsTight_barParts {members : List TypePart} (hne : members ≠ [])
    (h : ∀ m ∈ members, Derives .suffixed m.1 m.2)
    (hs : Tokens s ([.bar].intercalate (members.map Prod.fst))) :
    List.Forall₂ ReadsTight (barParts s) (members.map Prod.snd) := by
  induction members generalizing s with
  | nil => exact absurd rfl hne
  | cons m rest ih =>
    rw [List.forall_mem_cons] at h
    have hfirst {x : List Char} (hx : Tokens x m.1) : barParts x = [trim x] :=
      barParts_of_sheltered (h.1.sheltered hx)
    cases rest with
    | nil =>
      rw [List.map_singleton, List.intercalate_singleton] at hs
      rw [hfirst hs]
      exact .cons (readsTight_trim h.1 hs) .nil
    | cons m2 more =>
      rw [List.map_cons, List.map_cons, List.intercalate_cons_cons, List.append_assoc] at hs
      obtain ⟨x, part, y, rfl, hpart, hx, hy⟩ := hs.split nofun nofun
      obtain rfl : part = [' ', '|', ' '] := by simpa [TypeToken.signs] using hpart
      have hparts := barParts_append (h.1.isClosed hx) y
      rw [hfirst hx] at hparts
      change List.Forall₂ ReadsTight (barParts (x ++ ' ' :: '|' :: ' ' :: y)) _
      rw [hparts]
      exact .cons (readsTight_trim h.1 hx) (ih (List.cons_ne_nil _ _) h.2 hy)

/-- The arrow of a function type stands outside of brackets. -/
theorem hasArrowFrom_function {parameters : List TypeParam}
    (h : ∀ p ∈ parameters, ∀ part, p.type = some part → Derives .whole part.1 part.2)
    (hs : Tokens s (.openParen :: ([.comma].intercalate (parameters.map TypeParam.tokens) ++
      .closeParen :: .arrow :: ts))) : hasArrowFrom Nesting.bare s = true := by
  rw [List.append_cons, ← List.cons_append] at hs
  obtain ⟨x, part, y, rfl, hpart, hx, -⟩ := hs.split nofun nofun
  obtain rfl : part = ['=', '>'] := by simpa [TypeToken.signs] using hpart
  have hkeeps : Keeps True [] _ := keeps_parameters fun p hp part hpart =>
    ((h p hp part hpart).keeps [')']).mono fun _ => .inr (List.cons_ne_nil _ _)
  have hclosers := (hx.follows Nesting.isIdle_bare).closers.trans hkeeps.nest
  rw [hasArrowFrom_append]
  change (_ || hasArrowFrom _ ('=' :: '>' :: y)) = true
  rw [hasArrowFrom, Nesting.step_of_closers_eq_nil hclosers, hasArrowFrom]
  simp [Nesting.closer?]

/-- **An expression is a choice of members**, and says the choice of what these say. -/
theorem Reads.exists_denotes (h : Reads e t) :
    ∃ ms us, expressions.Denotes e ms ∧ t = .choice us ∧
      List.Forall₂ (fun m u => Reads (String.ofList m) u) ms us := by
  have hreads := h
  obtain ⟨ts, hts, ht⟩ := h
  rw [tokens_iff] at hts
  have hclosed := ht.isClosed hts
  cases ht with
  | @choice members hne hmembers =>
    have htight := readsTight_barParts hne hmembers hts
    obtain ⟨hmember, -⟩ := (List.forall₂_and_left _ _).1 <|
      htight.imp fun m u hu => (⟨⟨u, hu⟩, hu⟩ : expressions.Member m ∧ ReadsTight m u)
    exact ⟨_, _, .inl ⟨hclosed, barParts_ne_nil _, hmember, .inl rfl⟩, rfl,
      htight.imp fun _ _ => ReadsTight.reads⟩
  | function hparameters hresult =>
    have harrow := hasArrowFrom_function hparameters hts
    have htrim := (Derives.function hparameters hresult).tokens_trim hts
    refine ⟨[trim e.toList], [_], .inr ⟨⟨harrow, _, by rwa [String.ofList_toList]⟩, rfl⟩, rfl,
      .cons ⟨_, ?_, .function hparameters hresult⟩ .nil⟩
    rw [String.toList_ofList]
    exact tokens_iff.2 htrim

end

/-- **Choices of expressions.**  Let all mapped names be spelled as expressions.  Then all names in
a type made of identifiers are, and each is a choice of members, of which it is known what they say.
The spelling of the type is the choice of the members of all names just in case its pieces and the
spellings of its names allow for it. -/
theorem choice_of_expressions (types : TypeMap) (type : TypeRef)
    (hmapped : ∀ name e, types.get? name = some e → ∃ t, Reads e t)
    (hnames : ∀ n ∈ type.names, isIdentifier n = true) :
    ∃ (members : String → List (List Char)) (meanings : String → List TypeExpr),
      (∀ n ∈ type.names, expressions.Denotes (types.mapName n) (members n) ∧
        Reads (types.mapName n) (.choice (meanings n)) ∧
        List.Forall₂ (fun m u => Reads (String.ofList m) u) (members n) (meanings n)) ∧
      (expressions.Joins types type ↔
        expressions.Denotes (types.mapType type) (type.names.flatMap members)) := by
  have hreads (n : String) (hn : n ∈ type.names) : ∃ t, Reads (types.mapName n) t := by
    rw [mapName_of_isIdentifier (hnames n hn)]
    cases hget : types.get? n with
    | some e => exact hmapped n e hget
    | none => exact ⟨_, reads_of_isIdentifier (hnames n hn)⟩
  have hdenotes (n : String) : ∃ ms us, n ∈ type.names →
      expressions.Denotes (types.mapName n) ms ∧ Reads (types.mapName n) (.choice us) ∧
        List.Forall₂ (fun m u => Reads (String.ofList m) u) ms us := by
    by_cases hn : n ∈ type.names
    · obtain ⟨t, ht⟩ := hreads n hn
      obtain ⟨ms, us, hms, rfl, hus⟩ := ht.exists_denotes
      exact ⟨ms, us, fun _ => ⟨hms, ht, hus⟩⟩
    · exact ⟨[], [], fun h => absurd h hn⟩
  choose members meanings hmembers using hdenotes
  have hspelled := fun n hn => (hmembers n hn).1
  exact ⟨members, meanings, hmembers, denotes_of_joins hspelled,
    fun h => joins_of_denotes hspelled h fun m => List.mem_flatMap.1⟩

end Ambient
