import Ambient.Proofs.TypeExpr.Nesting
import Ambient.Proofs.TypeMap.History

/-!
# Choices of types

A choice is spelled by the spellings of its members with bars between them, and nothing is put
around those.  In TypeScript that says the choice of all the members if each of them is a type that
may stand between bars, or a choice of such types.  A function type is not: it extends as far as it
can, and takes the bar that follows for its own.  A choice of nothing has no spelling, and leaves a
gap between bars.  And the bar that may stand in front of the first member of a choice may not stand
in front of any other.

What is known of the grammar of types is said in terms of texts: which of them may stand between
bars, which extend as far as they can, and that either can be told at the bare bars.

## What is here

* `TypeGrammar` — types as texts; `TypeGrammar.Denotes` — the members of which a type is a choice.
* `TypeRef.pieces` — the names in a type, and the gaps; `barParts_mapType` — what stands between the
  bars of a spelling.
* `TypeGrammar.Joins` — the condition under which the spelling of a type is a choice.
* `choice_of_mapType` — **whether the spelling of a type says the choice of its names.**
* `outline` — types by what they look like from outside.  Type expressions with all that stands in
  them are the grammar of `TypeMap/Expressions`.
-/

set_option autoImplicit false

namespace Ambient

open Text Character

/-! ## Types as texts -/

/-- Types of TypeScript, as texts.  Comments are no part of them. -/
structure TypeGrammar where
  /-- The text names a type. -/
  Identifier : List Char → Prop
  /-- The text is a type that may stand between bars. -/
  Member : List Char → Prop
  /-- The text is a type that extends as far as it can: a function type, a constructor type or a
  conditional type. -/
  Loose : List Char → Prop
  isIdentifier : ∀ s, Identifier s → isIdentifier (String.ofList s) = true
  member_of_identifier : ∀ s, Identifier s → Member s
  /-- What may stand between bars is no blank, and has no bare bars in it. -/
  member : ∀ s, Member s → s ≠ [] ∧ IsClosed s ∧ barParts s = [s]
  /-- What extends as far as it can has an arrow or a question mark outside of brackets, and the
  part in which that stands may not stand between bars. -/
  loose : ∀ s, Loose s → IsClosed s ∧ ∃ part ∈ barParts s, part ≠ [] ∧ ¬ Member part

namespace TypeGrammar

variable (G : TypeGrammar)

/-- The text is a choice of the members, perhaps of a single one.  There may be a bar in front. -/
structure IsChoice (s : List Char) (ms : List (List Char)) : Prop where
  closed : IsClosed s
  ne_nil : ms ≠ []
  members : ∀ m ∈ ms, G.Member m
  parts : barParts s = ms ∨ barParts s = [] :: ms

/-- The text is a type, and this is of which members it is a choice. -/
def Denotes (e : String) (ms : List (List Char)) : Prop :=
  G.IsChoice e.toList ms ∨ G.Loose e.toList ∧ ms = [trim e.toList]

variable {G} {s : List Char} {e : String} {ms ns : List (List Char)}

theorem not_member_nil : ¬ G.Member [] := fun h => (G.member [] h).1 rfl

theorem IsChoice.unique (h : G.IsChoice s ms) (h2 : G.IsChoice s ns) : ms = ns := by
  have hnil {ks : List (List Char)} (hk : G.IsChoice s ks) : [] ∉ ks :=
    fun hmem => not_member_nil (hk.members [] hmem)
  rcases h.parts with hms | hms <;> rcases h2.parts with hns | hns
  · exact hms.symm.trans hns
  · exact absurd (hms.symm.trans hns ▸ List.mem_cons_self) (hnil h)
  · exact absurd (hns.symm.trans hms ▸ List.mem_cons_self) (hnil h2)
  · exact List.tail_eq_of_cons_eq (hms.symm.trans hns)

/-- Every part of a choice is a member of it, or a gap. -/
theorem IsChoice.part (h : G.IsChoice s ms) {part : List Char} (hpart : part ∈ barParts s) :
    part = [] ∨ part ∈ ms := by
  rcases h.parts with hparts | hparts
  · exact .inr (hparts ▸ hpart)
  · exact List.mem_cons.1 (hparts ▸ hpart)

theorem not_loose_of_isChoice (h : G.IsChoice s ms) : ¬ G.Loose s := by
  intro hloose
  obtain ⟨-, part, hpart, hne, hmember⟩ := G.loose s hloose
  exact hmember (h.members part ((h.part hpart).resolve_left hne))

theorem Denotes.isChoice (h : G.Denotes e ms) (hloose : ¬ G.Loose e.toList) :
    G.IsChoice e.toList ms := h.resolve_right fun h => hloose h.1

theorem Denotes.closed (h : G.Denotes e ms) : IsClosed e.toList := by
  rcases h with hchoice | ⟨hloose, -⟩
  · exact hchoice.closed
  · exact (G.loose _ hloose).1

theorem Denotes.ne_nil (h : G.Denotes e ms) : ms ≠ [] := by
  rcases h with hchoice | ⟨-, rfl⟩
  · exact hchoice.ne_nil
  · exact List.cons_ne_nil _ _

/-- A text is a type in one way only. -/
theorem Denotes.unique (h : G.Denotes e ms) (h2 : G.Denotes e ns) : ms = ns := by
  rcases h with hchoice | ⟨hloose, rfl⟩
  · exact hchoice.unique (h2.isChoice (not_loose_of_isChoice hchoice))
  · rcases h2 with hchoice | ⟨-, rfl⟩
    · exact absurd hloose (not_loose_of_isChoice hchoice)
    · rfl

/-- A type is no blank text. -/
theorem Denotes.trim_ne_nil (h : G.Denotes e ms) : trim e.toList ≠ [] := by
  intro hblank
  have hparts : barParts e.toList = [[]] := by rw [← barParts_trim, hblank]; rfl
  rcases h with hchoice | ⟨hloose, -⟩
  · obtain ⟨m, rest, rfl⟩ := List.exists_cons_of_ne_nil hchoice.ne_nil
    have hm := hchoice.members m List.mem_cons_self
    rcases hchoice.parts with h | h
    · obtain ⟨rfl, -⟩ := List.cons.inj (hparts.symm.trans h)
      exact not_member_nil hm
    · cases hparts.symm.trans h
  · obtain ⟨-, part, hpart, hne, -⟩ := G.loose _ hloose
    rw [hparts, List.mem_singleton] at hpart
    exact hne hpart

/-- What a type is a choice of has as many bars in it as the type, or less. -/
theorem Denotes.length_barParts_le (h : G.Denotes e ms) {m : List Char} (hm : m ∈ ms) :
    (barParts m).length ≤ (barParts e.toList).length := by
  rcases h with hchoice | ⟨-, rfl⟩
  · rw [(G.member m (hchoice.members m hm)).2.2]
    exact List.length_pos_iff.2 (barParts_ne_nil _)
  · rw [List.mem_singleton.1 hm, barParts_trim]

end TypeGrammar

/-! ## What stands between the bars of a spelling -/

mutual

/-- The names in a type, and a gap for each choice of nothing. -/
def TypeRef.pieces : TypeRef → List (Option String)
  | .name n => [some n]
  | .union members => if members.isEmpty then [none] else piecesOfMembers members

/-- The names in several types, and the gaps. -/
def piecesOfMembers : List TypeRef → List (Option String)
  | [] => []
  | member :: rest => member.pieces ++ piecesOfMembers rest

end

theorem pieces_union {members : List TypeRef} (h : members ≠ []) :
    (TypeRef.union members).pieces = members.flatMap TypeRef.pieces := by
  have hmembers (members : List TypeRef) :
      piecesOfMembers members = members.flatMap TypeRef.pieces := by
    induction members with
    | nil => rfl
    | cons m rest ih => rw [piecesOfMembers, ih, List.flatMap_cons]
  rw [TypeRef.pieces, if_neg (by simpa using h), hmembers]

/-- The names are pieces, and all other pieces are gaps. -/
theorem names_eq_flatMap_pieces (type : TypeRef) :
    type.names = type.pieces.flatMap Option.toList := by
  induction type using TypeRef.induct with
  | name n => rfl
  | union members ih =>
    have hnames (members : List TypeRef) :
        namesOfMembers members = members.flatMap TypeRef.names := by
      induction members with
      | nil => rfl
      | cons m rest ih => rw [namesOfMembers, ih, List.flatMap_cons]
    by_cases hempty : members = []
    · rw [hempty]
      rfl
    · rw [TypeRef.names, hnames, pieces_union hempty, List.flatMap_assoc]
      exact List.flatMap_congr ih

theorem mem_names_iff {type : TypeRef} {n : String} :
    n ∈ type.names ↔ some n ∈ type.pieces := by
  rw [names_eq_flatMap_pieces, List.mem_flatMap]
  simp [Option.mem_toList]

theorem pieces_ne_nil (type : TypeRef) : type.pieces ≠ [] := by
  induction type using TypeRef.induct with
  | name n => exact List.cons_ne_nil _ _
  | union members ih =>
    cases members with
    | nil => exact List.cons_ne_nil _ _
    | cons m rest =>
      rw [pieces_union (List.cons_ne_nil _ _), List.flatMap_cons]
      exact List.append_ne_nil_of_left_ne_nil (ih m List.mem_cons_self) _

/-- What stands between the bars of a piece. -/
def TypeMap.pieceParts (types : TypeMap) : Option String → List (List Char)
  | none => [[]]
  | some n => barParts (types.mapName n).toList

/-- **What stands between the bars of a spelling.** -/
theorem barParts_mapType {types : TypeMap} {type : TypeRef}
    (h : ∀ n ∈ type.names, IsClosed (types.mapName n).toList) :
    IsClosed (types.mapType type).toList ∧
      barParts (types.mapType type).toList = type.pieces.flatMap types.pieceParts := by
  induction type using TypeRef.induct with
  | name n =>
    rw [TypeRef.pieces, List.flatMap_singleton]
    exact ⟨h n (List.mem_singleton.2 rfl), rfl⟩
  | union members ih =>
    by_cases hempty : members = []
    · rw [hempty]
      exact ⟨rfl, rfl⟩
    · have hmembers := fun m hm => ih m hm fun n hn => h n (mem_namesOfMembers.2 ⟨m, hm, hn⟩)
      have hclosed : ∀ s ∈ (members.map types.mapType).map String.toList, IsClosed s := by
        rw [List.forall_mem_map, List.forall_mem_map]
        exact fun m hm => (hmembers m hm).1
      rw [TypeMap.mapType, TypeMap.mapTypes_eq_map, String.toList_intercalate,
        barParts_intercalate (by simpa using hempty) hclosed, pieces_union hempty,
        List.flatMap_assoc, List.map_map, List.flatMap_map]
      exact ⟨.intercalate (by simpa using hclosed),
        List.flatMap_congr fun m hm => (hmembers m hm).2⟩

/-! ## Names -/

section

variable {G : TypeGrammar} {types : TypeMap}

/-- The spelling of an identifier, mapped or not, is a type if all that is mapped is. -/
theorem exists_denotes_mapName (hmapped : ∀ name e, types.get? name = some e → ∃ ms, G.Denotes e ms)
    {n : String} (hn : G.Identifier n.toList) : ∃ ms, G.Denotes (types.mapName n) ms := by
  have hidentifier := G.isIdentifier _ hn
  rw [String.ofList_toList] at hidentifier
  rw [mapName_of_isIdentifier hidentifier]
  cases hget : types.get? n with
  | some e => exact hmapped n e hget
  | none =>
    have hmember := G.member_of_identifier _ hn
    obtain ⟨hne, hclosed, hparts⟩ := G.member _ hmember
    refine ⟨[n.toList], .inl ⟨hclosed, List.cons_ne_nil _ _, ?_, .inl hparts⟩⟩
    exact List.forall_mem_singleton.2 hmember

end

/-! ## Choices -/

namespace TypeGrammar

variable (G : TypeGrammar) (types : TypeMap)

/-- The piece may stand behind a bar: it is a name, and its spelling has no bar in front. -/
def Follows (piece : Option String) : Prop :=
  ∃ n, piece = some n ∧ (barParts (types.mapName n).toList).head? ≠ some []

/-- The spelling of the type is the choice of its names: it has a single piece, which is a name; or
it has no name whose type extends as far as it can, and no gap and no second bar behind any bar. -/
def Joins (type : TypeRef) : Prop :=
  (∃ n, type.pieces = [some n]) ∨
    type.pieces ≠ [none] ∧ (∀ n ∈ type.names, ¬ G.Loose (types.mapName n).toList) ∧
      ∀ piece ∈ type.pieces.tail, Follows types piece

end TypeGrammar

section

variable {G : TypeGrammar} {types : TypeMap} {type : TypeRef}

/-- A type that is a single name, perhaps as the only member of choices, is spelled as that. -/
theorem mapType_of_pieces_eq {n : String} (h : type.pieces = [some n]) :
    types.mapType type = types.mapName n := by
  induction type using TypeRef.induct with
  | name other =>
    cases h
    rfl
  | union members ih =>
    cases members with
    | nil => cases h
    | cons m rest =>
      rw [pieces_union (List.cons_ne_nil _ _), List.flatMap_cons] at h
      have hrest : rest = [] := by
        cases rest with
        | nil => rfl
        | cons other more =>
          have hlength := congrArg List.length h
          have hm := List.length_pos_iff.2 (pieces_ne_nil m)
          have hother := List.length_pos_iff.2 (pieces_ne_nil other)
          rw [List.flatMap_cons, List.length_append, List.length_append,
            List.length_singleton] at hlength
          omega
      rw [hrest, List.flatMap_nil, List.append_nil] at h
      rw [hrest, TypeMap.mapType, TypeMap.mapTypes_eq_map, List.map_singleton,
        String.intercalate_singleton]
      exact ih m List.mem_cons_self h

theorem pieceParts_ne_nil (types : TypeMap) (piece : Option String) :
    types.pieceParts piece ≠ [] := by
  cases piece with
  | none => exact List.cons_ne_nil _ _
  | some n => exact barParts_ne_nil _

/-- A name among several pieces does not have all the parts. -/
theorem length_barParts_lt (types : TypeMap) {pieces : List (Option String)} {n : String}
    (hn : some n ∈ pieces) (hpieces : pieces ≠ [some n]) :
    (barParts (types.mapName n).toList).length < (pieces.flatMap types.pieceParts).length := by
  obtain ⟨front, back, rfl⟩ := List.append_of_mem hn
  have hpos {others : List (Option String)} (h : others ≠ []) :
      0 < (others.flatMap types.pieceParts).length := by
    obtain ⟨piece, more, rfl⟩ := List.exists_cons_of_ne_nil h
    rw [List.flatMap_cons, List.length_append]
    exact Nat.add_pos_left (List.length_pos_iff.2 (pieceParts_ne_nil types piece)) _
  rw [List.flatMap_append, List.flatMap_cons, List.length_append, List.length_append,
    TypeMap.pieceParts]
  by_cases hfront : front = []
  · have hback : back ≠ [] := fun hback => hpieces (by rw [hfront, hback]; rfl)
    have := hpos hback
    omega
  · have := hpos hfront
    omega

/-- What may stand behind a bar is divided into its members. -/
theorem pieceParts_of_follows {members : String → List (List Char)} {piece : Option String}
    (h : TypeGrammar.Follows types piece)
    (hchoice : ∀ n, piece = some n → G.IsChoice (types.mapName n).toList (members n)) :
    types.pieceParts piece = piece.toList.flatMap members := by
  obtain ⟨n, rfl, hbar⟩ := h
  rw [Option.toList_some, List.flatMap_singleton]
  exact (hchoice n rfl).parts.resolve_right fun hparts => hbar (by rw [hparts]; rfl)

variable {members : String → List (List Char)}
  (hmembers : ∀ n ∈ type.names, G.Denotes (types.mapName n) (members n))

include hmembers

/-- **Where the spelling is a choice**, it is that of all names. -/
theorem denotes_of_joins (h : G.Joins types type) :
    G.Denotes (types.mapType type) (type.names.flatMap members) := by
  rcases h with ⟨n, hpieces⟩ | ⟨hgap, hloose, htail⟩
  · have hnames : type.names = [n] := by
      rw [names_eq_flatMap_pieces, hpieces]
      rfl
    rw [mapType_of_pieces_eq hpieces, hnames, List.flatMap_singleton]
    exact hmembers n (hnames ▸ List.mem_singleton.2 rfl)
  · have hchoice (n : String) (hn : n ∈ type.names) :
        G.IsChoice (types.mapName n).toList (members n) := (hmembers n hn).isChoice (hloose n hn)
    obtain ⟨hclosed, hparts⟩ := barParts_mapType fun n hn => (hmembers n hn).closed
    obtain ⟨first, rest, hpieces⟩ := List.exists_cons_of_ne_nil (pieces_ne_nil type)
    have hnames : type.names.flatMap members
        = first.toList.flatMap members
          ++ rest.flatMap fun piece => piece.toList.flatMap members := by
      rw [names_eq_flatMap_pieces, hpieces, List.flatMap_assoc, List.flatMap_cons]
    have hrest : rest.flatMap types.pieceParts
        = rest.flatMap fun piece => piece.toList.flatMap members := by
      refine List.flatMap_congr fun piece hpiece => ?_
      have hpieceChoice (n : String) (h : piece = some n) :
          G.IsChoice (types.mapName n).toList (members n) :=
        hchoice n (mem_names_iff.2 (hpieces ▸ h ▸ List.mem_cons_of_mem first hpiece))
      exact pieceParts_of_follows (htail piece (by rw [hpieces]; exact hpiece)) hpieceChoice
    have hname : ∃ n, n ∈ type.names := by
      cases first with
      | some n => exact ⟨n, mem_names_iff.2 (hpieces ▸ List.mem_cons_self)⟩
      | none =>
        obtain ⟨second, more, rfl⟩ := List.exists_cons_of_ne_nil fun hrest : rest = [] =>
          hgap (by rw [hpieces, hrest])
        obtain ⟨n, hn, -⟩ := htail second (by rw [hpieces]; exact List.mem_cons_self)
        exact ⟨n, mem_names_iff.2 (by simp [hpieces, hn])⟩
    rw [hpieces, List.flatMap_cons, hrest] at hparts
    refine .inl ⟨hclosed, fun hnil => ?_, ?_, ?_⟩
    · obtain ⟨n, hn⟩ := hname
      exact (hchoice n hn).ne_nil (List.flatMap_eq_nil_iff.1 hnil n hn)
    · intro m hm
      obtain ⟨n, hn, hm⟩ := List.mem_flatMap.1 hm
      exact (hchoice n hn).members m hm
    · rw [hparts, hnames]
      cases first with
      | none => exact .inr rfl
      | some n =>
        rw [Option.toList_some, List.flatMap_singleton]
        have hn : n ∈ type.names := mem_names_iff.2 (hpieces ▸ List.mem_cons_self)
        rcases (hchoice n hn).parts with h | h
        · exact .inl (by rw [TypeMap.pieceParts, h])
        · exact .inr (by rw [TypeMap.pieceParts, h, List.cons_append])

/-- **Only then is it a choice of the members of all names.** -/
theorem joins_of_denotes {ms : List (List Char)} (h : G.Denotes (types.mapType type) ms)
    (hms : ∀ m ∈ ms, ∃ n ∈ type.names, m ∈ members n) : G.Joins types type := by
  by_cases hsingle : ∃ n, type.pieces = [some n]
  · exact .inl hsingle
  · obtain ⟨-, hparts⟩ := barParts_mapType fun n hn => (hmembers n hn).closed
    -- A type that extends as far as it can would be a member of one of the names.
    have hchoice : G.IsChoice (types.mapType type).toList ms := by
      refine h.resolve_right fun ⟨hloose, heq⟩ => ?_
      obtain ⟨n, hn, hm⟩ := hms (trim (types.mapType type).toList)
        (heq ▸ List.mem_singleton.2 rfl)
      have hle := (hmembers n hn).length_barParts_le hm
      have hlt := length_barParts_lt types (mem_names_iff.1 hn)
        fun hpieces => hsingle ⟨n, hpieces⟩
      rw [barParts_trim, hparts] at hle
      omega
    have hnil : [] ∉ ms := fun hmem => TypeGrammar.not_member_nil (hchoice.members [] hmem)
    refine .inr ⟨fun hgap => ?_, fun n hn hloose => ?_, fun piece hpiece => ?_⟩
    · rw [hgap, List.flatMap_singleton, TypeMap.pieceParts] at hparts
      rcases hchoice.parts with hms | hms
      · exact hnil (hms.symm.trans hparts ▸ List.mem_cons_self)
      · exact hchoice.ne_nil (List.tail_eq_of_cons_eq (hms.symm.trans hparts))
    · obtain ⟨-, part, hpart, hne, hmember⟩ := G.loose _ hloose
      have hpart2 : part ∈ barParts (types.mapType type).toList := by
        rw [hparts]
        exact List.mem_flatMap.2 ⟨some n, mem_names_iff.1 hn, hpart⟩
      exact hmember (hchoice.members part ((hchoice.part hpart2).resolve_left hne))
    · -- A part that is empty would be a member, as it is not the first one.
      obtain ⟨first, rest, hpieces⟩ := List.exists_cons_of_ne_nil (pieces_ne_nil type)
      rw [hpieces, List.tail_cons] at hpiece
      have hfull : [] ∉ types.pieceParts piece := by
        intro hmem
        have hrest : [] ∈ rest.flatMap types.pieceParts := List.mem_flatMap.2 ⟨piece, hpiece, hmem⟩
        rw [hpieces, List.flatMap_cons] at hparts
        rcases hchoice.parts with hms | hms
        · exact hnil (hms.symm.trans hparts ▸ List.mem_append_right _ hrest)
        · obtain ⟨part, others, hfirst⟩ :=
            List.exists_cons_of_ne_nil (pieceParts_ne_nil types first)
          rw [hfirst, List.cons_append, hms] at hparts
          exact hnil (List.tail_eq_of_cons_eq hparts ▸ List.mem_append_right _ hrest)
      cases piece with
      | none => exact absurd List.mem_cons_self hfull
      | some n => exact ⟨n, rfl, fun hhead => hfull (List.mem_of_head? hhead)⟩

end

/-- **Whether the spelling of a type says the choice of its names.**  Let all mapped names be
spelled as types.  Then every identifier is, and what it is a choice of is known.  The spelling of a
type made of identifiers, of choices nested to any depth and of any length, is the choice of all
members of these just in case there is a single name and nothing else in it; or no name in it is
spelled as a type that extends as far as it can, no choice of nothing stands behind a bar, no
spelling behind a bar has another in front, and there is a name.  Otherwise it is no type, or it is
another one. -/
theorem choice_of_mapType (G : TypeGrammar) (types : TypeMap) (type : TypeRef)
    (hmapped : ∀ name e, types.get? name = some e → ∃ ms, G.Denotes e ms)
    (hnames : ∀ n ∈ type.names, G.Identifier n.toList) :
    ∃ members : String → List (List Char),
      (∀ n ∈ type.names, G.Denotes (types.mapName n) (members n)) ∧
      (G.Joins types type → G.Denotes (types.mapType type) (type.names.flatMap members)) ∧
      ((∃ ms, G.Denotes (types.mapType type) ms ∧ ∀ m, m ∈ ms ↔ ∃ n ∈ type.names, m ∈ members n) →
        G.Joins types type) ∧
      ∀ e ms, G.Denotes e ms → trim e.toList ≠ [] ∧ ∀ ns, G.Denotes e ns → ns = ms := by
  have hdenotes (n : String) : ∃ ms, n ∈ type.names → G.Denotes (types.mapName n) ms := by
    by_cases hn : n ∈ type.names
    · obtain ⟨ms, hms⟩ := exists_denotes_mapName hmapped (hnames n hn)
      exact ⟨ms, fun _ => hms⟩
    · exact ⟨[], fun h => absurd h hn⟩
  choose members hmembers using hdenotes
  refine ⟨members, hmembers, denotes_of_joins hmembers, fun ⟨ms, hms, hsame⟩ => ?_,
    fun e ms h => ⟨h.trim_ne_nil, fun ns hns => hns.unique h⟩⟩
  exact joins_of_denotes hmembers hms fun m hm => (hsame m).1 hm

/-! ## Types by their outline -/

/-- There is an arrow outside of brackets and strings. -/
def hasArrowFrom : Nesting → List Char → Bool
  | _, [] => false
  | n, c :: rest =>
    n.closers.isEmpty && n.before == '=' && c == '>' || hasArrowFrom (n.step c) rest

theorem hasArrowFrom_of_sheltered {n : Nesting} {s : List Char} (h : n.sheltered s = true) :
    hasArrowFrom n s = false := by
  induction s generalizing n with
  | nil => rfl
  | cons c rest ih =>
    rw [Nesting.sheltered, Bool.and_eq_true] at h
    rw [hasArrowFrom, ih h.2, Bool.or_false]
    have hbare := h.1
    cases hempty : n.closers.isEmpty with
    | false => rfl
    | true =>
      rw [hempty, Bool.true_and, Bool.not_eq_true', Bool.or_eq_false_iff] at hbare
      exact hbare.2

/-- What stands between bars has no arrow in it, and no bar. -/
def IsTight (s : List Char) : Prop :=
  s ≠ [] ∧ IsClosed s ∧ barParts s = [s] ∧ hasArrowFrom Nesting.bare s = false

/-- What extends as far as it can has an arrow in front of all bars. -/
def HasArrow (s : List Char) : Prop :=
  IsClosed s ∧ ∃ part ∈ barParts s, (barParts s).head? = some part ∧ part ≠ [] ∧
    hasArrowFrom Nesting.bare part = true

instance (s : List Char) : Decidable (IsTight s) := inferInstanceAs (Decidable (_ ∧ _))

instance (s : List Char) : Decidable (HasArrow s) := inferInstanceAs (Decidable (_ ∧ _))

/-- An identifier opens nothing, and has neither bars nor arrows in it. -/
theorem isTight_of_isIdentifier {name : String} (h : isIdentifier name = true) :
    IsTight name.toList := by
  obtain ⟨c, rest, hname, hchars⟩ := exists_cons_of_isIdentifier h
  rw [← hname] at hchars
  have hinert : name.toList.all isInert = true :=
    List.all_eq_true.2 fun c hc => Nesting.isInert_of_isNameChar (hchars c hc)
  have hfollows := Nesting.follows_inert Nesting.isIdle_bare hinert
  have hsheltered : Nesting.bare.sheltered name.toList = true := hfollows.sheltered
  refine ⟨by rw [hname]; exact List.cons_ne_nil _ _, hfollows.closers, ?_,
    hasArrowFrom_of_sheltered hsheltered⟩
  rw [barParts_of_sheltered hsheltered, (isBare_of_isIdentifier h).1]

/-- Types by their outline: whatever has no bare arrow may stand between bars, and what has one in
front of all bars is a function type. -/
def outline : TypeGrammar where
  Identifier s := isIdentifier (String.ofList s) = true
  Member := IsTight
  Loose := HasArrow
  isIdentifier _ h := h
  member_of_identifier s h := by
    have htight := isTight_of_isIdentifier h
    rwa [String.toList_ofList] at htight
  member _ h := ⟨h.1, h.2.1, h.2.2.1⟩
  loose _ := fun ⟨hclosed, part, hpart, _, hne, harrow⟩ =>
    ⟨hclosed, part, hpart, hne, fun htight => by rw [htight.2.2.2] at harrow; cases harrow⟩

/-- Spells strings as usual, and handlers as functions. -/
def delegates : TypeMap :=
  (TypeMap.empty.register "String" "string").register "Handler" "() => void"

theorem exists_denotes_delegates {name e : String} (h : delegates.get? name = some e) :
    ∃ ms, outline.Denotes e ms := by
  have hall : ∀ entry ∈ delegates.spellings.entries,
      IsTight entry.2.toList ∨ HasArrow entry.2.toList := by decide +kernel
  rcases hall _ (Dictionary.get?_eq_some_iff.1 h) with htight | harrow
  · exact ⟨_, .inl ⟨htight.2.1, List.cons_ne_nil _ _, List.forall_mem_singleton.2 htight,
      .inl htight.2.2.1⟩⟩
  · exact ⟨_, .inr ⟨harrow, rfl⟩⟩

/-- A handler or a string. -/
def handlerOrString : TypeRef := .union [.name "Handler", .name "String"]

/-- A string or an `App`, one choice in another. -/
def stringOrApp : TypeRef := .union [.name "String", .union [.name "App"]]

/-- A handler or a string is spelled as a function to whatever; a string or an `App` is spelled as a
choice. -/
theorem choice_of_mapType_delegates :
    delegates.mapType handlerOrString = "() => void | string" ∧
    (∃ members : String → List (List Char),
      (∀ n ∈ handlerOrString.names, outline.Denotes (delegates.mapName n) (members n)) ∧
      ¬ ∃ ms, outline.Denotes (delegates.mapType handlerOrString) ms ∧
        ∀ m, m ∈ ms ↔ ∃ n ∈ handlerOrString.names, m ∈ members n) ∧
    outline.Denotes (delegates.mapType stringOrApp) ["string".toList, "App".toList] := by
  refine ⟨by decide +kernel, ?_, ?_⟩
  · obtain ⟨members, hmembers, -, honly, -⟩ := choice_of_mapType outline delegates handlerOrString
      (fun _ _ => exists_denotes_delegates)
      (by decide +kernel : ∀ n ∈ handlerOrString.names,
        isIdentifier (String.ofList n.toList) = true)
    refine ⟨members, hmembers, fun hchoice => ?_⟩
    have harrow : HasArrow (delegates.mapName "Handler").toList := by decide +kernel
    rcases honly hchoice with ⟨n, hn⟩ | ⟨-, hloose, -⟩
    · cases hn
    · exact hloose "Handler" List.mem_cons_self harrow
  · obtain ⟨members, hmembers, hjoins, -, hunique⟩ := choice_of_mapType outline delegates
      stringOrApp (fun _ _ => exists_denotes_delegates)
      (by decide +kernel : ∀ n ∈ stringOrApp.names, isIdentifier (String.ofList n.toList) = true)
    have hplain (n : String) (hn : n ∈ stringOrApp.names)
        (htight : IsTight (delegates.mapName n).toList) :
        members n = [(delegates.mapName n).toList] :=
      (hunique _ _ (.inl ⟨htight.2.1, List.cons_ne_nil _ _, List.forall_mem_singleton.2 htight,
        .inl htight.2.2.1⟩)).2 _ (hmembers n hn)
    have hchoice := hjoins (.inr ⟨by decide +kernel,
      (by decide +kernel : ∀ n ∈ stringOrApp.names, ¬ HasArrow (delegates.mapName n).toList),
      List.forall_mem_singleton.2 ⟨"App", rfl, by decide +kernel⟩⟩)
    have hnames : stringOrApp.names.flatMap members = members "String" ++ members "App" := by
      simp [stringOrApp, TypeRef.names, namesOfMembers]
    have hstring : delegates.mapName "String" = "string" := by decide +kernel
    have happ : delegates.mapName "App" = "App" := by decide +kernel
    rwa [hnames, hplain "String" (by decide) (by decide +kernel),
      hplain "App" (by decide) (by decide +kernel), hstring, happ] at hchoice

end Ambient
