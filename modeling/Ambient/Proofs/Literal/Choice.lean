import Ambient.Proofs.Literal.Reading
import Ambient.Proofs.Member.Lines
import Ambient.Proofs.Shape.Level

/-!
# Choices of strings

A value that may be one of several strings is declared as a choice of literals, with bars between
them, and the overload of `on` for an event has its name as a literal.  In these literals, and in
the keys of choices, the strings stand between quotes as they are.  So they are read back if they
have no quotes, no backslashes and no line ends, and otherwise they are not; and what is written for
one string may be what is written for two.

## What is here

* `IsChoice text values` — a choice of literals, with blanks anywhere around them.
* `ReadsBack text values` — it is that of these strings and of no others.
* `readsBack_choice_iff` — strings between quotes as they are, with bars between them.
* `determined_iff` — when no other strings are written in the same way.
* `strings_of_literals` — the types of values, their keys, and the overloads of events.
-/

set_option autoImplicit false

namespace Ambient

open Character Signature Synthesis Text

namespace Literal

/-! ## Choices -/

/-- The text is a choice of literals, with bars between them and blanks around them. -/
inductive IsChoice : List Char → List (List Nat) → Prop
  | last {s rest : List Char} {us : List Nat} (hread : read (trimStart s) = some (us, rest))
      (hrest : trimStart rest = []) : IsChoice s [us]
  | more {s rest behind : List Char} {us : List Nat} {others : List (List Nat)}
      (hread : read (trimStart s) = some (us, rest)) (hrest : trimStart rest = '|' :: behind)
      (hothers : IsChoice behind others) : IsChoice s (us :: others)

/-- The text is a choice of literals for these strings, and for no others. -/
def ReadsBack (text : List Char) (strings : List (List Char)) : Prop :=
  ∀ others : List (List Char), IsChoice text (others.map unitsOf) ↔ others = strings

section

variable {s t : List Char} {values others : List (List Nat)}

theorem IsChoice.ne_nil (h : IsChoice s values) : values ≠ [] := by
  cases h <;> exact List.cons_ne_nil _ _

/-- A text is a choice of literals in one way only. -/
theorem IsChoice.unique (h : IsChoice s values) (h2 : IsChoice s others) : values = others := by
  induction h generalizing others with
  | last hread hrest =>
    cases h2 with
    | last hread2 _ =>
      rw [hread, Option.some.injEq, Prod.mk.injEq] at hread2
      rw [hread2.1]
    | more hread2 hrest2 _ =>
      rw [hread, Option.some.injEq, Prod.mk.injEq] at hread2
      rw [← hread2.2, hrest] at hrest2
      cases hrest2
  | more hread hrest _ ih =>
    cases h2 with
    | last hread2 hrest2 =>
      rw [hread, Option.some.injEq, Prod.mk.injEq] at hread2
      rw [← hread2.2, hrest] at hrest2
      cases hrest2
    | more hread2 hrest2 hothers2 =>
      rw [hread, Option.some.injEq, Prod.mk.injEq] at hread2
      rw [← hread2.2, hrest] at hrest2
      cases hrest2
      rw [hread2.1, ih hothers2]

theorem IsChoice.congr_trimStart (h : IsChoice s values) (heq : trimStart s = trimStart t) :
    IsChoice t values := by
  cases h with
  | last hread hrest => exact .last (heq ▸ hread) hrest
  | more hread hrest hothers => exact .more (heq ▸ hread) hrest hothers

theorem trimStart_append {blanks : List Char} (h : ∀ c ∈ blanks, isBlank c = true) (s : List Char) :
    trimStart (blanks ++ s) = trimStart s :=
  List.dropWhile_append_of_pos h

/-- A choice for the units of these strings alone is one for these strings alone. -/
theorem readsBack_iff {text : List Char} {strings : List (List Char)} :
    ReadsBack text strings ↔ IsChoice text (strings.map unitsOf) := by
  refine ⟨fun h => (h strings).2 rfl, fun h others => ⟨fun hothers => ?_, fun heq => heq ▸ h⟩⟩
  exact List.map_injective_iff.2 (fun _ _ => unitsOf_injective) (hothers.unique h)

end

/-! ## Literals as they are written -/

/-- The strings of several values. -/
def strings (values : List PossibleValue) : List (List Char) := values.map fun v => v.value.toList

theorem strings_cons (v : PossibleValue) (rest : List PossibleValue) :
    strings (v :: rest) = v.value.toList :: strings rest := rfl

section

variable {front back : List Char}

theorem trimStart_quoted (v : PossibleValue) (s : List Char) :
    trimStart (quoted v ++ s) = '\'' :: (v.value.toList ++ '\'' :: s) := by
  rw [quoted, List.cons_append, List.append_assoc]
  rfl

/-- **Strings between quotes as they are**, with bars between them, are read back just if none of
them has a quote, a backslash or a line end. -/
theorem readsBack_choice_iff (hfront : ∀ c ∈ front, isBlank c = true)
    (hback : ∀ c ∈ back, isBlank c = true) {values : List PossibleValue} (hne : values ≠ []) :
    ReadsBack ((front ++ '|' :: back).intercalate (values.map quoted)) (strings values)
      ↔ ∀ v ∈ strings values, IsPlain v := by
  rw [readsBack_iff]
  induction values with
  | nil => exact absurd rfl hne
  | cons v rest ih =>
    have hquoted (s : List Char) (us : List Nat) (r : List Char) :
        read (trimStart (quoted v ++ s)) = some (us, r)
          ↔ readString (v.value.toList ++ '\'' :: s) = some (us, r) := by
      rw [trimStart_quoted]
      rfl
    cases rest with
    | nil =>
      rw [List.map_singleton, List.intercalate_singleton, strings, List.map_singleton,
        List.map_singleton, List.forall_mem_singleton, ← List.append_nil (quoted v)]
      constructor
      · intro h
        cases h with
        | last hread _ => exact (isPlain_of_readString ((hquoted _ _ _).1 hread)).1
        | more _ _ hothers => exact absurd rfl hothers.ne_nil
      · intro hplain
        exact .last ((hquoted _ _ _).2 (readString_of_isPlain hplain [])) rfl
    | cons w others =>
      have hbar (text : List Char) :
          trimStart (front ++ '|' :: back ++ text) = '|' :: (back ++ text) := by
        rw [List.append_assoc, trimStart_append hfront]
        rfl
      have hback (text : List Char) : trimStart (back ++ text) = trimStart text :=
        trimStart_append hback text
      rw [List.map_cons, List.map_cons, List.intercalate_cons_cons, ← List.map_cons,
        List.append_assoc, strings_cons, List.map_cons, List.forall_mem_cons,
        ← ih (List.cons_ne_nil _ _)]
      constructor
      · intro h
        cases h with
        | more hread hrest hothers =>
          obtain ⟨hplain, hr⟩ := isPlain_of_readString ((hquoted _ _ _).1 hread)
          rw [hr, hbar] at hrest
          cases hrest
          exact ⟨hplain, hothers.congr_trimStart (hback _)⟩
      · rintro ⟨hplain, hothers⟩
        exact .more ((hquoted _ _ _).2 (readString_of_isPlain hplain _)) (hbar _)
          (hothers.congr_trimStart (hback _).symm)

end

/-! ## Strings that are written alike -/

section

variable {values others : List PossibleValue}

theorem toList_literalUnion (values : List PossibleValue) :
    (literalUnion values).toList = ([' '] ++ '|' :: [' ']).intercalate (values.map quoted) := by
  rw [literalUnion, String.toList_intercalate, List.map_map]
  exact congrArg _ (List.map_congr_left fun v _ => toList_literal v)

theorem literalUnion_singleton (v : PossibleValue) :
    (literalUnion [v]).toList = quoted v := by
  rw [toList_literalUnion, List.map_singleton, List.intercalate_singleton]

theorem literalUnion_cons_cons (v w : PossibleValue) (rest : List PossibleValue) :
    (literalUnion (v :: w :: rest)).toList = '\'' :: (v.value.toList ++
      '\'' :: ([' ', '|', ' '] ++ (literalUnion (w :: rest)).toList)) := by
  rw [toList_literalUnion, toList_literalUnion, List.map_cons, List.map_cons,
    List.intercalate_cons_cons, quoted]
  simp

/-- What is written for strings starts with a quote, and ends with one. -/
theorem exists_literalUnion (hne : values ≠ []) :
    ∃ inner, (literalUnion values).toList = '\'' :: (inner ++ ['\'']) := by
  induction values with
  | nil => exact absurd rfl hne
  | cons v rest ih =>
    cases rest with
    | nil => exact ⟨v.value.toList, literalUnion_singleton v⟩
    | cons w others =>
      obtain ⟨inner, hinner⟩ := ih (List.cons_ne_nil _ _)
      refine ⟨v.value.toList ++ '\'' :: ([' ', '|', ' '] ++ '\'' :: inner), ?_⟩
      rw [literalUnion_cons_cons, hinner]
      simp

/-- What stands between two literals. -/
def between : List Char := ['\'', ' ', '|', ' ', '\'']

/-- **Several strings are written like a single one**, and a single one like two if it has in it
what stands between two. -/
theorem determined_iff (hne : values ≠ []) :
    (∀ others : List PossibleValue, others ≠ [] → literalUnion others = literalUnion values →
        strings others = strings values)
      ↔ ∃ v, strings values = [v] ∧ ¬ between <:+: v := by
  constructor
  · intro h
    cases values with
    | nil => exact absurd rfl hne
    | cons v rest =>
      obtain ⟨inner, hinner⟩ := exists_literalUnion hne
      have hsingle : literalUnion [⟨String.ofList inner, none⟩] = literalUnion (v :: rest) := by
        rw [← String.toList_inj, literalUnion_singleton, hinner, quoted, String.toList_ofList]
      cases rest with
      | cons w others =>
        exact absurd (congrArg List.length (h _ (List.cons_ne_nil _ _) hsingle)) (by simp [strings])
      | nil =>
        refine ⟨v.value.toList, rfl, ?_⟩
        rintro ⟨front, back, hv⟩
        have hpair : literalUnion [⟨String.ofList front, none⟩, ⟨String.ofList back, none⟩]
            = literalUnion [v] := by
          rw [← String.toList_inj, literalUnion_cons_cons, literalUnion_singleton,
            literalUnion_singleton, quoted, quoted, ← hv, String.toList_ofList,
            String.toList_ofList, between]
          simp
        exact absurd (congrArg List.length (h _ (List.cons_ne_nil _ _) hpair)) (by simp [strings])
  · rintro ⟨v, hvalues, hbetween⟩ others hothers heq
    obtain ⟨value, rfl⟩ : ∃ value, values = [value] := by
      rcases values with _ | ⟨value, _ | ⟨w, rest⟩⟩
      · exact absurd rfl hne
      · exact ⟨value, rfl⟩
      · exact absurd (congrArg List.length hvalues) (by simp [strings])
    have htext := String.toList_inj.2 heq
    rw [literalUnion_singleton, quoted] at htext
    rcases others with _ | ⟨w, _ | ⟨w2, rest⟩⟩
    · exact absurd rfl hothers
    · rw [literalUnion_singleton, quoted] at htext
      rw [strings_cons, strings_cons, (List.append_inj_left' (List.cons.inj htext).2 rfl)]
    · exfalso
      obtain ⟨inner, hinner⟩ := exists_literalUnion (List.cons_ne_nil w2 rest)
      rw [literalUnion_cons_cons, hinner] at htext
      refine hbetween ⟨w.value.toList, inner, ?_⟩
      rw [← (List.cons.inj hvalues).1]
      have hinner2 :
          w.value.toList ++ between ++ inner ++ ['\''] = value.value.toList ++ ['\''] := by
        rw [← (List.cons.inj htext).2, between]
        simp
      exact List.append_cancel_right hinner2

/-- Texts are the same up to the first quote. -/
theorem append_quote_inj {v w s t : List Char} (hv : '\'' ∉ v) (hw : '\'' ∉ w)
    (h : v ++ '\'' :: s = w ++ '\'' :: t) : v = w ∧ s = t := by
  rcases List.append_eq_append_iff.1 h with ⟨_ | ⟨c, more⟩, rfl, hs⟩ | ⟨_ | ⟨c, more⟩, rfl, ht⟩
  · exact ⟨(List.append_nil v).symm, (List.cons.inj hs).2⟩
  · refine absurd (List.mem_append_right v ?_) hw
    rw [(List.cons.inj hs).1]
    exact List.mem_cons_self
  · exact ⟨List.append_nil w, (List.cons.inj ht).2.symm⟩
  · refine absurd (List.mem_append_right w ?_) hv
    rw [(List.cons.inj ht).1]
    exact List.mem_cons_self

/-- **Strings without quotes** that are written alike are the same. -/
theorem strings_eq_of_literalUnion_eq (hvalues : ∀ v ∈ strings values, '\'' ∉ v)
    (hothers : ∀ v ∈ strings others, '\'' ∉ v) (hne : values ≠ []) (hne2 : others ≠ [])
    (heq : literalUnion values = literalUnion others) : strings values = strings others := by
  have htext := String.toList_inj.2 heq
  clear heq
  induction values generalizing others with
  | nil => exact absurd rfl hne
  | cons v rest ih =>
    cases others with
    | nil => exact absurd rfl hne2
    | cons w more =>
      rw [strings_cons, List.forall_mem_cons] at hvalues hothers
      have hsplit {s t : List Char} := append_quote_inj (s := s) (t := t) hvalues.1 hothers.1
      rw [strings_cons, strings_cons]
      cases rest with
      | nil =>
        cases more with
        | nil =>
          rw [literalUnion_singleton, literalUnion_singleton, quoted, quoted] at htext
          rw [(hsplit (List.cons.inj htext).2).1]
        | cons w2 more =>
          rw [literalUnion_singleton, literalUnion_cons_cons, quoted] at htext
          cases (hsplit (List.cons.inj htext).2).2
      | cons v2 rest =>
        cases more with
        | nil =>
          rw [literalUnion_singleton, literalUnion_cons_cons, quoted] at htext
          cases (hsplit (List.cons.inj htext).2).2
        | cons w2 more =>
          rw [literalUnion_cons_cons, literalUnion_cons_cons] at htext
          obtain ⟨hfirst, hrest⟩ := hsplit (List.cons.inj htext).2
          rw [hfirst, ih hvalues.2 hothers.2 (List.cons_ne_nil _ _) (List.cons_ne_nil _ _)
            (List.append_cancel_left hrest)]

end

end Literal

/-! ## Literals of declarations -/

open Literal

/-- The key of a choice, without the mark of a collection. -/
theorem toList_baseKey_of_choice (types : TypeMap) {p : Param} (hvalues : p.possibleValues ≠ []) :
    (baseKey types p).toList = ([] ++ '|' :: []).intercalate (p.possibleValues.map quoted) := by
  have hchoice : p.possibleValues.isEmpty = false := by simpa using hvalues
  rw [baseKey_eq, hchoice]
  show (String.intercalate "|" _).toList = _
  rw [String.toList_intercalate, List.map_map]
  exact congrArg _ (List.map_congr_left fun v _ => toList_literal v)

/-- A choice of strings is written as its literals, as an array for a collection. -/
theorem run_valueType_of_choice (types : TypeMap) (site : Site) (s : Interner) {p : Param}
    (hvalues : p.possibleValues ≠ []) :
    (valueType types site none p).run s
      = (.ok (collected p.collection (literalUnion p.possibleValues)), s) := by
  have hchoice : p.possibleValues.isEmpty = false := by simpa using hvalues
  rw [valueType_none, innerType, hchoice]
  rfl

/-- The literal of an event is read back just if its name is plain. -/
theorem exists_literal_of_run_eventLines {types : TypeMap} {m : Module} {event : Event}
    {lines : List String} {s t : Interner} (h : (eventLines types m event).run s = (.ok lines, t)) :
    ∃ rest, lines = DocComment.ofDescription event.description ++ ["on(event: '" ++ rest] ∧
      ((∀ name, (∃ behind, readString rest.toList = some (unitsOf name, behind))
          ↔ name = event.name.toList) ↔ IsPlain event.name.toList) := by
  obtain ⟨listener, hlines⟩ := exists_of_run_eventLines h
  refine ⟨event.name ++ ("', listener: " ++ listener ++ "): this;"), ?_, ?_⟩
  · rw [hlines]
    simp only [String.append_assoc]
  have hrest : (event.name ++ ("', listener: " ++ listener ++ "): this;")).toList
      = event.name.toList ++ '\'' :: (", listener: " ++ listener ++ "): this;").toList := by
    simp
  rw [hrest]
  constructor
  · intro hread
    obtain ⟨behind, hname⟩ := (hread event.name.toList).2 rfl
    exact (isPlain_of_readString hname).1
  · intro hplain name
    rw [readString_of_isPlain hplain]
    constructor
    · rintro ⟨behind, heq⟩
      exact (unitsOf_injective (Prod.mk.inj (Option.some.inj heq)).1).symm
    · rintro rfl
      exact ⟨_, rfl⟩

/-- **Strings are read back from their literals just if they have no quotes, no backslashes and no
line ends.**  This holds of choices, of their keys, and of the names of events.  What is written for
a choice says which strings they are if none of them has a quote; and if any strings may be meant,
only when there is one that has in it nothing that stands between two. -/
theorem strings_of_literals (types : TypeMap) (site : Site) (s : Interner) {p : Param}
    (hvalues : p.possibleValues ≠ []) :
    (valueType types site none p).run s
        = (.ok (collected p.collection (literalUnion p.possibleValues)), s) ∧
      (ReadsBack (literalUnion p.possibleValues).toList (strings p.possibleValues)
        ↔ ∀ v ∈ strings p.possibleValues, IsPlain v) ∧
      (ReadsBack (baseKey types p).toList (strings p.possibleValues)
        ↔ ∀ v ∈ strings p.possibleValues, IsPlain v) ∧
      ((∀ others : List PossibleValue, others ≠ [] →
          literalUnion others = literalUnion p.possibleValues →
          strings others = strings p.possibleValues)
        ↔ ∃ v, strings p.possibleValues = [v] ∧ ¬ between <:+: v) ∧
      (∀ others : List PossibleValue, others ≠ [] →
          (∀ v ∈ strings p.possibleValues, '\'' ∉ v) → (∀ v ∈ strings others, '\'' ∉ v) →
          literalUnion others = literalUnion p.possibleValues →
          strings others = strings p.possibleValues) ∧
      ∀ (m : Module) (event : Event) (lines : List String) (t u : Interner),
        (eventLines types m event).run t = (.ok lines, u) →
        ∃ rest, lines = DocComment.ofDescription event.description ++ ["on(event: '" ++ rest] ∧
          ((∀ name, (∃ behind, readString rest.toList = some (unitsOf name, behind))
              ↔ name = event.name.toList) ↔ IsPlain event.name.toList) := by
  refine ⟨run_valueType_of_choice types site s hvalues, ?_, ?_, determined_iff hvalues, ?_, ?_⟩
  · rw [toList_literalUnion]
    have hblank : ∀ c ∈ [' '], isBlank c = true := List.forall_mem_singleton.2 isBlank_space
    exact readsBack_choice_iff hblank hblank hvalues
  · rw [toList_baseKey_of_choice types hvalues]
    exact readsBack_choice_iff (List.forall_mem_nil _) (List.forall_mem_nil _) hvalues
  · intro others hothers hquotes hquotes2 heq
    exact strings_eq_of_literalUnion_eq hquotes2 hquotes hothers hvalues heq
  · intro m event lines t u h
    exact exists_literal_of_run_eventLines h

/-- One of two strings has a quote in it: the choice is `'it's' | 'its'`, which is not read back. -/
theorem strings_of_literals_its :
    (valueType TypeMap.builtin ⟨"app", "run", none⟩ none
          { possibleValues := [⟨"it's", none⟩, ⟨"its", none⟩] }).run default
        = (.ok "'it's' | 'its'", default) ∧
      ¬ ReadsBack "'it's' | 'its'".toList ["it's".toList, "its".toList] := by
  obtain ⟨hrun, hread, -⟩ := strings_of_literals TypeMap.builtin ⟨"app", "run", none⟩ default
    (p := { possibleValues := [⟨"it's", none⟩, ⟨"its", none⟩] }) (List.cons_ne_nil _ _)
  refine ⟨hrun, fun h => ?_⟩
  have hplain := hread.1 h
  exact absurd (hplain "it's".toList (by decide)) (by decide)

end Ambient
