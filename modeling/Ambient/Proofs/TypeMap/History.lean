import Mathlib.Data.List.DropRight
import Ambient.Proofs.TypeExpr.Array

/-!
# Which spelling of a name is used

A name is registered, looked up and forgotten without regard to letter case, and otherwise as it is
written.  When it is spelled, blanks and `[]` are taken off it first.  So what is registered under a
name is used for that name if there is nothing to take off; what is registered under a name with
`[]` or with blanks around it is never used.

## What is here

* `TypeEdit`, `TypeMap.edited` — names that are registered and forgotten, one after the other.
* `get?_edited_of_last`, `exists_last_register` — **the last change under a name is what counts.**
* `ArrayTail`, `Strips` — what is taken off a name, and what is left; `exists_strips` — there always
  is something left, and `mapName_of_strips` — it decides how the name is spelled.
* `spelling_after_edits` — which spelling is used after any changes.
-/

set_option autoImplicit false

namespace Ambient

open Text Character

/-! ## Changes -/

namespace Dictionary

variable {β : Type}

theorem get?_erase_self (d : Dictionary β) (key : String) : (d.erase key).get? key = none := by
  rw [get?_eq_none_iff, keys, erase]
  simp

theorem get?_erase_of_ne (d : Dictionary β) {key other : String} (h : other ≠ key) :
    (d.erase key).get? other = d.get? other := by
  refine Option.ext fun value => ?_
  rw [get?_eq_some_iff, get?_eq_some_iff, erase, List.mem_filter]
  simp [h]

end Dictionary

/-- A change to a type map. -/
inductive TypeEdit where
  | register (name spelling : String)
  | unregister (name : String)

namespace TypeEdit

/-- The name that is registered or forgotten. -/
def name : TypeEdit → String
  | register name _ => name
  | unregister name => name

/-- What the name is spelled as afterwards. -/
def spelling? : TypeEdit → Option String
  | register _ spelling => some spelling
  | unregister _ => none

/-- Makes the change. -/
def apply (types : TypeMap) : TypeEdit → TypeMap
  | register name spelling => types.register name spelling
  | unregister name => types.unregister name

/-- The names are one, but for letter case. -/
def IsFor (edit : TypeEdit) (name : String) : Prop := lowercase edit.name = lowercase name

end TypeEdit

namespace TypeMap

/-- The type map after several changes. -/
def edited (types : TypeMap) (edits : List TypeEdit) : TypeMap := edits.foldl TypeEdit.apply types

/-- The usual spellings as changes. -/
def usualEdits : List TypeEdit := builtinSpellings.map fun e => .register e.1 e.2

theorem edited_usualEdits (types : TypeMap) : types.edited usualEdits = types.registerBuiltins := by
  rw [edited, usualEdits, List.foldl_map]
  rfl

variable {types : TypeMap} {edits before after : List TypeEdit} {edit : TypeEdit} {name : String}

theorem edited_append (types : TypeMap) (before after : List TypeEdit) :
    types.edited (before ++ after) = (types.edited before).edited after := List.foldl_append

theorem get?_apply_self (types : TypeMap) (h : edit.IsFor name) :
    (edit.apply types).get? name = edit.spelling? := by
  rw [get?, ← h]
  cases edit with
  | register other spelling => exact get?_register_self types other spelling
  | unregister other => exact Dictionary.get?_erase_self _ _

theorem get?_apply_of_ne (types : TypeMap) (h : ¬ edit.IsFor name) :
    (edit.apply types).get? name = types.get? name := by
  have hne : lowercase name ≠ lowercase edit.name := fun heq => h heq.symm
  cases edit with
  | register other spelling => exact get?_register_of_ne types spelling hne
  | unregister other => exact Dictionary.get?_erase_of_ne _ hne

/-- Changes under other names do not matter. -/
theorem get?_edited_of_forall (types : TypeMap) (h : ∀ edit ∈ edits, ¬ edit.IsFor name) :
    (types.edited edits).get? name = types.get? name := by
  induction edits generalizing types with
  | nil => rfl
  | cons edit rest ih =>
    rw [List.forall_mem_cons] at h
    exact (ih (edit.apply types) h.2).trans (get?_apply_of_ne types h.1)

/-- **The last change under a name is what counts.** -/
theorem get?_edited_of_last (types : TypeMap) (h : edit.IsFor name)
    (hafter : ∀ other ∈ after, ¬ other.IsFor name) :
    (types.edited (before ++ edit :: after)).get? name = edit.spelling? := by
  rw [edited_append]
  exact (get?_edited_of_forall (edit.apply (types.edited before)) hafter).trans
    (get?_apply_self _ h)

/-- There is a last change under a name, or none. -/
theorem exists_last (edits : List TypeEdit) (name : String) :
    (∀ edit ∈ edits, ¬ edit.IsFor name) ∨ ∃ before edit after, edits = before ++ edit :: after ∧
      edit.IsFor name ∧ ∀ other ∈ after, ¬ other.IsFor name := by
  induction edits with
  | nil => exact .inl (List.forall_mem_nil _)
  | cons first rest ih =>
    rcases ih with hnone | ⟨before, edit, after, rfl, hedit, hafter⟩
    · by_cases hfirst : first.IsFor name
      · exact .inr ⟨[], first, rest, rfl, hfirst, hnone⟩
      · exact .inl (List.forall_mem_cons.2 ⟨hfirst, hnone⟩)
    · exact .inr ⟨first :: before, edit, after, rfl, hedit, hafter⟩

/-- What a name is spelled as was registered under it, and no change came after that. -/
theorem exists_last_register {spelling : String}
    (h : (empty.edited edits).get? name = some spelling) :
    ∃ before other after, edits = before ++ .register other spelling :: after ∧
      lowercase other = lowercase name ∧ ∀ edit ∈ after, ¬ edit.IsFor name := by
  rcases exists_last edits name with hnone | ⟨before, edit, after, rfl, hedit, hafter⟩
  · rw [get?_edited_of_forall _ hnone] at h
    cases h
  · rw [get?_edited_of_last _ hedit hafter] at h
    cases edit with
    | register other spelling =>
      cases h
      exact ⟨before, other, after, rfl, hedit, hafter⟩
    | unregister other => cases h

end TypeMap

/-! ## What is taken off a name -/

/-- Blanks and so many `[]`, in any order. -/
inductive ArrayTail : Nat → List Char → Prop
  | nil : ArrayTail 0 []
  | blank {depth : Nat} {s : List Char} {c : Char} (h : ArrayTail depth s)
      (hc : isBlank c = true) : ArrayTail depth (s ++ [c])
  | brackets {depth : Nat} {s : List Char} (h : ArrayTail depth s) :
      ArrayTail (depth + 1) (s ++ ['[', ']'])

/-- There are neither blanks around the name nor a `[]` at its end. -/
def IsBare (name : String) : Prop :=
  trim name.toList = name.toList ∧ ¬ ['[', ']'] <:+ name.toList

/-- The name is `element`, with blanks around it and `depth` times `[]` behind it. -/
structure Strips (name : String) (depth : Nat) (element : String) : Prop where
  bare : IsBare element
  parts : ∃ front tail, name.toList = front ++ element.toList ++ tail ∧
    (∀ c ∈ front, isBlank c = true) ∧ ArrayTail depth tail

/-- What has no `[]` at its end is left as it is. -/
theorem peelArrays_of_isBare {name : String} (h : IsBare name) :
    peelArrays (trim name.toList).reverse = (0, name.toList.reverse) := by
  rw [h.1, peelArrays.eq_2]
  intro rest hrest
  refine h.2 ⟨rest.reverse, ?_⟩
  have hreverse := congrArg List.reverse hrest
  simpa using hreverse.symm

/-- **What is taken off a name**, and what is left of it. -/
theorem Strips.peelArrays_eq {name element : String} {depth : Nat} (h : Strips name depth element) :
    peelArrays (trim name.toList).reverse = (depth, element.toList.reverse) := by
  obtain ⟨hbare, front, tail, hname, hfront, htail⟩ := h
  rw [hname]
  clear hname
  induction htail with
  | nil =>
    rw [List.append_nil, trim, trimStart_blanks_append hfront]
    exact peelArrays_of_isBare hbare
  | blank _ hc ih =>
    rw [← List.append_assoc, trim_concat_blank hc]
    exact ih
  | brackets _ ih => rw [← List.append_assoc, peelArrays_append, ih]

theorem ArrayTail.blanks {depth : Nat} {s u : List Char} (h : ArrayTail depth s)
    (hu : ∀ c ∈ u, isBlank c = true) : ArrayTail depth (s ++ u) := by
  induction u generalizing s with
  | nil => rwa [List.append_nil]
  | cons c rest ih =>
    rw [List.forall_mem_cons] at hu
    rw [List.append_cons]
    exact ih (h.blank hu.1) hu.2

/-- What is left of a text, read backwards, when `[]` and the blanks before them have been taken
off. -/
theorem exists_of_peelArrays (s : List Char) (hs : s.dropWhile isBlank = s) :
    ∃ tail, s.reverse = (peelArrays s).2.reverse ++ tail ∧ ArrayTail (peelArrays s).1 tail ∧
      (peelArrays s).2.dropWhile isBlank = (peelArrays s).2 ∧
      ¬ [']', '['] <+: (peelArrays s).2 := by
  induction s using peelArrays.induct with
  | case1 rest _ _ _ ih =>
    obtain ⟨tail, hrest, htail, hbare⟩ := ih (List.dropWhile_idempotent isBlank rest)
    rw [peelArrays]
    have hblanks : ∀ c ∈ (rest.takeWhile isBlank).reverse, isBlank c = true := fun c hc =>
      List.mem_takeWhile_imp (List.mem_reverse.1 hc)
    have htext : (']' :: '[' :: rest).reverse
        = (rest.dropWhile isBlank).reverse ++ (rest.takeWhile isBlank).reverse ++ ['[', ']'] := by
      rw [← List.reverse_append, List.takeWhile_append_dropWhile]
      simp
    refine ⟨tail ++ (rest.takeWhile isBlank).reverse ++ ['[', ']'], ?_,
      (htail.blanks hblanks).brackets, hbare⟩
    rw [htext, hrest]
    simp only [List.append_assoc]
  | case2 s hnot =>
    rw [peelArrays.eq_2 s hnot]
    refine ⟨[], (List.append_nil _).symm, .nil, hs, ?_⟩
    rintro ⟨rest, rfl⟩
    exact hnot rest rfl

/-- There are blanks in front, what is left, and what is taken off behind it. -/
theorem exists_strips (name : String) : ∃ depth, Strips name depth (elementName name) := by
  obtain ⟨front, hname, hfront⟩ := exists_trimStart name.toList
  obtain ⟨blanks, htrim, hblanks⟩ := exists_trimEnd (trimStart name.toList)
  change trimStart name.toList = trim name.toList ++ blanks at htrim
  have hend : (trim name.toList).reverse.dropWhile isBlank = (trim name.toList).reverse := by
    rw [trim, trimEnd, List.reverse_reverse]
    exact List.dropWhile_idempotent _ _
  obtain ⟨tail, hpeel, htail, hblank, hbrackets⟩ := exists_of_peelArrays _ hend
  rw [List.reverse_reverse] at hpeel
  have hstart : trimStart (elementName name).toList = (elementName name).toList := by
    refine trimStart_of_trimStart_append (tail ++ blanks) ?_
    rw [elementName, String.toList_ofList, ← List.append_assoc, ← hpeel, ← htrim]
    exact List.dropWhile_idempotent _ _
  refine ⟨_, ⟨?_, fun hsuffix => hbrackets ?_⟩, front, tail ++ blanks, ?_, hfront,
    htail.blanks hblanks⟩
  · rw [trim, hstart, trimEnd, elementName, String.toList_ofList, List.reverse_reverse, hblank]
  · have hreverse := List.reverse_prefix.2 hsuffix
    rwa [elementName, String.toList_ofList, List.reverse_reverse] at hreverse
  · rw [elementName, String.toList_ofList, List.append_assoc, ← List.append_assoc _ tail,
      ← hpeel, ← htrim]
    exact hname

/-! ## How names are spelled -/

/-- What is left of a name decides how it is spelled. -/
theorem mapName_of_strips (types : TypeMap) {name element : String} {depth : Nat}
    (h : Strips name depth element) :
    types.mapName name = arrayOfDepth depth (types.mapElement element) := by
  rw [mapName_eq, elementName, h.peelArrays_eq, List.reverse_reverse, String.ofList_toList]

theorem isInfix_concat_iff {part s : List Char} {c : Char} (hc : c ∉ part) :
    part <:+: s ++ [c] ↔ part <:+: s := by
  refine ⟨fun h => ?_, fun h => h.trans (List.prefix_append _ _).isInfix⟩
  rcases List.infix_concat_iff.1 h with hend | h
  · rcases List.suffix_concat_iff.1 hend with rfl | ⟨front, rfl, -⟩
    · exact List.nil_infix
    · exact absurd (by simp) hc
  · exact h

theorem occursIn_append_marks {part : List Char} (hopen : '[' ∉ part) (hclose : ']' ∉ part)
    (s : List Char) (depth : Nat) : occursIn part (s ++ arrayMarks depth) = occursIn part s := by
  induction depth with
  | zero => rw [arrayMarks, List.append_nil]
  | succ depth ih =>
    rw [← ih, Bool.eq_iff_iff, occursIn_iff, occursIn_iff, arrayMarks, ← List.append_assoc,
      List.append_cons _ '[' [']'], isInfix_concat_iff hclose, isInfix_concat_iff hopen]

/-- No parentheses are put around what has neither a bar nor an arrow in it. -/
theorem toList_arrayOfDepth_of_plain {s : String} (hbar : occursIn " | ".toList s.toList = false)
    (harrow : occursIn "=>".toList s.toList = false) (depth : Nat) :
    (arrayOfDepth depth s).toList = s.toList ++ arrayMarks depth := by
  induction depth with
  | zero => rw [arrayOfDepth, arrayMarks, List.append_nil]
  | succ depth ih =>
    rw [arrayOfDepth_succ, arrayOf, ih, occursIn_append_marks (by decide) (by decide), hbar,
      occursIn_append_marks (by decide) (by decide), harrow, if_neg (by simp),
      String.toList_append, ih, arrayMarks, List.append_assoc]
    rfl

theorem IsBare.strips {name : String} (h : IsBare name) : Strips name 0 name :=
  ⟨h, [], [], by rw [List.nil_append, List.append_nil], List.forall_mem_nil _, .nil⟩

/-- A bare name is spelled as it was registered. -/
theorem mapName_of_isBare {types : TypeMap} {name spelling : String} (hbare : IsBare name)
    (hne : name ≠ "") (h : types.get? name = some spelling) : types.mapName name = spelling := by
  have hempty : ¬ name.isEmpty = true := fun hempty => hne (String.isEmpty_iff.1 hempty)
  rw [mapName_of_strips types hbare.strips, arrayOfDepth, TypeMap.mapElement, if_neg hempty, h]
  rfl

/-- Nothing is taken off an identifier. -/
theorem isBare_of_isIdentifier {name : String} (h : isIdentifier name = true) : IsBare name := by
  obtain ⟨c, rest, hname, hchars⟩ := exists_cons_of_isIdentifier h
  obtain ⟨front, d, hlast⟩ := List.eq_nil_or_concat' (c :: rest) |>.resolve_left
    (List.cons_ne_nil c rest)
  have hd : isNameChar d = true := hchars d (hlast ▸ by simp)
  refine ⟨trim_eq_self hname (hname.trans hlast)
    (isBlank_of_isNameChar (hchars c List.mem_cons_self)) (isBlank_of_isNameChar hd), ?_⟩
  rw [hname]
  intro hsuffix
  have hbracket := hchars '[' (hsuffix.subset (by simp))
  exact absurd hbracket (by decide)

/-- **An identifier** is spelled as it was registered, or written out. -/
theorem mapName_of_isIdentifier {types : TypeMap} {name : String} (h : isIdentifier name = true) :
    types.mapName name = (types.get? name).getD name := by
  have hempty : ¬ name.isEmpty = true := by
    rw [isIdentifier, Bool.and_eq_true, Bool.not_eq_true'] at h
    rw [h.1]
    exact Bool.false_ne_true
  rw [mapName_of_strips types (isBare_of_isIdentifier h).strips, arrayOfDepth, TypeMap.mapElement,
    if_neg hempty]

/-- What is left of a name is written out if it is not mapped. -/
theorem mapElement_of_none {types : TypeMap} {element : String} (h : types.get? element = none) :
    types.mapElement element = if element = "" then "any" else element := by
  rw [TypeMap.mapElement, h]
  simp only [String.isEmpty_iff, Option.getD_none]

/-- **What is registered is used** for a name without blanks around it and without `[]`.  After any
changes, to no spellings or to the usual ones, a name is mapped if it was registered, in whatever
case, and neither registered otherwise nor forgotten after that; and what it was registered with is
how it is spelled, if there is nothing to take off it.  From any other name, the blanks around it
and every `[]` are taken off; what is left is spelled as it was registered, or written out if it is
not mapped, with as many `[]`. -/
theorem spelling_after_edits (builtins : Bool) (edits : List TypeEdit) (name : String) :
    let history := (if builtins then TypeMap.usualEdits else []) ++ edits
    let types := (if builtins then TypeMap.builtin else .empty).edited edits
    (∀ spelling, types.get? name = some spelling ↔
      ∃ before other after, history = before ++ .register other spelling :: after ∧
        lowercase other = lowercase name ∧ ∀ edit ∈ after, ¬ edit.IsFor name) ∧
    (types.contains name = true → IsBare name → name ≠ "" →
      types.get? name = some (types.mapName name)) ∧
    (∃ depth element, Strips name depth element) ∧
    ∀ depth element, Strips name depth element →
      types.mapName name = arrayOfDepth depth (types.mapElement element) ∧
      (types.get? element = none →
        let written := if element = "" then "any" else element
        types.mapName name = arrayOfDepth depth written ∧
        (occursIn " | ".toList written.toList = false →
          occursIn "=>".toList written.toList = false →
          (types.mapName name).toList = written.toList ++ arrayMarks depth)) := by
  intro history types
  have htypes : types = TypeMap.empty.edited history := by
    cases builtins with
    | false => rfl
    | true =>
      change TypeMap.builtin.edited edits = TypeMap.empty.edited (TypeMap.usualEdits ++ edits)
      rw [TypeMap.edited_append, TypeMap.edited_usualEdits]
      rfl
  refine ⟨fun spelling => ⟨fun h => ?_, ?_⟩, fun hcontains hbare hne => ?_,
    (exists_strips name).elim fun depth h => ⟨depth, _, h⟩,
    fun depth element h => ⟨mapName_of_strips types h, fun hnone => ?_⟩⟩
  · exact TypeMap.exists_last_register (htypes ▸ h)
  · rintro ⟨before, other, after, hhistory, hother, hafter⟩
    rw [htypes, hhistory]
    exact TypeMap.get?_edited_of_last _ hother hafter
  · obtain ⟨spelling, hspelling⟩ := Option.isSome_iff_exists.1 hcontains
    rw [hspelling, mapName_of_isBare hbare hne hspelling]
  · have hwritten := mapName_of_strips types h
    rw [mapElement_of_none hnone] at hwritten
    refine ⟨hwritten, fun hbar harrow => ?_⟩
    rw [hwritten]
    exact toList_arrayOfDepth_of_plain hbar harrow depth

/-- Spells objects otherwise than usual, and addresses not at all. -/
def redirected : List TypeEdit := [.register "Object" "Record<string, unknown>", .unregister "URL"]

/-- Objects are spelled as registered last; addresses, and arrays of them, are written out. -/
theorem spelling_after_edits_redirected :
    (TypeMap.builtin.edited redirected).get? "OBJECT"
        = some ((TypeMap.builtin.edited redirected).mapName "OBJECT") ∧
      (TypeMap.builtin.edited redirected).mapName " URL []" = "URL[]" := by
  have hbare : IsBare "OBJECT" ∧ IsBare "URL" := by
    constructor <;> exact ⟨by decide +kernel, by decide +kernel⟩
  have hstrips : Strips " URL []" 1 "URL" :=
    ⟨hbare.2, [' '], [' ', '[', ']'], by decide +kernel,
      List.forall_mem_singleton.2 isBlank_space, .brackets (.blank .nil isBlank_space)⟩
  obtain ⟨-, hused, -⟩ := spelling_after_edits true redirected "OBJECT"
  obtain ⟨-, -, -, hwritten⟩ := spelling_after_edits true redirected " URL []"
  obtain ⟨hmap, -⟩ := (hwritten 1 "URL" hstrips).2 (by decide +kernel)
  exact ⟨hused (by decide +kernel) hbare.1 (by decide), hmap⟩

/-- What is registered under a name with `[]` is not used. -/
theorem mapName_ne_registered :
    (TypeMap.empty.edited [.register "String[]" "Text"]).contains "String[]" = true ∧
      (TypeMap.empty.edited [.register "String[]" "Text"]).get? "String[]" = some "Text" ∧
      (TypeMap.empty.edited [.register "String[]" "Text"]).mapName "String[]" ≠ "Text" := by
  decide +kernel

end Ambient
