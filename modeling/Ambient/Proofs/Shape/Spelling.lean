import Ambient.Proofs.Shape.Reading
import Ambient.TypeMap

/-!
# How types are spelled

The types of the metadata are identifiers, some with a `[]` behind them, and choices of types.
Spelled in the usual way, an identifier is a word again, the `[]` stays behind it, and a choice has
` | ` between its members.  So a `[]` at the end of a spelling belongs to the last word alone.  It
can be taken away; and another one can be put behind it, unless the word has as many as it can have.

## What is here

* `isIdentifier`, `IsTypeName`, `TypeRef.Named` — identifiers, names of types, and types made of
  them.
* `mapName_typeName` — a name is spelled word for word, with its `[]`.
* `spelling` — the spelling of a type; `isTypeChar_of_mem_spelling` — the characters in it.
* `lastWord`, `isSpent` — the last word of a spelling, and whether no `[]` can be put behind it.
* `exists_grown`, `exists_shrunk` — a type with one `[]` more, or less, at the end of its spelling.
-/

set_option autoImplicit false

namespace Ambient

open Text Character

/-! ## Names -/

/-- The character may stand in an identifier: a letter or digit, `_` or `$`; and beyond ASCII,
whatever is not blank. -/
def isNameChar (c : Char) : Bool :=
  if c.toNat < 128 then c.isAlphanum || c == '_' || c == '$' else !isBlank c

/-- The text is an identifier. -/
def isIdentifier (s : String) : Bool := !s.isEmpty && s.toList.all isNameChar

/-- So many `[]`. -/
def arrayMarks : Nat → List Char
  | 0 => []
  | depth + 1 => arrayMarks depth ++ ['[', ']']

/-- The text is an identifier, or one with a `[]` behind it. -/
def IsTypeName (s : String) : Prop :=
  ∃ word depth, isIdentifier word = true ∧ depth ≤ 1 ∧ s.toList = word.toList ++ arrayMarks depth

mutual

/-- The names of which a type is made. -/
def TypeRef.names : TypeRef → List String
  | .name n => [n]
  | .union members => namesOfMembers members

/-- The names of which several types are made. -/
def namesOfMembers : List TypeRef → List String
  | [] => []
  | member :: rest => member.names ++ namesOfMembers rest

end

/-- The type is made of identifiers, some with a `[]` behind them. -/
def TypeRef.Named (type : TypeRef) : Prop := ∀ n ∈ type.names, IsTypeName n

theorem mem_namesOfMembers {members : List TypeRef} {n : String} :
    n ∈ namesOfMembers members ↔ ∃ m ∈ members, n ∈ m.names := by
  induction members with
  | nil => simp [namesOfMembers]
  | cons m rest ih => simp [namesOfMembers, ih]

theorem named_name {n : String} : (TypeRef.name n).Named ↔ IsTypeName n := by
  simp [TypeRef.Named, TypeRef.names]

theorem named_union {members : List TypeRef} :
    (TypeRef.union members).Named ↔ ∀ m ∈ members, m.Named := by
  constructor
  · intro h m hm n hn
    refine h n ?_
    rw [TypeRef.names]
    exact mem_namesOfMembers.2 ⟨m, hm, hn⟩
  · intro h n hn
    rw [TypeRef.names] at hn
    obtain ⟨m, hm, hn⟩ := mem_namesOfMembers.1 hn
    exact h m hm n hn

/-! ### Characters of names -/

theorem isBlank_of_isNameChar {c : Char} (h : isNameChar c = true) : isBlank c = false := by
  rw [isNameChar] at h
  split at h
  · rename_i hascii
    have hall : ∀ n < 128, isBlank (Char.ofNat n) = true →
        ((Char.ofNat n).isAlphanum || Char.ofNat n == '_' || Char.ofNat n == '$') = false := by
      decide +kernel
    cases hc : isBlank c with
    | false => rfl
    | true =>
      have h2 := hall c.toNat hascii
      rw [Char.ofNat_toNat, h] at h2
      exact h2 hc
  · simpa using h

/-- An identifier has a first character. -/
theorem exists_cons_of_isIdentifier {s : String} (h : isIdentifier s = true) :
    ∃ c rest, s.toList = c :: rest ∧ ∀ d ∈ c :: rest, isNameChar d = true := by
  rw [isIdentifier, Bool.and_eq_true, Bool.not_eq_true', String.isEmpty_eq_false_iff,
    List.all_eq_true] at h
  cases hs : s.toList with
  | nil => exact absurd (String.toList_eq_nil_iff.1 hs) h.1
  | cons c rest => exact ⟨c, rest, rfl, hs ▸ h.2⟩

theorem ne_of_isNameChar {c d : Char} (h : isNameChar c = true) (hd : isNameChar d = false) :
    c ≠ d := by
  rintro rfl
  rw [h] at hd
  cases hd

/-! ## Names spelled -/

theorem entries_builtin : TypeMap.builtin.spellings.entries = TypeMap.builtinSpellings := by
  decide +kernel

/-- An identifier is spelled as it is or in one of the usual ways. -/
theorem mapElement_builtin {word : String} (h : isIdentifier word = true) :
    TypeMap.builtin.mapElement word = word ∨
      TypeMap.builtin.mapElement word ∈ TypeMap.builtinSpellings.map Prod.snd := by
  rw [isIdentifier, Bool.and_eq_true, Bool.not_eq_true'] at h
  rw [TypeMap.mapElement, if_neg (by simp [h.1])]
  cases hget : TypeMap.builtin.get? word with
  | none => exact Or.inl rfl
  | some spelling =>
    refine Or.inr ?_
    rw [TypeMap.get?, Dictionary.get?_eq_some_iff, entries_builtin] at hget
    exact List.mem_map.2 ⟨_, hget, rfl⟩

/-- The character may stand in a word of a spelling. -/
def isWordChar (c : Char) : Bool := isNameChar c || c == '<' || c == '>'

/-- A word of a spelling: what an identifier may become. -/
def IsWord (w : List Char) : Prop :=
  ∃ stem depth, stem ≠ [] ∧ (∀ c ∈ stem, isWordChar c = true) ∧ w = stem ++ arrayMarks depth

/-- What arrays of anything are called. -/
def anyArray : List Char := ['a', 'n', 'y', '[', ']']

/-- An identifier becomes a word without marks, unless arrays of anything are meant. -/
theorem mapElement_cases {word : String} (h : isIdentifier word = true) :
    ((TypeMap.builtin.mapElement word).toList ≠ [] ∧
        ∀ c ∈ (TypeMap.builtin.mapElement word).toList, isWordChar c = true) ∨
      (TypeMap.builtin.mapElement word).toList = anyArray := by
  rcases mapElement_builtin h with heq | hmem
  · obtain ⟨c, rest, hword, hchars⟩ := exists_cons_of_isIdentifier h
    rw [heq, hword]
    refine Or.inl ⟨List.cons_ne_nil _ _, fun d hd => ?_⟩
    rw [isWordChar, hchars d hd]
    rfl
  · have hall : ∀ w ∈ TypeMap.builtinSpellings.map Prod.snd,
        (w.toList ≠ [] ∧ w.toList.all isWordChar = true) ∨ w.toList = anyArray := by
      decide +kernel
    rcases hall _ hmem with ⟨hne, hchars⟩ | harray
    · exact Or.inl ⟨hne, List.all_eq_true.1 hchars⟩
    · exact Or.inr harray

theorem isWord_mapElement {word : String} (h : isIdentifier word = true) :
    IsWord (TypeMap.builtin.mapElement word).toList := by
  rcases mapElement_cases h with ⟨hne, hchars⟩ | harray
  · exact ⟨_, 0, hne, hchars, by rw [arrayMarks, List.append_nil]⟩
  · exact ⟨['a', 'n', 'y'], 1, by decide, List.all_eq_true.1 (by decide), harray⟩

theorem arrayMarks_add (m n : Nat) : arrayMarks m ++ arrayMarks n = arrayMarks (m + n) := by
  induction n with
  | zero => rw [arrayMarks, List.append_nil, Nat.add_zero]
  | succ n ih => rw [arrayMarks, ← List.append_assoc, ih, Nat.add_succ, arrayMarks]

theorem IsWord.append_arrayMarks {w : List Char} (h : IsWord w) (depth : Nat) :
    IsWord (w ++ arrayMarks depth) := by
  obtain ⟨stem, n, hne, hchars, rfl⟩ := h
  exact ⟨stem, n + depth, hne, hchars, by rw [List.append_assoc, arrayMarks_add]⟩

theorem mem_arrayMarks {depth : Nat} {c : Char} (h : c ∈ arrayMarks depth) : c = '[' ∨ c = ']' := by
  induction depth with
  | zero => cases h
  | succ depth ih =>
    rw [arrayMarks, List.mem_append] at h
    rcases h with h | h
    · exact ih h
    · simpa using h

theorem IsWord.mem {w : List Char} (h : IsWord w) {c : Char} (hc : c ∈ w) :
    isWordChar c = true ∨ c = '[' ∨ c = ']' := by
  obtain ⟨stem, depth, -, hchars, rfl⟩ := h
  rcases List.mem_append.1 hc with hc | hc
  · exact Or.inl (hchars c hc)
  · exact Or.inr (mem_arrayMarks hc)

/-- What occurs in a text has its characters in it. -/
theorem mem_of_occursIn {part s : List Char} (h : occursIn part s = true) {c : Char}
    (hc : c ∈ part) : c ∈ s :=
  (occursIn_iff.1 h).subset hc

/-- No parentheses are put around a word. -/
theorem arrayOf_of_isWord {s : String} (h : IsWord s.toList) : arrayOf s = s ++ "[]" := by
  have hnot : ∀ (part : List Char) (c : Char), c ∈ part → isWordChar c = false → c ≠ '[' →
      c ≠ ']' → occursIn part s.toList = false := by
    intro part c hc hword hopen hclose
    cases hoccurs : occursIn part s.toList with
    | false => rfl
    | true =>
      rcases h.mem (mem_of_occursIn hoccurs hc) with h2 | h2 | h2
      · rw [hword] at h2
        cases h2
      · exact absurd h2 hopen
      · exact absurd h2 hclose
  rw [arrayOf, hnot " | ".toList '|' (by decide) (by decide) (by decide) (by decide),
    hnot "=>".toList '=' (by decide) (by decide) (by decide) (by decide)]
  rfl

theorem toList_arrayOfDepth {s : String} (h : IsWord s.toList) (depth : Nat) :
    (arrayOfDepth depth s).toList = s.toList ++ arrayMarks depth := by
  induction depth with
  | zero => rw [arrayOfDepth, arrayMarks, List.append_nil]
  | succ depth ih =>
    have hword : IsWord (arrayOfDepth depth s).toList := ih ▸ h.append_arrayMarks depth
    rw [arrayOfDepth_succ, arrayOf_of_isWord hword, String.toList_append, ih, arrayMarks,
      List.append_assoc]
    rfl

/-- An identifier with `[]` behind it, read backwards. -/
theorem peelArrays_reverse {word : List Char} {c : Char} {rest : List Char}
    (hword : word.reverse = c :: rest) (hc : isNameChar c = true) (depth : Nat) :
    peelArrays (word ++ arrayMarks depth).reverse = (depth, word.reverse) := by
  have hblank := isBlank_of_isNameChar hc
  induction depth with
  | zero =>
    rw [arrayMarks, List.append_nil, hword]
    have hclose : c ≠ ']' := ne_of_isNameChar hc (by decide)
    rw [peelArrays.eq_2]
    intro more hmore
    exact hclose (List.cons.inj hmore).1
  | succ depth ih =>
    have hrev : (word ++ arrayMarks (depth + 1)).reverse
        = ']' :: '[' :: (word ++ arrayMarks depth).reverse := by
      simp [arrayMarks]
    -- No blanks come to light under a `[]`.
    have hdrop : ((word ++ arrayMarks depth).reverse).dropWhile isBlank
        = (word ++ arrayMarks depth).reverse := by
      cases depth with
      | zero =>
        rw [arrayMarks, List.append_nil, hword, List.dropWhile_cons_of_neg (by simp [hblank])]
      | succ depth =>
        have hrev2 : (word ++ arrayMarks (depth + 1)).reverse
            = ']' :: '[' :: (word ++ arrayMarks depth).reverse := by
          simp [arrayMarks]
        rw [hrev2, List.dropWhile_cons_of_neg (by decide)]
    rw [hrev, peelArrays, hdrop, ih]

theorem trim_eq_self {s : List Char} {first last : Char} {front rest : List Char}
    (hfirst : s = first :: rest) (hlast : s = front ++ [last]) (h : isBlank first = false)
    (h2 : isBlank last = false) : trim s = s := by
  have hstart : trimStart s = s := by
    rw [trimStart, hfirst, List.dropWhile_cons_of_neg (by simp [h])]
  rw [trim, hstart, trimEnd, hlast, List.reverse_append, List.reverse_singleton,
    List.singleton_append, List.dropWhile_cons_of_neg (by simp [h2])]
  simp

/-- **A name is spelled word for word**, with its `[]`. -/
theorem mapName_typeName {n word : String} {depth : Nat} (h : isIdentifier word = true)
    (hn : n.toList = word.toList ++ arrayMarks depth) :
    (TypeMap.builtin.mapName n).toList
      = (TypeMap.builtin.mapElement word).toList ++ arrayMarks depth := by
  obtain ⟨first, rest, hword, hchars⟩ := exists_cons_of_isIdentifier h
  obtain ⟨front, last, hfront⟩ : ∃ front last, word.toList = front ++ [last] :=
    ⟨_, _, (List.dropLast_append_getLast (by simp [hword])).symm⟩
  have hlast : isNameChar last = true := hchars last (by rw [← hword, hfront]; simp)
  have htrim : trim n.toList = n.toList := by
    cases depth with
    | zero =>
      rw [arrayMarks, List.append_nil] at hn
      exact trim_eq_self (hn.trans hword) (hn.trans hfront)
        (isBlank_of_isNameChar (hchars first (by simp))) (isBlank_of_isNameChar hlast)
    | succ depth =>
      have hstart : n.toList = first :: (rest ++ arrayMarks (depth + 1)) := by
        rw [hn, hword]
        rfl
      have hend : n.toList = (word.toList ++ arrayMarks depth ++ ['[']) ++ [']'] := by
        rw [hn, arrayMarks]
        simp
      exact trim_eq_self hstart hend (isBlank_of_isNameChar (hchars first (by simp))) (by decide)
  have hrev : word.toList.reverse = last :: front.reverse := by rw [hfront]; simp
  rw [TypeMap.mapName, htrim, hn, peelArrays_reverse hrev hlast]
  show (arrayOfDepth depth
    (TypeMap.builtin.mapElement (String.ofList word.toList.reverse.reverse))).toList = _
  rw [List.reverse_reverse, String.ofList_toList, toList_arrayOfDepth (isWord_mapElement h)]

/-- A name is spelled as a word. -/
theorem isWord_mapName {n : String} (h : IsTypeName n) :
    IsWord (TypeMap.builtin.mapName n).toList := by
  obtain ⟨word, depth, hword, -, hn⟩ := h
  rw [mapName_typeName hword hn]
  exact (isWord_mapElement hword).append_arrayMarks depth

/-! ## Types spelled -/

/-- The spelling of a type. -/
def spelling (type : TypeRef) : List Char := (TypeMap.builtin.mapType type).toList

/-- What stands between the members of a choice. -/
def bar : List Char := [' ', '|', ' ']

theorem spelling_name (n : String) : spelling (.name n) = (TypeMap.builtin.mapName n).toList := rfl

theorem spelling_union (members : List TypeRef) :
    spelling (.union members) = bar.intercalate (members.map spelling) := by
  rw [spelling, TypeMap.mapType, TypeMap.mapTypes_eq_map, String.toList_intercalate, List.map_map]
  rfl

/-- The character may stand in a spelling. -/
def isTypeChar (c : Char) : Bool :=
  isWordChar c || c == '[' || c == ']' || c == ' ' || c == '|'

/-- The characters of a spelling. -/
theorem isTypeChar_of_mem_spelling {type : TypeRef} (h : type.Named) :
    ∀ c ∈ spelling type, isTypeChar c = true := by
  induction type using TypeRef.induct with
  | name n =>
    intro c hc
    rcases (isWord_mapName (named_name.1 h)).mem hc with hc | rfl | rfl
    · simp [isTypeChar, hc]
    · decide
    · decide
  | union members ih =>
    intro c hc
    rw [spelling_union] at hc
    rcases Reading.mem_of_mem_intercalate hc with hbar | ⟨u, hu, hcu⟩
    · have hall : bar.all isTypeChar = true := by decide
      exact List.all_eq_true.1 hall c hbar
    · obtain ⟨m, hm, rfl⟩ := List.mem_map.1 hu
      exact ih m hm (named_union.1 h m hm) c hcu

/-- What may not stand in a spelling. -/
theorem ne_of_isTypeChar {c d : Char} (h : isTypeChar c = true) (hd : isTypeChar d = false) :
    c ≠ d := by
  rintro rfl
  rw [h] at hd
  cases hd

open Reading in
theorem isPlain_of_isTypeChar {c : Char} (h : isTypeChar c = true) : isPlain c = true := by
  have hquote : c ≠ '\'' := ne_of_isTypeChar h (by decide)
  have hbrace : c ≠ '{' := ne_of_isTypeChar h (by decide)
  have hparen : c ≠ '(' := ne_of_isTypeChar h (by decide)
  have hbrace2 : c ≠ '}' := ne_of_isTypeChar h (by decide)
  have hparen2 : c ≠ ')' := ne_of_isTypeChar h (by decide)
  have hsemi : c ≠ ';' := ne_of_isTypeChar h (by decide)
  have hcomma : c ≠ ',' := ne_of_isTypeChar h (by decide)
  simp [isPlain, isOpening, isClosing, isSeparator, hquote, hbrace, hparen, hbrace2, hparen2,
    hsemi, hcomma]

theorem level_spelling {type : TypeRef} (h : type.Named) : Reading.Level (spelling type) :=
  Reading.level_of_isPlain (List.all_eq_true.2 fun c hc =>
    isPlain_of_isTypeChar (isTypeChar_of_mem_spelling h c hc))

/-! ### The last word of a spelling -/

/-- What stands behind the last blank. -/
def lastWord (u : List Char) : List Char := (u.reverse.takeWhile (· != ' ')).reverse

theorem lastWord_append_of_lastWord_eq_nil {u : List Char} (h : lastWord u = []) (v : List Char) :
    lastWord (u ++ v) = lastWord v := by
  rw [lastWord, List.reverse_eq_nil_iff] at h
  rw [lastWord, List.reverse_append, List.takeWhile_append, h, List.append_nil]
  split
  · rename_i hlength
    rw [lastWord, (List.takeWhile_sublist _).eq_of_length hlength]
  · rfl

theorem lastWord_append_of_forall_ne {u v : List Char} (h : ∀ c ∈ v, c ≠ ' ') :
    lastWord (u ++ v) = lastWord u ++ v := by
  rw [lastWord, List.reverse_append, List.takeWhile_append_of_pos, List.reverse_append,
    List.reverse_reverse, lastWord]
  exact fun c hc => bne_iff_ne.2 (h c (List.mem_reverse.1 hc))

theorem lastWord_of_forall_ne {v : List Char} (h : ∀ c ∈ v, c ≠ ' ') : lastWord v = v :=
  lastWord_append_of_forall_ne (u := []) h

/-- Where there is no last word, a text does not end with a part of a mark. -/
theorem getLast?_ne_of_lastWord_eq_nil {u : List Char} (h : lastWord u = []) {c : Char}
    (hc : c ≠ ' ') : u.getLast? ≠ some c := by
  intro hlast
  obtain ⟨front, rfl⟩ := List.getLast?_eq_some_iff.1 hlast
  rw [lastWord_append_of_forall_ne (by simpa using hc)] at h
  exact absurd h (by simp)

/-- In front of the last member of a choice stands a text without a last word. -/
theorem exists_front_of_union (front : List TypeRef) :
    ∃ text, lastWord text = [] ∧ ∀ m, spelling (.union (front ++ [m])) = text ++ spelling m := by
  refine ⟨(front.map spelling).flatMap (· ++ bar), ?_, fun m => ?_⟩
  · rcases List.eq_nil_or_concat' front with rfl | ⟨others, last, rfl⟩
    · rfl
    · rw [List.map_append, List.flatMap_append]
      simp [lastWord, bar]
  · rw [spelling_union, List.map_append, List.map_singleton, Reading.intercalate_concat]

theorem forall_ne_blank_of_isWord {w : List Char} (h : IsWord w) : ∀ c ∈ w, c ≠ ' ' := by
  intro c hc hblank
  rw [hblank] at hc
  rcases h.mem hc with hword | hopen | hclose
  · exact absurd hword (by decide)
  · exact absurd hopen (by decide)
  · exact absurd hclose (by decide)

/-- The last word of a spelling is a name spelled, if it is there. -/
theorem lastWord_spelling {type : TypeRef} (h : type.Named) :
    lastWord (spelling type) = [] ∨
      ∃ n, IsTypeName n ∧ lastWord (spelling type) = (TypeMap.builtin.mapName n).toList := by
  induction type using TypeRef.induct with
  | name n =>
    have hn := named_name.1 h
    exact Or.inr ⟨n, hn, lastWord_of_forall_ne (forall_ne_blank_of_isWord (isWord_mapName hn))⟩
  | union members ih =>
    rcases List.eq_nil_or_concat' members with rfl | ⟨front, last, rfl⟩
    · exact Or.inl rfl
    · obtain ⟨text, htext, hfront⟩ := exists_front_of_union front
      rw [hfront, lastWord_append_of_lastWord_eq_nil htext]
      exact ih last (by simp) (named_union.1 h last (by simp))

/-! ### Words with as many marks as they can have -/

/-- A `[]` stands at the end. -/
def endsMarked (u : List Char) : Bool := ['[', ']'].isSuffixOf u

theorem endsMarked_iff {u : List Char} : endsMarked u = true ↔ ∃ v, u = v ++ ['[', ']'] := by
  rw [endsMarked, List.isSuffixOf_iff_suffix]
  constructor
  · rintro ⟨v, rfl⟩
    exact ⟨v, rfl⟩
  · rintro ⟨v, rfl⟩
    exact ⟨v, rfl⟩

/-- No `[]` can be put behind the text: there is no word, or one that has a `[]`.  Only `any[]` may
have another one, because there is a name for it. -/
def isSpent (u : List Char) : Bool :=
  (lastWord u).isEmpty || (endsMarked (lastWord u) && lastWord u != anyArray)

/-- A name is spelled with two `[]` at most, and with two only if arrays of anything are meant. -/
theorem exists_stem_of_mapName {n : String} (h : IsTypeName n) :
    ∃ stem count, stem ≠ [] ∧ '[' ∉ stem ∧
      (TypeMap.builtin.mapName n).toList = stem ++ arrayMarks count ∧
        (count ≤ 1 ∨ (count = 2 ∧ stem = ['a', 'n', 'y'])) := by
  obtain ⟨word, depth, hword, hdepth, hn⟩ := h
  rw [mapName_typeName hword hn]
  rcases mapElement_cases hword with ⟨hne, hchars⟩ | harray
  · exact ⟨_, depth, hne, fun hopen => absurd (hchars _ hopen) (by decide), rfl, Or.inl hdepth⟩
  · refine ⟨['a', 'n', 'y'], 1 + depth, by decide, by decide, ?_, ?_⟩
    · rw [harray, ← arrayMarks_add, ← List.append_assoc]
      rfl
    · rcases Nat.le_one_iff_eq_zero_or_eq_one.1 hdepth with rfl | rfl
      · exact Or.inl (Nat.le_refl 1)
      · exact Or.inr ⟨rfl, rfl⟩

/-- Where no `[` is, the marks behind a text can be told from it. -/
theorem le_of_append_arrayMarks {u stem : List Char} {m count : Nat} (hstem : '[' ∉ stem)
    (h : u ++ arrayMarks m = stem ++ arrayMarks count) :
    m ≤ count ∧ u = stem ++ arrayMarks (count - m) := by
  induction m generalizing count with
  | zero =>
    rw [arrayMarks, List.append_nil] at h
    exact ⟨Nat.zero_le _, h⟩
  | succ m ih =>
    cases count with
    | zero =>
      rw [arrayMarks, arrayMarks, List.append_nil] at h
      exact absurd (h ▸ by simp) hstem
    | succ count =>
      rw [arrayMarks, arrayMarks, ← List.append_assoc, ← List.append_assoc] at h
      obtain ⟨hle, hu⟩ := ih (List.append_cancel_right h)
      exact ⟨Nat.succ_le_succ hle, by rw [hu, Nat.add_sub_add_right]⟩

theorem forall_ne_blank_of_arrayMarks (depth : Nat) : ∀ c ∈ arrayMarks depth, c ≠ ' ' := by
  intro c hc
  rcases mem_arrayMarks hc with rfl | rfl <;> decide

/-- **No type is spelled with a mark behind a spent spelling.** -/
theorem spelling_ne_of_isSpent {type : TypeRef} (h : type.Named) {u : List Char}
    (hspent : isSpent u = true) (depth : Nat) : spelling type ≠ u ++ arrayMarks (depth + 1) := by
  intro heq
  have hlast : lastWord (spelling type) = lastWord u ++ arrayMarks (depth + 1) := by
    rw [heq, lastWord_append_of_forall_ne (forall_ne_blank_of_arrayMarks _)]
  rcases lastWord_spelling h with hnone | ⟨n, hn, hname⟩
  · rw [hnone, arrayMarks] at hlast
    exact absurd hlast (by simp)
  obtain ⟨stem, count, hne, hstem, hcount, hfew⟩ := exists_stem_of_mapName hn
  rw [hname, hcount] at hlast
  rw [isSpent, Bool.or_eq_true, List.isEmpty_iff] at hspent
  rcases hspent with hempty | hmarked
  · obtain ⟨-, hnil⟩ := le_of_append_arrayMarks hstem hlast.symm
    rw [hempty] at hnil
    exact hne (List.append_eq_nil_iff.1 hnil.symm).1
  · rw [Bool.and_eq_true, endsMarked_iff, bne_iff_ne] at hmarked
    obtain ⟨⟨v, hv⟩, hany⟩ := hmarked
    -- There are two marks, so arrays of anything are meant.
    have htwo : v ++ arrayMarks (1 + (depth + 1)) = stem ++ arrayMarks count := by
      rw [← arrayMarks_add, ← List.append_assoc, hlast, hv]
      rfl
    obtain ⟨hle, hv2⟩ := le_of_append_arrayMarks hstem htwo
    rcases hfew with hone | ⟨rfl, rfl⟩
    · omega
    · have hzero : 2 - (1 + (depth + 1)) = 0 := by omega
      rw [hzero] at hv2
      exact hany (by rw [hv, hv2]; rfl)

/-! ### One mark more or less -/

/-- A mark at the end of two texts stands at the end of the second if the first does not end with
a part of one. -/
theorem exists_of_append_eq_marked {x y u : List Char} (hopen : x.getLast? ≠ some '[')
    (hclose : x.getLast? ≠ some ']') (h : x ++ y = u ++ ['[', ']']) :
    ∃ v, y = v ++ ['[', ']'] ∧ u = x ++ v := by
  rcases List.append_eq_append_iff.1 h with ⟨v, hu, hy⟩ | ⟨v, hx, hmark⟩
  · exact ⟨v, hy, hu⟩
  · cases v with
    | nil => exact ⟨[], hmark.symm, by rw [hx, List.append_nil, List.append_nil]⟩
    | cons c more =>
      obtain ⟨rfl, hmore⟩ := List.cons.inj hmark
      cases more with
      | nil => exact absurd (by rw [hx]; simp) hopen
      | cons d more =>
        obtain ⟨rfl, hnil⟩ := List.cons.inj hmore
        have hmore2 : more ++ y = [] := hnil.symm
        obtain ⟨rfl, -⟩ := List.append_eq_nil_iff.1 hmore2
        exact absurd (by rw [hx]; simp) hclose

theorem named_union_append_singleton {front : List TypeRef} {last other : TypeRef}
    (h : (TypeRef.union (front ++ [last])).Named) (hother : other.Named) :
    (TypeRef.union (front ++ [other])).Named := by
  refine named_union.2 fun m hm => ?_
  rcases List.mem_append.1 hm with hm | hm
  · exact named_union.1 h m (List.mem_append_left _ hm)
  · rw [List.mem_singleton.1 hm]
    exact hother

/-- **A mark can be put behind a spelling** that is not spent. -/
theorem exists_grown {type : TypeRef} (h : type.Named) (hspent : isSpent (spelling type) = false) :
    ∃ grown : TypeRef, grown.Named ∧ spelling grown = spelling type ++ ['[', ']'] := by
  induction type using TypeRef.induct with
  | name n =>
    have hn := named_name.1 h
    have hlast : lastWord (spelling (.name n)) = spelling (.name n) :=
      lastWord_of_forall_ne (forall_ne_blank_of_isWord (isWord_mapName hn))
    rw [isSpent, hlast, Bool.or_eq_false_iff, Bool.and_eq_false_iff, bne_eq_false_iff_eq] at hspent
    rcases hspent.2 with hmarked | hany
    · obtain ⟨word, depth, hword, hdepth, hname⟩ := hn
      rw [spelling_name, mapName_typeName hword hname] at hmarked ⊢
      cases depth with
      | zero =>
        have hgrown : (n ++ "[]").toList = word.toList ++ arrayMarks 1 := by
          rw [String.toList_append, hname, arrayMarks, List.append_nil]
          rfl
        refine ⟨.name (n ++ "[]"), named_name.2 ⟨word, 1, hword, Nat.le_refl 1, hgrown⟩, ?_⟩
        rw [spelling_name, mapName_typeName hword hgrown, List.append_assoc]
        rfl
      | succ depth =>
        rw [endsMarked_iff.2 ⟨_, by rw [arrayMarks, ← List.append_assoc]⟩] at hmarked
        cases hmarked
    · rw [hany]
      exact ⟨.name "Array[]", named_name.2 ⟨"Array", 1, by decide, Nat.le_refl 1, by decide⟩,
        by decide +kernel⟩
  | union members ih =>
    rcases List.eq_nil_or_concat' members with rfl | ⟨front, last, rfl⟩
    · exact absurd hspent (by decide)
    · obtain ⟨text, htext, hfront⟩ := exists_front_of_union front
      rw [isSpent, hfront, lastWord_append_of_lastWord_eq_nil htext, ← isSpent] at hspent
      obtain ⟨grown, hgrown, heq⟩ :=
        ih last (by simp) (named_union.1 h last (by simp)) hspent
      refine ⟨.union (front ++ [grown]), named_union_append_singleton h hgrown, ?_⟩
      rw [hfront, hfront, heq, List.append_assoc]

/-- **A mark can be taken from the end of a spelling.** -/
theorem exists_shrunk {type : TypeRef} (h : type.Named) {u : List Char}
    (hu : spelling type = u ++ ['[', ']']) :
    ∃ shrunk : TypeRef, shrunk.Named ∧ spelling shrunk = u := by
  induction type using TypeRef.induct generalizing u with
  | name n =>
    obtain ⟨word, depth, hword, hdepth, hn⟩ := named_name.1 h
    rw [spelling_name, mapName_typeName hword hn] at hu
    cases depth with
    | succ depth =>
      have hname : (String.ofList (word.toList ++ arrayMarks depth)).toList
          = word.toList ++ arrayMarks depth := String.toList_ofList
      refine ⟨.name (String.ofList (word.toList ++ arrayMarks depth)),
        named_name.2 ⟨word, depth, hword, Nat.le_of_succ_le hdepth, hname⟩, ?_⟩
      rw [arrayMarks, ← List.append_assoc] at hu
      rw [spelling_name, mapName_typeName hword hname, List.append_cancel_right hu]
    | zero =>
      -- Only one of the usual spellings has a mark of its own.
      rw [arrayMarks, List.append_nil] at hu
      rcases mapElement_cases hword with ⟨-, hchars⟩ | harray
      · have hclose : ']' ∈ (TypeMap.builtin.mapElement word).toList := by
          rw [hu]
          simp
        exact absurd (hchars _ hclose) (by decide)
      · have hany : u = ['a', 'n', 'y'] := List.append_cancel_right (hu.symm.trans harray)
        refine ⟨.name "any", named_name.2 ⟨"any", 0, by decide, Nat.zero_le 1, by decide⟩, ?_⟩
        rw [hany]
        decide +kernel
  | union members ih =>
    rcases List.eq_nil_or_concat' members with rfl | ⟨front, last, rfl⟩
    · exact absurd hu (by simp [spelling_union])
    · obtain ⟨text, htext, hfront⟩ := exists_front_of_union front
      rw [hfront] at hu
      obtain ⟨v, hv, rfl⟩ := exists_of_append_eq_marked
        (getLast?_ne_of_lastWord_eq_nil htext (by decide))
        (getLast?_ne_of_lastWord_eq_nil htext (by decide)) hu
      obtain ⟨shrunk, hshrunk, heq⟩ := ih last (by simp) (named_union.1 h last (by simp)) hv
      exact ⟨.union (front ++ [shrunk]), named_union_append_singleton h hshrunk,
        by rw [hfront, heq]⟩

end Ambient
