import Ambient.Proofs.Text.CamelCase

/-!
# Plain names

The names in the metadata are identifiers, for the most part: ASCII letters and digits, of which the
first is a letter.  Names of events are words of this kind with hyphens in between.  Capitalised or
camel-cased, such names begin with a capital letter; the hyphens of an event go away only if its
name is camel-cased.

## What is here

* `isPlainName`, `isHyphenated` — identifiers, and identifiers with hyphens in between.
* `isAsciiText` — a text without other characters than ASCII ones.
* `exists_of_isHyphenated`, `isPlainName_of_isHyphenated` — the characters of such names.
* `startsCapital_upperFirst_of_isHyphenated`, `isAlphanum_of_mem_camelCase` — what they become.
-/

set_option autoImplicit false

namespace Ambient
namespace Text

open Character

/-- The word has only ASCII letters and digits, and the first of them is a letter. -/
def isPlainWord : List Char → Bool
  | [] => false
  | c :: rest => c.isAlpha && rest.all Char.isAlphanum

/-- The name has only ASCII letters and digits, and the first of them is a letter. -/
def isPlainName (name : String) : Bool := isPlainWord name.toList

/-- The name is made of plain words with a hyphen between each two of them. -/
def isHyphenated (name : String) : Bool := (name.toList.splitOn '-').all isPlainWord

/-- All characters of the text are ASCII. -/
def isAsciiText (s : String) : Bool := s.toList.all fun c => decide (c.toNat < 128)

theorem isAsciiText_iff {s : String} : isAsciiText s = true ↔ ∀ c ∈ s.toList, c.toNat < 128 := by
  rw [isAsciiText, List.all_eq_true]
  simp only [decide_eq_true_eq]

section

variable {name : String}

theorem isPlainWord_iff {word : List Char} :
    isPlainWord word = true ↔
      ∃ c rest, word = c :: rest ∧ c.isAlpha = true ∧ ∀ d ∈ word, d.isAlphanum = true := by
  cases word with
  | nil => simp [isPlainWord]
  | cons c rest =>
    rw [isPlainWord, Bool.and_eq_true, List.all_eq_true]
    constructor
    · rintro ⟨hc, hrest⟩
      refine ⟨c, rest, rfl, hc, List.forall_mem_cons.2 ⟨?_, hrest⟩⟩
      exact isAlphanum_iff.2 (Or.inl hc)
    · rintro ⟨d, others, heq, hd, hall⟩
      obtain ⟨rfl, rfl⟩ := List.cons.inj heq
      exact ⟨hd, (List.forall_mem_cons.1 hall).2⟩

theorem exists_of_isPlainName (h : isPlainName name = true) :
    ∃ c rest, name.toList = c :: rest ∧ c.isAlpha = true ∧
      ∀ d ∈ name.toList, d.isAlphanum = true :=
  isPlainWord_iff.1 h

/-- Plain words with hyphens between them begin with a letter, and have only letters, digits and
hyphens. -/
theorem exists_of_intercalate {words : List (List Char)} (hne : words ≠ [])
    (h : ∀ w ∈ words, isPlainWord w = true) :
    ∃ c rest, ['-'].intercalate words = c :: rest ∧ c.isAlpha = true ∧
      ∀ d ∈ ['-'].intercalate words, d.isAlphanum = true ∨ d = '-' := by
  induction words with
  | nil => exact absurd rfl hne
  | cons w rest ih =>
    obtain ⟨c, more, hw, hc, hall⟩ := isPlainWord_iff.1 (h w List.mem_cons_self)
    cases rest with
    | nil =>
      rw [List.intercalate_singleton]
      exact ⟨c, more, hw, hc, fun d hd => Or.inl (hall d hd)⟩
    | cons w2 others =>
      obtain ⟨-, -, -, -, hothers⟩ :=
        ih (List.cons_ne_nil w2 others) fun v hv => h v (List.mem_cons_of_mem w hv)
      rw [List.intercalate_cons_cons]
      refine ⟨c, more ++ ['-'] ++ ['-'].intercalate (w2 :: others), by simp [hw], hc, ?_⟩
      intro d hd
      rw [List.mem_append, List.mem_append, List.mem_singleton] at hd
      rcases hd with (hd | hd) | hd
      · exact Or.inl (hall d hd)
      · exact Or.inr hd
      · exact hothers d hd

/-- The characters of the name of an event. -/
theorem exists_of_isHyphenated (h : isHyphenated name = true) :
    ∃ c rest, name.toList = c :: rest ∧ c.isAlpha = true ∧
      ∀ d ∈ name.toList, d.isAlphanum = true ∨ d = '-' := by
  have hwords := exists_of_intercalate (List.splitOn_ne_nil '-' name.toList)
    (List.all_eq_true.1 h)
  rwa [List.intercalate_splitOn] at hwords

/-- Without hyphens, the name of an event is a plain name. -/
theorem isPlainName_of_isHyphenated (h : isHyphenated name = true) (hhyphen : '-' ∉ name.toList) :
    isPlainName name = true := by
  rw [isHyphenated, List.splitOn_eq_singleton hhyphen, List.all_cons, List.all_nil,
    Bool.and_true] at h
  exact h

/-- A plain name is the name of an event that is one word. -/
theorem isHyphenated_of_isPlainName (h : isPlainName name = true) : isHyphenated name = true := by
  obtain ⟨-, -, -, -, hall⟩ := exists_of_isPlainName h
  have hhyphen : '-' ∉ name.toList := fun hmem => absurd (hall '-' hmem) (by decide)
  rw [isHyphenated, List.splitOn_eq_singleton hhyphen, List.all_cons, List.all_nil,
    Bool.and_true]
  exact h

/-! ## Capitalised names -/

theorem startsCapital_upperFirst_of_isHyphenated (h : isHyphenated name = true) :
    startsCapital (upperFirst name) = true := by
  obtain ⟨c, rest, hname, hc, -⟩ := exists_of_isHyphenated h
  exact startsCapital_upperFirst hname hc

theorem startsCapital_camelCase_of_isHyphenated (h : isHyphenated name = true) :
    startsCapital (upperFirst (camelCase name)) = true := by
  obtain ⟨c, rest, hname, hc, -⟩ := exists_of_isHyphenated h
  exact startsCapital_upperFirst_camelCase hname hc

theorem isAsciiText_of_isHyphenated (h : isHyphenated name = true) : isAsciiText name = true := by
  obtain ⟨-, -, -, -, hall⟩ := exists_of_isHyphenated h
  rw [isAsciiText_iff]
  intro c hc
  rcases hall c hc with halnum | rfl
  · exact ascii_of_isAlphanum halnum
  · decide

theorem isAsciiText_upperFirst (h : isAsciiText name = true) :
    isAsciiText (upperFirst name) = true := by
  rw [isAsciiText_iff] at h ⊢
  exact forall_mem_upperFirst keptByCase_ascii h

theorem isAsciiText_camelCase (h : isAsciiText name = true) :
    isAsciiText (upperFirst (camelCase name)) = true := by
  rw [isAsciiText_iff] at h ⊢
  exact forall_mem_upperFirst keptByCase_ascii
    (forall_mem_camelCase keptByCase_ascii fun c hc _ => h c hc)

/-- An ASCII name has only letters and digits when it is camel-cased. -/
theorem isAlphanum_of_mem_camelCase (h : isAsciiText name = true) {d : Char}
    (hd : d ∈ (upperFirst (camelCase name)).toList) : d.isAlphanum = true :=
  isTame_of_mem_camelCase hd (isAsciiText_iff.1 (isAsciiText_camelCase h) d hd)

/-- A plain name has only letters and digits when it is capitalised. -/
theorem isAlphanum_of_mem_upperFirst (h : isPlainName name = true) {d : Char}
    (hd : d ∈ (upperFirst name).toList) : d.isAlphanum = true := by
  obtain ⟨-, -, -, -, hall⟩ := exists_of_isPlainName h
  have hascii : isAsciiText name = true :=
    isAsciiText_iff.2 fun c hc => ascii_of_isAlphanum (hall c hc)
  have htame : ∀ c ∈ (upperFirst name).toList, IsTame c :=
    forall_mem_upperFirst keptByCase_isTame fun c hc _ => hall c hc
  exact htame d hd (isAsciiText_iff.1 (isAsciiText_upperFirst hascii) d hd)

/-- A hyphen is still there when the name of an event is capitalised. -/
theorem hyphen_mem_upperFirst (h : isHyphenated name = true) (hhyphen : '-' ∈ name.toList) :
    '-' ∈ (upperFirst name).toList := by
  obtain ⟨c, rest, hname, hc, -⟩ := exists_of_isHyphenated h
  rw [hname, List.mem_cons] at hhyphen
  rw [toList_upperFirst hname]
  refine List.mem_append_right _ (hhyphen.resolve_left fun heq => ?_)
  rw [← heq] at hc
  exact absurd hc (by decide)

end

end Text
end Ambient
