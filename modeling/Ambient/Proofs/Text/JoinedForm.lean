import Ambient.Proofs.Text.Boundaries

/-!
# The words of a name and their joined form

The joined form of a name has the letters and digits of the name, in another case.  If the name is
ASCII it has one character for each of them, so that its words can be told apart in it: the first in
small letters, and each other one with its first character in capitals.

## What is here

* `raised` — a word with its first character in capitals.
* `toList_camelCase_of_ascii`, `map_toLower_camelCase_of_ascii` — the joined form of an ASCII text.
* `words_of_name` — the words of a name, and what they are joined to.
-/

set_option autoImplicit false

namespace Ambient
namespace Text

open Character

/-! ## One word -/

theorem lowercaseFrom_of_ascii {s : List Char} (h : ∀ c ∈ s, c.toNat < 128)
    (before : List Char) : lowercaseFrom before s = s.map Char.toLower := by
  induction s generalizing before with
  | nil => rfl
  | cons c rest ih =>
    rw [List.forall_mem_cons] at h
    have hsigma : c ≠ 'Σ' := by
      rintro rfl
      exact absurd h.1 (by decide)
    rw [lowercaseFrom, if_neg hsigma, lower_of_ascii h.1, ih h.2]
    rfl

theorem toList_lowercase_of_ascii {s : String} (h : ∀ c ∈ s.toList, c.toNat < 128) :
    (lowercase s).toList = s.toList.map Char.toLower := by
  rw [lowercase, String.toList_ofList, lowercaseFrom_of_ascii h]

/-- The word in small letters but for its first character, which is in capitals. -/
def raised : List Char → List Char
  | [] => []
  | c :: rest => c.toUpper :: rest.map Char.toLower

theorem toList_upperFirst_lowercase_of_ascii {s : String} (h : ∀ c ∈ s.toList, c.toNat < 128) :
    (upperFirst (lowercase s)).toList = raised s.toList := by
  have hlower := toList_lowercase_of_ascii h
  cases hs : s.toList with
  | nil =>
    rw [hs] at hlower
    rw [String.toList_eq_nil_iff.1 hlower]
    rfl
  | cons c rest =>
    rw [hs, List.forall_mem_cons] at h
    rw [hs, List.map_cons] at hlower
    rw [toList_upperFirst hlower, upper_of_ascii (ascii_toLower h.1).1,
      toUpper_toLower_of_ascii h.1]
    rfl

theorem map_toLower_map_toLower {s : List Char} (h : ∀ c ∈ s, c.toNat < 128) :
    (s.map Char.toLower).map Char.toLower = s.map Char.toLower := by
  rw [List.map_map]
  exact List.map_congr_left fun c hc => toLower_toLower_of_ascii (h c hc)

theorem map_toLower_raised {s : List Char} (h : ∀ c ∈ s, c.toNat < 128) :
    (raised s).map Char.toLower = s.map Char.toLower := by
  cases s with
  | nil => rfl
  | cons c rest =>
    rw [List.forall_mem_cons] at h
    rw [raised, List.map_cons, toLower_toUpper_of_ascii h.1, map_toLower_map_toLower h.2,
      List.map_cons]

/-! ## The words together -/

theorem map_toList_splitWords (s : String) :
    (splitWords s).map String.toList = splitWordsFrom [] s.toList := by
  rw [splitWords, List.map_map]
  simp

section

variable {s : String} (h : ∀ c ∈ s.toList, c.toNat < 128)

include h

theorem ascii_of_mem_splitWords {w : String} (hw : w ∈ splitWords s) :
    ∀ c ∈ w.toList, c.toNat < 128 :=
  forall_mem_splitWordsFrom (List.forall_mem_nil _) (fun c hc _ => h c hc) w.toList
    (map_toList_splitWords s ▸ List.mem_map_of_mem hw)

/-- The first word is in small letters, and each other one is raised. -/
theorem toList_camelCase_of_ascii {first : String} {others : List String}
    (hsplit : splitWords s = first :: others) : (camelCase s).toList
      = first.toList.map Char.toLower ++ others.flatMap fun word => raised word.toList := by
  have hascii := fun w (hw : w ∈ first :: others) => ascii_of_mem_splitWords h (hsplit ▸ hw)
  rw [List.forall_mem_cons] at hascii
  rw [camelCase, hsplit]
  dsimp only
  rw [String.toList_join, List.flatMap_cons, toList_lowercase_of_ascii hascii.1, List.flatMap_map,
    List.append_cancel_left_eq]
  exact List.flatMap_congr fun w hw => toList_upperFirst_lowercase_of_ascii (hascii.2 w hw)

/-- The joined form has the letters and digits of the text. -/
theorem map_toLower_camelCase_of_ascii : (camelCase s).toList.map Char.toLower
    = (s.toList.filter isAlphanumeric).map Char.toLower := by
  rw [← (areWordsOf_splitWordsFrom s.toList).flatten_eq, ← map_toList_splitWords]
  cases hsplit : splitWords s with
  | nil =>
    rw [camelCase, hsplit]
    rfl
  | cons first others =>
    have hascii := fun w (hw : w ∈ first :: others) => ascii_of_mem_splitWords h (hsplit ▸ hw)
    rw [List.forall_mem_cons] at hascii
    rw [toList_camelCase_of_ascii h hsplit, List.map_append, map_toLower_map_toLower hascii.1,
      List.map_cons, List.flatten_cons, List.map_append, List.append_cancel_left_eq,
      List.map_flatMap, List.map_flatten, List.map_map, ← List.flatMap_def]
    exact List.flatMap_congr fun w hw => map_toLower_raised (hascii.2 w hw)

end

/-- **The words of a name** are found in one pass that looks at no position in front of the first.
They are its letters and digits in their order, cut at its boundaries and nowhere else.  If the name
is ASCII its joined form has the same letters and digits but for their case: the first word in small
letters, and each other one with its first character in capitals. -/
theorem words_of_name (s : String) :
    wordsByPosition? s.toList = some ((splitWords s).map String.toList) ∧
    (∀ words, AreWordsOf s.toList words ↔ words = (splitWords s).map String.toList) ∧
    ((∀ c ∈ s.toList, c.toNat < 128) →
      (camelCase s).toList.map Char.toLower = (s.toList.filter isAlphanumeric).map Char.toLower ∧
      ∀ first others, splitWords s = first :: others → (camelCase s).toList
        = first.toList.map Char.toLower ++ others.flatMap fun word => raised word.toList) := by
  have hwords := areWordsOf_splitWordsFrom s.toList
  rw [map_toList_splitWords]
  refine ⟨wordsByPosition?_eq s.toList, fun words => ⟨fun h => h.unique hwords, ?_⟩, fun h => ?_⟩
  · rintro rfl
    exact hwords
  · exact ⟨map_toLower_camelCase_of_ascii h, fun _ _ => toList_camelCase_of_ascii h⟩

/-- A name with a separator, a digit in front of a capital, and capitals in front of another. -/
def download : String := "did-load2URLRequest"

theorem words_of_name_download :
    (∀ c ∈ download.toList, c.toNat < 128) ∧
    splitWords download = ["did", "load2", "URL", "Request"] ∧
    wordsByPosition? download.toList
      = some ["did".toList, "load2".toList, "URL".toList, "Request".toList] ∧
    AreWordsOf download.toList ["did".toList, "load2".toList, "URL".toList, "Request".toList] ∧
    (camelCase download).toList.map Char.toLower = "didload2urlrequest".toList ∧
    camelCase download = "didLoad2UrlRequest" := by
  have hascii : ∀ c ∈ download.toList, c.toNat < 128 := by simp [download]
  have hsplit : splitWords download = ["did", "load2", "URL", "Request"] := by decide +kernel
  obtain ⟨hpass, hwords, hjoined⟩ := words_of_name download
  obtain ⟨hletters, hhumps⟩ := hjoined hascii
  rw [hsplit] at hpass hwords
  refine ⟨hascii, hsplit, hpass, (hwords _).2 rfl, ?_, String.toList_inj.1 ?_⟩
  · rw [hletters]
    decide +kernel
  · rw [hhumps _ _ hsplit]
    decide +kernel

end Text
end Ambient
