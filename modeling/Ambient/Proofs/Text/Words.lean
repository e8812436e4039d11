import Mathlib.Data.List.DropRight
import Mathlib.Data.List.TakeWhile
import Ambient.Proofs.Text.LineFeeds

/-!
# The words of a text

Everything about words follows from one equation: a text is cut at a blank, wherever that blank
stands.  Margins, line ends and the blanks between the lines of a longer text are blanks too, so
none of them changes the words.

## What is here

* `words_append_blank` — the words on either side of a blank.
* `words_blanks_append`, `words_append_blanks`, `words_trim` — blanks at the margins;
  `trim_cons_blank`, `trim_concat_blank` — they do not count when they are cut off;
  `trim_induction` — they are cut off one by one.
* `words_intercalate`, `flatMap_words_lines` — the words of joined texts, and of the lines of a
  text.
* `isPrefix_append_cons_iff` — nothing stands across a character that has no part in it.
-/

set_option autoImplicit false

namespace Ambient
namespace Text

open Character

variable {s t u : List Char} {c : Char}

/-! ## Cutting at blanks -/

theorem words_nil : words [] = [] := by
  rw [words, List.splitOnP_nil]
  rfl

/-- **The words on either side of a blank** are all there are. -/
theorem words_append_blank (hc : isBlank c = true) (s t : List Char) :
    words (s ++ c :: t) = words s ++ words t := by
  rw [words, List.splitOnP_append_cons s t hc, List.filter_append]
  rfl

theorem words_cons_blank (hc : isBlank c = true) (t : List Char) : words (c :: t) = words t := by
  simpa [words_nil] using words_append_blank hc [] t

/-- A text without blanks is one word. -/
theorem words_of_forall (hne : s ≠ []) (h : ∀ c ∈ s, isBlank c = false) : words s = [s] := by
  rw [words, List.splitOnP_eq_singleton h]
  simp [hne]

theorem isBlank_of_mem_words {w : List Char} (h : w ∈ words s) : ∀ c ∈ w, isBlank c = false :=
  not_of_mem_splitOnP (List.mem_filter.1 h).1

/-! ## Margins -/

theorem words_blanks_append (hu : ∀ c ∈ u, isBlank c = true) (s : List Char) :
    words (u ++ s) = words s := by
  induction u with
  | nil => rfl
  | cons c rest ih =>
    rw [List.forall_mem_cons] at hu
    rw [List.cons_append, words_cons_blank hu.1, ih hu.2]

theorem words_eq_nil (hu : ∀ c ∈ u, isBlank c = true) : words u = [] := by
  simpa [words_nil] using words_blanks_append hu []

theorem words_append_blanks (hu : ∀ c ∈ u, isBlank c = true) (s : List Char) :
    words (s ++ u) = words s := by
  cases u with
  | nil => rw [List.append_nil]
  | cons c rest =>
    rw [List.forall_mem_cons] at hu
    rw [words_append_blank hu.1, words_eq_nil hu.2, List.append_nil]

/-- What is left of a text without the blanks in front. -/
theorem exists_trimStart (s : List Char) :
    ∃ u, s = u ++ trimStart s ∧ ∀ c ∈ u, isBlank c = true :=
  ⟨s.takeWhile isBlank, List.takeWhile_append_dropWhile.symm,
    fun _ hc => List.mem_takeWhile_imp hc⟩

/-- What is left of a text without the blanks at the end. -/
theorem exists_trimEnd (s : List Char) :
    ∃ u, s = trimEnd s ++ u ∧ ∀ c ∈ u, isBlank c = true := by
  obtain ⟨u, hs, hu⟩ := exists_trimStart s.reverse
  refine ⟨u.reverse, ?_, fun c hc => hu c (List.mem_reverse.1 hc)⟩
  rw [trimEnd, ← List.reverse_append, ← trimStart, ← hs, List.reverse_reverse]

/-- **What is kept when a blank is cut off at either end** is kept when all blanks around a text
are. -/
theorem trim_induction {P : List Char → Prop} (hstart : ∀ c t, isBlank c = true → P (c :: t) → P t)
    (hend : ∀ c t, isBlank c = true → P (t ++ [c]) → P t) (h : P s) : P (trim s) := by
  have hfront (u t : List Char) (hu : ∀ c ∈ u, isBlank c = true) (h : P (u ++ t)) : P t := by
    induction u with
    | nil => exact h
    | cons c rest ih =>
      rw [List.forall_mem_cons] at hu
      exact ih hu.2 (hstart c _ hu.1 h)
  have hback (u t : List Char) (hu : ∀ c ∈ u, isBlank c = true) (h : P (t ++ u)) : P t := by
    induction u generalizing t with
    | nil => rwa [List.append_nil] at h
    | cons c rest ih =>
      rw [List.forall_mem_cons] at hu
      rw [List.append_cons] at h
      exact hend c t hu.1 (ih _ hu.2 h)
  obtain ⟨u, hs, hu⟩ := exists_trimStart s
  obtain ⟨v, htrim, hv⟩ := exists_trimEnd (trimStart s)
  rw [hs] at h
  have hmiddle := hfront u _ hu h
  rw [htrim] at hmiddle
  exact hback v _ hv hmiddle

theorem trimStart_blanks_append (h : ∀ c ∈ u, isBlank c = true) (s : List Char) :
    trimStart (u ++ s) = trimStart s :=
  List.dropWhile_append_of_pos h

theorem trim_cons_blank (h : isBlank c = true) (s : List Char) : trim (c :: s) = trim s := by
  rw [trim, trimStart, List.dropWhile_cons_of_pos h]
  rfl

theorem trim_concat_blank (h : isBlank c = true) (s : List Char) : trim (s ++ [c]) = trim s := by
  have hend (s : List Char) : trimEnd (s ++ [c]) = trimEnd s := by
    rw [trimEnd, trimEnd, List.reverse_append, List.reverse_singleton, List.singleton_append,
      List.dropWhile_cons_of_pos h]
  rw [trim, trim, trimStart, List.dropWhile_append]
  split
  · rename_i hall
    rw [List.dropWhile_cons_of_pos h, trimStart, List.isEmpty_iff.1 hall]
    rfl
  · exact hend _

/-- What has no blanks in front keeps none if it is cut off at the end. -/
theorem trimStart_of_trimStart_append (t : List Char) (h : trimStart (s ++ t) = s ++ t) :
    trimStart s = s := by
  cases s with
  | nil => rfl
  | cons c rest =>
    have hc : ¬ isBlank c = true := fun hc => by
      rw [List.cons_append, trimStart, List.dropWhile_cons_of_pos hc] at h
      have hlength := (List.dropWhile_sublist isBlank (l := rest ++ t)).length_le
      rw [h, List.length_cons] at hlength
      omega
    exact List.dropWhile_cons_of_neg hc

/-- What is left without the blanks around it has none. -/
theorem trim_trim (s : List Char) : trim (trim s) = trim s := by
  obtain ⟨v, htrim, -⟩ := exists_trimEnd (trimStart s)
  have hstart : trimStart (trimStart s) = trimStart s :=
    List.dropWhile_idempotent isBlank s
  rw [htrim] at hstart
  have hfront : trimStart (trim s) = trim s := trimStart_of_trimStart_append v hstart
  rw [trim, hfront, trim, trimEnd, trimEnd, List.reverse_reverse, List.dropWhile_idempotent]

theorem words_trimStart (s : List Char) : words (trimStart s) = words s := by
  obtain ⟨u, hs, hu⟩ := exists_trimStart s
  rw [hs, words_blanks_append hu, ← hs]

theorem words_trimEnd (s : List Char) : words (trimEnd s) = words s := by
  obtain ⟨u, hs, hu⟩ := exists_trimEnd s
  rw [hs, words_append_blanks hu, ← hs]

theorem words_trim (s : List Char) : words (trim s) = words s := by
  rw [trim, words_trimEnd, words_trimStart]

/-! ## Several texts -/

/-- Texts that are joined by blanks keep their words. -/
theorem words_intercalate {sep : List Char} (hne : sep ≠ []) (hsep : ∀ c ∈ sep, isBlank c = true)
    (parts : List (List Char)) : words (sep.intercalate parts) = parts.flatMap words := by
  obtain ⟨c, more, rfl⟩ := List.exists_cons_of_ne_nil hne
  rw [List.forall_mem_cons] at hsep
  induction parts with
  | nil => exact words_nil
  | cons s rest ih =>
    cases rest with
    | nil => simp
    | cons t others =>
      rw [List.intercalate_cons_cons, List.append_assoc, List.cons_append,
        words_append_blank hsep.1, words_blanks_append hsep.2, ih]
      rfl

theorem words_dropReturn (s : List Char) : words (dropReturn s) = words s := by
  rw [dropReturn]
  split
  · rename_i h
    obtain ⟨front, rfl⟩ := List.getLast?_eq_some_iff.1 h
    rw [List.dropLast_concat, words_append_blank (by decide), words_nil, List.append_nil]
  · rfl

/-- **The lines of a text have the words of the text**, in the same order. -/
theorem flatMap_words_lines (s : List Char) : (lines s).flatMap words = words s := by
  have hparts : words s = (s.splitOn '\n').flatMap words := by
    have hblank : ∀ c ∈ ['\n'], isBlank c = true := List.forall_mem_singleton.2 (by decide)
    have hjoined := words_intercalate (List.cons_ne_nil _ _) hblank (s.splitOn '\n')
    rwa [List.intercalate_splitOn] at hjoined
  have hlast (last : Option (List Char)) :
      (last.toList.filter (!·.isEmpty)).flatMap words = last.toList.flatMap words := by
    rcases last with _ | _ | ⟨c, l⟩
    · rfl
    · exact words_nil.symm.trans (by simp)
    · rfl
  obtain ⟨first, others, hsplit⟩ := exists_splitOn s
  have hne : s.splitOn '\n' ≠ [] := hsplit ▸ List.cons_ne_nil first others
  rw [lines, List.flatMap_append, hlast, List.flatMap_map, hparts]
  simp only [words_dropReturn]
  rw [← List.flatMap_append, List.getLast?_eq_some_getLast hne, Option.toList_some,
    List.dropLast_append_getLast hne]

/-! ## Texts that stand in others -/

/-- Nothing stands across a character that has no part in it. -/
theorem isPrefix_append_cons_iff {part : List Char} (hc : c ∉ part) :
    part <+: s ++ c :: t ↔ part <+: s := by
  refine ⟨fun h => ?_, fun h => h.trans (List.prefix_append _ _)⟩
  by_cases hlength : part.length ≤ s.length
  · exact List.prefix_of_prefix_length_le h (List.prefix_append _ _) hlength
  · have hlonger : s ++ [c] <+: part := by
      refine List.prefix_of_prefix_length_le ⟨t, by simp⟩ h ?_
      rw [List.length_append, List.length_singleton]
      omega
    exact absurd (hlonger.subset (by simp)) hc

end Text
end Ambient
