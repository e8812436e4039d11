import Mathlib.Data.List.Chain
import Ambient.Proofs.Shape.Reading
import Ambient.Proofs.Text.Words

/-!
# Descriptions in comments

A description is filled into the lines of a comment: line by line of the description, as many of its
words on a line of the comment as there is room for.  Nothing of a description is lost in this but
its margins, its blanks, and the marker of what may be left out.

## What is here

* `IsFilling width ws groups` — words are cut into groups, each of which is a line.  A group is as
  long as there is room for it, and there is no room only for a group that is one long word.
* `exists_filling` — `fillFrom` cuts so.
* `Unmarked`, `IsSubject` — what is left of a description without marker and margins.
* `IsRun text run` — lines of a comment say one line of a description.
* `runs_of_description` — the comment for a description is made of such runs.
-/

set_option autoImplicit false

namespace Ambient

open Character Text

/-! ## Filling lines -/

/-- Words on one line. -/
def unwords (ws : List String) : String := String.intercalate " " ws

theorem unwords_singleton (w : String) : unwords [w] = w := String.intercalate_singleton

theorem unwords_concat {ws : List String} (h : ws ≠ []) (w : String) :
    unwords (ws ++ [w]) = unwords ws ++ " " ++ w := by
  induction ws with
  | nil => exact absurd rfl h
  | cons v rest ih =>
    cases rest with
    | nil => rw [unwords_singleton]; exact String.intercalate_cons_cons
    | cons x more =>
      rw [List.cons_append, List.cons_append, unwords, String.intercalate_cons_cons,
        ← List.cons_append, ← unwords, ih (List.cons_ne_nil x more), unwords, unwords,
        String.intercalate_cons_cons]
      simp only [String.append_assoc]

theorem unwords_ne_empty {ws : List String} (h : ws ≠ []) (hws : ∀ w ∈ ws, w ≠ "") :
    unwords ws ≠ "" := by
  obtain ⟨w, rest, rfl⟩ := List.exists_cons_of_ne_nil h
  intro hempty
  refine hws w List.mem_cons_self ?_
  cases rest with
  | nil => rwa [unwords_singleton] at hempty
  | cons v more =>
    rw [unwords, String.intercalate_cons_cons, String.append_assoc] at hempty
    exact (String.append_eq_empty_iff.1 hempty).1

/-- The words stand in groups, each of which is put on a line. -/
structure IsFilling (width : Nat) (ws : List String) (groups : List (List String)) : Prop where
  flatten_eq : groups.flatten = ws
  ne_nil : ∀ g ∈ groups, g ≠ []
  /-- What is too wide is a single word. -/
  alone : ∀ g ∈ groups, width < (unwords g).utf8ByteSize → g.length = 1
  /-- There is no room on a line for the word with which the next one starts. -/
  greedy : groups.IsChain fun g h =>
    ∀ w ∈ h.head?, width < (unwords g).utf8ByteSize + 1 + w.utf8ByteSize

/-- **Lines are filled**: the group under way is continued by what there is room for. -/
theorem exists_filling (width : Nat) {done ws : List String} (hne : done ≠ [])
    (hwords : ∀ w ∈ done ++ ws, w ≠ "")
    (halone : width < (unwords done).utf8ByteSize → done.length = 1) :
    ∃ more rest, fillFrom width (unwords done) ws = ((done ++ more) :: rest).map unwords ∧
      IsFilling width (done ++ ws) ((done ++ more) :: rest) := by
  induction ws generalizing done with
  | nil =>
    refine ⟨[], [], by rw [fillFrom, List.append_nil]; rfl, ⟨by simp, ?_, ?_, .singleton _⟩⟩
    · simpa using hne
    · simpa using halone
  | cons w others ih =>
    have hdone : (unwords done).isEmpty = false := Bool.eq_false_iff.2 fun h =>
      unwords_ne_empty hne (fun v hv => hwords v (List.mem_append_left _ hv))
        (String.isEmpty_iff.1 h)
    rw [fillFrom, hdone, if_neg Bool.false_ne_true]
    by_cases hfits : (unwords done).utf8ByteSize + 1 + w.utf8ByteSize ≤ width
    · -- There is room for the word, so it goes on with a group that is not too wide.
      have hsize : (unwords (done ++ [w])).utf8ByteSize ≤ width := by
        rw [unwords_concat hne, String.utf8ByteSize_append, String.utf8ByteSize_append]
        exact hfits
      have hlonger : done ++ [w] ≠ [] := by simp
      obtain ⟨more, rest, hfill, hgroups⟩ := ih hlonger (by simpa using hwords)
        (fun h => absurd h (Nat.not_lt.2 hsize))
      rw [List.append_assoc, List.singleton_append] at hfill hgroups
      rw [List.append_assoc, List.singleton_append] at hgroups
      rw [if_pos hfits, ← unwords_concat hne]
      exact ⟨w :: more, rest, hfill, hgroups⟩
    · -- The word starts the next line.
      obtain ⟨more, rest, hfill, hgroups⟩ := ih (List.cons_ne_nil w [])
        (fun v hv => hwords v (List.mem_append_right _ hv)) (fun _ => rfl)
      rw [unwords_singleton] at hfill
      rw [if_neg hfits]
      refine ⟨[], ([w] ++ more) :: rest, ?_, ⟨?_, ?_, ?_, ?_⟩⟩
      · rw [List.append_nil, hfill]
        rfl
      · rw [List.append_nil, List.flatten_cons, hgroups.flatten_eq, List.singleton_append]
      · rw [List.append_nil]
        exact List.forall_mem_cons.2 ⟨hne, hgroups.ne_nil⟩
      · rw [List.append_nil]
        exact List.forall_mem_cons.2 ⟨halone, hgroups.alone⟩
      · rw [List.append_nil, List.isChain_cons]
        refine ⟨fun h hh v hv => ?_, hgroups.greedy⟩
        cases hh
        cases hv
        exact Nat.not_le.1 hfits

/-! ## What a description says -/

namespace DocComment

/-- What is left of a text without the marker, if it starts with one in letters of any case, and
without a dash behind it. -/
inductive Unmarked : List Char → List Char → Prop
  | dashed {front rest subject : List Char}
      (marked : front.map Char.toLower = "(optional)".toList)
      (dash : trimStart rest = '-' :: ' ' :: subject) : Unmarked (front ++ rest) subject
  | marked {front rest : List Char} (marked : front.map Char.toLower = "(optional)".toList)
      (undashed : ¬ ['-', ' '] <+: trimStart rest) : Unmarked (front ++ rest) (trimStart rest)
  | unmarked {s : List Char}
      (unmarked : ∀ front rest, s = front ++ rest →
        front.map Char.toLower ≠ "(optional)".toList) : Unmarked s s

theorem unmarked_withoutMarker (s : List Char) : Unmarked s (withoutMarker s) := by
  rw [withoutMarker]
  split
  · rename_i hmarked
    have hs := List.take_append_drop marker.length s
    split
    · rename_i rest hdash
      have h := Unmarked.dashed hmarked hdash
      rwa [hs] at h
    · rename_i hundashed
      have hdashless : ¬ ['-', ' '] <+: trimStart (s.drop marker.length) := by
        rintro ⟨rest, hrest⟩
        exact hundashed rest hrest.symm
      have h := Unmarked.marked hmarked hdashless
      rwa [hs] at h
  · rename_i hunmarked
    refine .unmarked fun front rest hs hfront => hunmarked ?_
    have hlength : front.length = marker.length := by
      have hmapped := congrArg List.length hfront
      rw [List.length_map] at hmapped
      exact hmapped
    rw [hs, ← hlength, List.take_left]
    exact hfront

/-- Only one text is left. -/
theorem Unmarked.eq {s t u : List Char} (ht : Unmarked s t) (hu : Unmarked s u) : t = u := by
  have hfront {front rest front2 rest2 : List Char}
      (h : front.map Char.toLower = "(optional)".toList)
      (h2 : front2.map Char.toLower = "(optional)".toList)
      (heq : front2 ++ rest2 = front ++ rest) : rest2 = rest := by
    refine (List.append_inj heq ?_).2
    have hmapped := congrArg List.length (h2.trans h.symm)
    rwa [List.length_map, List.length_map] at hmapped
  generalize hs : s = s2 at hu
  cases ht with
  | dashed hmark hdash =>
    cases hu with
    | dashed hmark2 hdash2 =>
      rw [← hfront hmark hmark2 hs.symm, hdash2] at hdash
      cases hdash
      rfl
    | marked hmark2 hundashed =>
      rw [hfront hmark hmark2 hs.symm, hdash] at hundashed
      exact absurd ⟨_, rfl⟩ hundashed
    | unmarked hun => exact absurd hmark (hun _ _ hs.symm)
  | marked hmark hundashed =>
    cases hu with
    | dashed hmark2 hdash2 =>
      rw [← hfront hmark hmark2 hs.symm, hdash2] at hundashed
      exact absurd ⟨_, rfl⟩ hundashed
    | marked hmark2 _ => rw [hfront hmark hmark2 hs.symm]
    | unmarked hun => exact absurd hmark (hun _ _ hs.symm)
  | unmarked hun =>
    cases hu with
    | dashed hmark2 _ => exact absurd hmark2 (hun _ _ hs)
    | marked hmark2 _ => exact absurd hmark2 (hun _ _ hs)
    | unmarked _ => exact hs

/-- What a description says. -/
def IsSubject (description : String) (subject : List Char) : Prop :=
  ∃ s, Unmarked (trim description.toList) s ∧ subject = trim s

theorem isSubject_iff {description : String} {subject : List Char} :
    IsSubject description subject ↔ subject = body description := by
  refine ⟨fun ⟨s, hs, hsubject⟩ => ?_, fun h => ⟨_, unmarked_withoutMarker _, h⟩⟩
  rw [hsubject, hs.eq (unmarked_withoutMarker _), body]

/-! ## The lines of a comment -/

/-- The words of a line of a comment, behind its star. -/
def lineWords (l : String) : List (List Char) := words (l.toList.drop 2)

/-- The bytes in a line of a comment, behind its star and a blank. -/
def lineBytes (l : String) : Nat := l.utf8ByteSize - " * ".utf8ByteSize

/-- Lines of a comment that say a line of a description. -/
structure IsRun (text : List Char) (run : List String) : Prop where
  ne_nil : run ≠ []
  starred : ∀ l ∈ run, l = " *" ∨ [' ', '*', ' '] <+: l.toList
  /-- Nothing is lost, added or moved. -/
  words_eq : run.flatMap lineWords = words text
  /-- The only blanks are spaces, so no line is broken. -/
  blank_eq : ∀ l ∈ run, ∀ c ∈ l.toList, isBlank c = true → c = ' '
  /-- No blanks stand at the end. -/
  last : ∀ l ∈ run, ∀ c ∈ l.toList.getLast?, isBlank c = false
  alone : ∀ l ∈ run, width < lineBytes l → ∃ w, lineWords l = [w]
  greedy : run.IsChain fun a b => ∃ w ws, lineWords b = w :: ws ∧
    width < lineBytes a + 1 + (String.ofList w).utf8ByteSize

/-- The text is made of words that can be told apart again. -/
def AreWords (ws : List String) : Prop := ∀ w ∈ ws, w ≠ "" ∧ ∀ c ∈ w.toList, isBlank c = false

theorem areWords_words (s : List Char) : AreWords ((words s).map String.ofList) := by
  refine List.forall_mem_map.2 fun w hw => ⟨fun hempty => ne_nil_of_mem_words hw ?_, ?_⟩
  · rw [← String.toList_ofList (l := w), hempty]
    rfl
  · rw [String.toList_ofList]
    exact isBlank_of_mem_words hw

section

variable {ws : List String} (hne : ws ≠ []) (hws : AreWords ws)

include hne hws

theorem line_unwords : line (unwords ws) = " * " ++ unwords ws := by
  rw [line, if_neg]
  exact fun h => unwords_ne_empty hne (fun w hw => (hws w hw).1) (String.isEmpty_iff.1 h)

theorem lineBytes_unwords : lineBytes (line (unwords ws)) = (unwords ws).utf8ByteSize := by
  rw [lineBytes, line_unwords hne hws, String.utf8ByteSize_append, Nat.add_sub_cancel_left]

theorem toList_line_unwords :
    (line (unwords ws)).toList = ' ' :: '*' :: ' ' :: [' '].intercalate (ws.map String.toList) := by
  rw [line_unwords hne hws, String.toList_append, unwords, String.toList_intercalate]
  rfl

theorem lineWords_unwords : lineWords (line (unwords ws)) = ws.map String.toList := by
  have hone : ∀ w ∈ ws, words w.toList = [w.toList] := fun w hw =>
    words_of_forall (fun h => (hws w hw).1 (String.toList_inj.1 h)) (hws w hw).2
  rw [lineWords, toList_line_unwords hne hws]
  show words (' ' :: _) = _
  rw [words_cons_blank isBlank_space, words_intercalate (by simp)
    (List.forall_mem_singleton.2 isBlank_space), List.flatMap_map, List.map_eq_flatMap]
  exact List.flatMap_congr hone

/-- The blanks of a line are those between its words. -/
theorem blank_eq_of_mem_line_unwords {c : Char} (hc : c ∈ (line (unwords ws)).toList)
    (hblank : isBlank c = true) : c = ' ' := by
  rw [toList_line_unwords hne hws, List.mem_cons, List.mem_cons, List.mem_cons] at hc
  rcases hc with rfl | rfl | rfl | hc
  · rfl
  · exact absurd hblank (by decide)
  · rfl
  · rcases Reading.mem_of_mem_intercalate hc with hc | ⟨s, hs, hc⟩
    · simpa using hc
    · obtain ⟨w, hw, rfl⟩ := List.mem_map.1 hs
      exact absurd ((hws w hw).2 c hc) (by simp [hblank])

/-- A line ends with its last word. -/
theorem last_line_unwords {c : Char} (hc : c ∈ (line (unwords ws)).toList.getLast?) :
    isBlank c = false := by
  obtain ⟨front, w, rfl⟩ := (List.eq_nil_or_concat' ws).resolve_left hne
  have hw := hws w (by simp)
  obtain ⟨start, d, hd⟩ := (List.eq_nil_or_concat' w.toList).resolve_left
    fun h => hw.1 (String.toList_inj.1 h)
  rw [toList_line_unwords hne hws, List.map_append, List.map_singleton, Reading.intercalate_concat,
    hd, ← List.append_assoc, ← List.cons_append, ← List.cons_append, ← List.cons_append,
    List.getLast?_concat] at hc
  cases hc
  exact hw.2 c (by simp [hd])

end

/-! ## The runs of a comment -/

/-- A line without words is one line of a comment, behind whose star nothing stands. -/
theorem isRun_of_words_eq_nil {text : List Char} (h : words text = []) :
    IsRun text [line ""] := by
  have hline : (line "").toList = [' ', '*'] := by decide
  refine ⟨by simp, ?_, ?_, ?_, ?_, ?_, .singleton _⟩
  · exact List.forall_mem_singleton.2 (by decide)
  · rw [h]
    decide
  · rw [List.forall_mem_singleton, hline, List.forall_mem_cons, List.forall_mem_singleton]
    decide
  · rw [List.forall_mem_singleton, hline]
    rintro c hc
    cases hc
    decide
  · exact List.forall_mem_singleton.2 fun hwide => absurd hwide (by decide)

/-- Groups of words, each on a line, are a run. -/
theorem isRun_of_isFilling {text : List Char} {groups : List (List String)} (hne : groups ≠ [])
    (h : IsFilling width ((words text).map String.ofList) groups) :
    IsRun text (groups.map fun g => line (unwords g)) := by
  have hgroup : ∀ g ∈ groups, g ≠ [] ∧ AreWords g := fun g hg =>
    ⟨h.ne_nil g hg, fun w hw => areWords_words text w
      (h.flatten_eq ▸ List.mem_flatten.2 ⟨g, hg, hw⟩)⟩
  refine ⟨by simpa using hne, ?_, ?_, ?_, ?_, ?_, ?_⟩
  · refine List.forall_mem_map.2 fun g hg => ?_
    rw [toList_line_unwords (hgroup g hg).1 (hgroup g hg).2]
    exact Or.inr ⟨_, rfl⟩
  · have hlines : (groups.map fun g => line (unwords g)).flatMap lineWords
        = groups.flatMap fun g => g.map String.toList := by
      rw [List.flatMap_map]
      exact List.flatMap_congr fun g hg => lineWords_unwords (hgroup g hg).1 (hgroup g hg).2
    rw [hlines, List.flatMap_def, ← List.map_flatten, h.flatten_eq, List.map_map]
    simp
  · exact List.forall_mem_map.2 fun g hg c hc =>
      blank_eq_of_mem_line_unwords (hgroup g hg).1 (hgroup g hg).2 hc
  · exact List.forall_mem_map.2 fun g hg c hc =>
      last_line_unwords (hgroup g hg).1 (hgroup g hg).2 hc
  · refine List.forall_mem_map.2 fun g hg hwide => ?_
    rw [lineBytes_unwords (hgroup g hg).1 (hgroup g hg).2] at hwide
    obtain ⟨w, rfl⟩ := List.length_eq_one_iff.1 (h.alone g hg hwide)
    exact ⟨w.toList, lineWords_unwords (hgroup _ hg).1 (hgroup _ hg).2⟩
  · rw [List.isChain_map]
    refine h.greedy.imp_of_mem_imp fun a b ha hb hroom => ?_
    obtain ⟨w, ws, rfl⟩ := List.exists_cons_of_ne_nil (hgroup b hb).1
    refine ⟨w.toList, ws.map String.toList, lineWords_unwords (hgroup _ hb).1 (hgroup _ hb).2, ?_⟩
    rw [lineBytes_unwords (hgroup a ha).1 (hgroup a ha).2, String.ofList_toList]
    exact hroom w rfl

/-- **A line of a description is a run of lines of a comment.** -/
theorem isRun_paragraph (text : List Char) : IsRun text (paragraph text) := by
  cases hwords : (words text).map String.ofList with
  | nil =>
    rw [paragraph, hwords]
    exact isRun_of_words_eq_nil (List.map_eq_nil_iff.1 hwords)
  | cons w rest =>
    have hclear : ∀ v ∈ [w] ++ rest, v ≠ "" := fun v hv =>
      (areWords_words text v (hwords ▸ hv)).1
    obtain ⟨more, groups, hfill, hgroups⟩ :=
      exists_filling width (List.cons_ne_nil w []) hclear fun _ => rfl
    have hparagraph : paragraph text
        = ((([w] ++ more) :: groups).map fun g => line (unwords g)) := by
      rw [unwords_singleton] at hfill
      have hempty : "".isEmpty = true := rfl
      rw [paragraph, hwords, fill, fillFrom, hempty, if_pos rfl, hfill, List.map_map]
      rfl
    rw [hparagraph]
    refine isRun_of_isFilling (by simp) ?_
    rw [hwords]
    exact hgroups

theorem ofText_of_ne_nil {description : String} (h : body description ≠ []) :
    ofText description = "/**" :: ((lines (body description)).flatMap paragraph ++ [" */"]) := by
  have hempty : (body description).isEmpty = false := by simpa using h
  simp only [ofText, hempty, Bool.false_eq_true, if_false, List.nil_append, List.cons_append]

/-- **The comment for a description** says all of what the description says, and nothing else.  If
that is nothing there is no comment.  Otherwise there are a first line and a last, and between these
a run of lines for each line of what is said: its words in their order, blanks only between them, no
line wider than the width unless it is a single word, and no line ended before there was no room for
the next word. -/
theorem runs_of_description (description : String) :
    ∃ subject, (∀ other, IsSubject description other ↔ other = subject) ∧
      (subject = [] → ofDescription (some description) = []) ∧
      (subject ≠ [] → ∃ runs : List (List String),
        ofDescription (some description) = "/**" :: (runs.flatten ++ [" */"]) ∧
        List.Forall₂ IsRun (lines subject) runs) := by
  refine ⟨body description, fun _ => isSubject_iff, fun h => ?_, fun h => ?_⟩
  · rw [ofDescription, ofText, h]
    rfl
  · refine ⟨(lines (body description)).map paragraph, ?_, ?_⟩
    · rw [ofDescription, ofText_of_ne_nil h, List.flatMap_def]
    · rw [List.forall₂_map_right_iff]
      exact List.forall₂_same.2 fun text _ => isRun_paragraph text

example : ofDescription (some "(Optional) - First line.\n\nSecond.") =
    ["/**", " * First line.", " *", " * Second.", " */"] := by
  decide +kernel

end DocComment
end Ambient
