import Mathlib.Data.List.Basic
import Ambient.DocComment
import Ambient.ParameterName
import Ambient.Proofs.Text.CamelCase

/-!
# Where line feeds stand

Most texts of a declaration stand on one line.  A few have several, and each of these but the first
is hung: it begins with a margin.  This file says how texts are put together without losing either
property, and what becomes of them when the file is cut at line feeds.

## What is here

* `IsFlat s` — no line feed is in `s`; `isFlat_upperFirst`, `isFlat_camelCase`,
  `isFlat_ofDescription` and so on — texts of which that holds.
* `Hangs s` — every line of `s` but the first begins with four blanks; `Hangs.append`,
  `Hangs.lineFeed` and so on — how such texts are put together.
* `splitOn_hangs` — the lines of such a text.
* `splitOn_unlines` — the lines of a file.
-/

set_option autoImplicit false

namespace Ambient

open Character Text

/-! ## Texts that are put together -/

/-- What holds of texts that are put together holds of those that are joined. -/
theorem intercalate_of_append {P : String → Prop} (hempty : P "")
    (happend : ∀ s t, P s → P t → P (s ++ t)) {separator : String} (h : P separator)
    {parts : List String} (hparts : ∀ s ∈ parts, P s) : P (String.intercalate separator parts) := by
  induction parts with
  | nil => rwa [String.intercalate_nil]
  | cons s rest ih =>
    rw [List.forall_mem_cons] at hparts
    cases rest with
    | nil =>
      rw [String.intercalate_singleton]
      exact hparts.1
    | cons t more =>
      rw [String.intercalate_cons_cons]
      exact happend _ _ (happend _ _ hparts.1 h) (ih hparts.2)

/-! ## Texts on one line -/

/-- No line feed is in the text. -/
def IsFlat (s : String) : Prop := '\n' ∉ s.toList

instance (s : String) : Decidable (IsFlat s) := inferInstanceAs (Decidable ('\n' ∉ s.toList))

theorem IsFlat.append {s t : String} (hs : IsFlat s) (ht : IsFlat t) : IsFlat (s ++ t) := by
  rw [IsFlat, String.toList_append, List.mem_append, not_or]
  exact ⟨hs, ht⟩

theorem IsFlat.intercalate {separator : String} (h : IsFlat separator) {parts : List String}
    (hparts : ∀ s ∈ parts, IsFlat s) : IsFlat (String.intercalate separator parts) :=
  intercalate_of_append (by decide) (fun _ _ => IsFlat.append) h hparts

/-- No other character has a line feed for its other case. -/
theorem keptByCase_ne_lineFeed : KeptByCase (· ≠ '\n') where
  lower c d hc hd := by
    by_cases hascii : c.toNat < 128
    · rw [lower_of_ascii hascii, List.mem_singleton] at hd
      have hlower : c ≠ '\n' → c.toLower ≠ '\n' :=
        forall_ascii (P := fun c => c ≠ '\n' → c.toLower ≠ '\n') (by decide +kernel) hascii
      exact hd ▸ hlower hc
    · rintro rfl
      exact absurd (isTame_of_mem_lower (fun h => absurd h hascii) hd (by decide)) (by decide)
  upper c d hc hd := by
    by_cases hascii : c.toNat < 128
    · rw [upper_of_ascii hascii, List.mem_singleton] at hd
      have hupper : c ≠ '\n' → c.toUpper ≠ '\n' :=
        forall_ascii (P := fun c => c ≠ '\n' → c.toUpper ≠ '\n') (by decide +kernel) hascii
      exact hd ▸ hupper hc
    · rintro rfl
      exact absurd (isTame_of_mem_upper (fun h => absurd h hascii) hd (by decide)) (by decide)
  sigma _ := ⟨by decide, by decide⟩

theorem isFlat_upperFirst {s : String} (h : IsFlat s) : IsFlat (upperFirst s) := fun hmem =>
  forall_mem_upperFirst keptByCase_ne_lineFeed (fun _ hc => fun heq => h (heq ▸ hc)) _ hmem rfl

/-- A camel-cased name is on one line, whatever the name is. -/
theorem isFlat_camelCase (s : String) : IsFlat (upperFirst (camelCase s)) := fun hmem =>
  absurd (isTame_of_mem_camelCase hmem (by decide)) (by decide)

theorem isFlat_parameterName {s : String} (h : IsFlat s) : IsFlat (parameterName s) := by
  rw [parameterName]
  split
  · exact IsFlat.append (by decide) (isFlat_upperFirst h)
  · exact h

/-! ## Parts of texts -/

theorem isPrefix_trimEnd (s : List Char) : trimEnd s <+: s := by
  have hsuffix := List.reverse_prefix.2 (List.dropWhile_suffix Character.isBlank (l := s.reverse))
  rwa [List.reverse_reverse] at hsuffix

theorem mem_of_mem_trim {s : List Char} {c : Char} (h : c ∈ trim s) : c ∈ s :=
  (List.dropWhile_sublist _).subset ((isPrefix_trimEnd _).subset h)

/-- What a text is split at is in none of the parts. -/
theorem not_of_mem_splitOnP {p : Char → Bool} {s part : List Char} (h : part ∈ s.splitOnP p) :
    ∀ c ∈ part, p c = false := by
  induction s generalizing part with
  | nil =>
    rw [List.splitOnP_nil, List.mem_singleton] at h
    rw [h]
    exact List.forall_mem_nil _
  | cons c rest ih =>
    rw [List.splitOnP_cons_eq_if_modifyHead] at h
    obtain ⟨first, others, hparts⟩ := List.exists_cons_of_ne_nil (List.splitOnP_ne_nil p rest)
    rw [hparts] at h ih
    split at h
    · rcases List.mem_cons.1 h with rfl | h
      · exact List.forall_mem_nil _
      · exact ih h
    · rename_i hc
      rcases List.mem_cons.1 h with rfl | h
      · exact List.forall_mem_cons.2 ⟨by simpa using hc, ih List.mem_cons_self⟩
      · exact ih (List.mem_cons_of_mem _ h)

/-- No line feed is in the lines of a text. -/
theorem lineFeed_notMem_of_mem_lines {s l : List Char} (h : l ∈ Text.lines s) : '\n' ∉ l := by
  have hpart {part : List Char} (hpart : part ∈ s.splitOn '\n') : '\n' ∉ part := fun hmem =>
    absurd (not_of_mem_splitOnP hpart _ hmem) (by decide)
  rcases List.mem_append.1 h with h | h
  · obtain ⟨part, hmem, rfl⟩ := List.mem_map.1 h
    have hflat := hpart (List.dropLast_subset _ hmem)
    rw [dropReturn]
    split
    · exact fun hl => hflat (List.dropLast_subset _ hl)
    · exact hflat
  · exact hpart (List.mem_of_getLast? (by simpa using (List.mem_filter.1 h).1))

/-! ## Comments -/

/-- Filled lines are on one line each if the words are. -/
theorem isFlat_fillFrom {width : Nat} {current : String} {ws : List String}
    (hcurrent : IsFlat current) (hws : ∀ w ∈ ws, IsFlat w) :
    ∀ l ∈ fillFrom width current ws, IsFlat l := by
  induction ws generalizing current with
  | nil => exact List.forall_mem_singleton.2 hcurrent
  | cons w rest ih =>
    rw [List.forall_mem_cons] at hws
    rw [fillFrom]
    split
    · exact ih hws.1 hws.2
    · split
      · exact ih ((hcurrent.append (by decide)).append hws.1) hws.2
      · exact List.forall_mem_cons.2 ⟨hcurrent, ih hws.1 hws.2⟩

/-- **The lines of a comment are on one line each**, whatever the description is. -/
theorem isFlat_ofDescription (description : Option String) :
    ∀ l ∈ DocComment.ofDescription description, IsFlat l := by
  have hparagraph (s : List Char) : ∀ l ∈ DocComment.paragraph s, IsFlat l := by
    refine List.forall_mem_map.2 fun l hl => ?_
    have hflat : IsFlat l := by
      refine isFlat_fillFrom (by decide) (List.forall_mem_map.2 fun w hw => ?_) l hl
      intro hmem
      rw [String.toList_ofList] at hmem
      exact absurd (not_of_mem_splitOnP (List.mem_filter.1 hw).1 _ hmem) (by decide)
    rw [DocComment.line]
    split
    · decide
    · exact IsFlat.append (by decide) hflat
  cases description with
  | none => exact List.forall_mem_nil _
  | some description =>
    rw [DocComment.ofDescription, DocComment.ofText]
    split
    · exact List.forall_mem_nil _
    · intro l hl
      simp only [List.mem_append, List.mem_singleton, List.mem_flatMap] at hl
      rcases hl with (rfl | ⟨s, -, hl⟩) | rfl
      · decide
      · exact hparagraph s l hl
      · decide

/-! ## Hanging texts -/

/-- The margin of the lines of a body. -/
def margin : List Char := [' ', ' ', ' ', ' ']

/-- Every line but the first begins with the margin. -/
def hangs : List Char → Bool
  | [] => true
  | c :: rest => (c != '\n' || margin.isPrefixOf rest) && hangs rest

theorem hangs_append {s t : List Char} (hs : hangs s = true) (ht : hangs t = true) :
    hangs (s ++ t) = true := by
  induction s with
  | nil => exact ht
  | cons c rest ih =>
    rw [hangs, Bool.and_eq_true, Bool.or_eq_true, List.isPrefixOf_iff_prefix] at hs
    rw [List.cons_append, hangs, Bool.and_eq_true, Bool.or_eq_true, List.isPrefixOf_iff_prefix]
    exact ⟨hs.1.imp_right fun h => h.trans (List.prefix_append _ _), ih hs.2⟩

theorem hangs_of_notMem {s : List Char} (h : '\n' ∉ s) : hangs s = true := by
  induction s with
  | nil => rfl
  | cons c rest ih =>
    rw [List.mem_cons, not_or] at h
    rw [hangs, ih h.2, Bool.and_true, Bool.or_eq_true]
    exact Or.inl (by simpa using Ne.symm h.1)

/-- Every line of the text but the first begins with the margin. -/
def Hangs (s : String) : Prop := hangs s.toList = true

theorem IsFlat.hangs {s : String} (h : IsFlat s) : Hangs s := hangs_of_notMem h

namespace Hangs

theorem append {s t : String} (hs : Hangs s) (ht : Hangs t) : Hangs (s ++ t) := by
  rw [Hangs, String.toList_append]
  exact hangs_append hs ht

theorem intercalate {separator : String} (h : Hangs separator) {parts : List String}
    (hparts : ∀ s ∈ parts, Hangs s) : Hangs (String.intercalate separator parts) :=
  intercalate_of_append (P := Hangs) rfl (fun _ _ => append) h hparts

theorem join {parts : List String} (hparts : ∀ s ∈ parts, Hangs s) :
    Hangs (String.join parts) := by
  induction parts with
  | nil => rfl
  | cons s rest ih =>
    rw [List.forall_mem_cons] at hparts
    rw [String.join_cons]
    exact hparts.1.append (ih hparts.2)

/-- A line is broken in front of a margin. -/
theorem lineFeed {s : String} (hmargin : margin <+: s.toList) (hs : Hangs s) :
    Hangs ("\n" ++ s) := by
  rw [Hangs, String.toList_append, show "\n".toList = ['\n'] from rfl, List.singleton_append,
    hangs, Bool.and_eq_true, Bool.or_eq_true, List.isPrefixOf_iff_prefix]
  exact ⟨Or.inr hmargin, hs⟩

end Hangs

/-! ## Cutting at line feeds -/

/-- The lines of a text, cut at line feeds.  There is always a first one. -/
theorem exists_splitOn (s : List Char) : ∃ first others, s.splitOn '\n' = first :: others :=
  List.exists_cons_of_ne_nil (List.splitOn_ne_nil '\n' s)

/-- What has no line feed stands at the start of the first line. -/
theorem splitOn_append {s t first : List Char} {others : List (List Char)} (h : '\n' ∉ s)
    (ht : t.splitOn '\n' = first :: others) : (s ++ t).splitOn '\n' = (s ++ first) :: others := by
  induction s with
  | nil => exact ht
  | cons c rest ih =>
    rw [List.mem_cons, not_or] at h
    have hc : (c == '\n') = false := by simpa using Ne.symm h.1
    rw [List.cons_append, List.splitOn_cons_eq_if_modifyHead, hc, ih h.2]
    rfl

/-- **The lines of a hanging text**, behind the first, begin with the margin. -/
theorem splitOn_hangs {s first : List Char} {others : List (List Char)} (h : hangs s = true)
    (hs : s.splitOn '\n' = first :: others) : ∀ l ∈ others, margin <+: l := by
  induction s generalizing first others with
  | nil =>
    cases hs
    exact List.forall_mem_nil _
  | cons c rest ih =>
    rw [hangs, Bool.and_eq_true, Bool.or_eq_true, List.isPrefixOf_iff_prefix] at h
    rw [List.splitOn_cons_eq_if_modifyHead] at hs
    obtain ⟨second, more, hrest⟩ := exists_splitOn rest
    rw [hrest] at hs
    split at hs
    · rename_i hc
      cases hs
      refine List.forall_mem_cons.2 ⟨?_, ih h.2 hrest⟩
      obtain ⟨t, rfl⟩ := h.1.resolve_left (by simpa using hc)
      obtain ⟨third, others, ht⟩ := exists_splitOn t
      rw [splitOn_append (by decide) ht] at hrest
      cases hrest
      exact List.prefix_append _ _
    · cases hs
      exact ih h.2 hrest

/-- The lines of a file whose text is put together from these, each with a line feed behind it. -/
theorem splitOn_unlines (ls : List String) :
    (ls.flatMap fun l => l.toList ++ ['\n']).splitOn '\n'
      = ls.flatMap (fun l => l.toList.splitOn '\n') ++ [[]] := by
  induction ls with
  | nil => rfl
  | cons l rest ih =>
    rw [List.flatMap_cons, List.flatMap_cons, List.append_assoc, List.singleton_append,
      List.splitOn_append_cons_self, ih, List.append_assoc]

theorem toList_unlines (ls : List String) (h : ls ≠ []) :
    (String.intercalate "\n" ls ++ "\n").toList = ls.flatMap fun l => l.toList ++ ['\n'] := by
  rw [String.toList_append, String.toList_intercalate]
  induction ls with
  | nil => exact absurd rfl h
  | cons l rest ih =>
    cases rest with
    | nil => simp
    | cons m more =>
      rw [List.map_cons, List.map_cons, List.intercalate_cons_cons, List.flatMap_cons,
        ← ih (List.cons_ne_nil m more)]
      simp

end Ambient
