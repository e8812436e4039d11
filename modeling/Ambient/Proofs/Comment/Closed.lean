import Mathlib.Algebra.Ring.Nat
import Ambient.Document
import Ambient.Proofs.Comment.Filled

/-!
# Where comments end

A comment is read up to the first `*/` behind its start.  The last line of every comment that is
written ends with one; a description or a header may hold others, which are written as they are, and
then the comment ends there, and what follows is read as declarations.

## What is here

* `occurrences part s` — at how many places a text stands in another, and
  `occurrences_eq_sum` — for a text without blanks these are the places within words.
* `behindComment s` — what stands behind the comment at the start of a text.
* `IsReadWith inner text` — a comment with so many `*/` in front of its last one.
* `closers_of_comment` — which comments these are: as many as the description or the header has.
-/

set_option autoImplicit false

namespace Ambient

open Character Text

/-! ## Occurrences -/

/-- At how many places a text stands in another. -/
def occurrences (part : List Char) : List Char → Nat
  | [] => 0
  | c :: rest => (if part <+: c :: rest then 1 else 0) + occurrences part rest

section

variable {part s t : List Char} {c : Char}

theorem occurrences_nil (part : List Char) : occurrences part [] = 0 := rfl

theorem occurrences_cons_of_start (h : part <+: c :: s) :
    occurrences part (c :: s) = occurrences part s + 1 := by
  rw [occurrences, if_pos h, Nat.add_comm]

theorem occurrences_cons_of_not_start (h : ¬ part <+: c :: s) :
    occurrences part (c :: s) = occurrences part s := by
  rw [occurrences, if_neg h, Nat.zero_add]

theorem occurrences_append_cons (hne : part ≠ []) (hc : c ∉ part) (s t : List Char) :
    occurrences part (s ++ c :: t) = occurrences part s + occurrences part t := by
  induction s with
  | nil =>
    have hstart : ¬ part <+: c :: t := fun h => hne
      (List.prefix_nil.1 ((isPrefix_append_cons_iff (s := []) hc).1 h))
    rw [List.nil_append, occurrences_cons_of_not_start hstart, occurrences_nil, Nat.zero_add]
  | cons d rest ih =>
    have hiff : part <+: d :: (rest ++ c :: t) ↔ part <+: d :: rest :=
      isPrefix_append_cons_iff (s := d :: rest) hc
    by_cases h : part <+: d :: rest
    · rw [List.cons_append, occurrences_cons_of_start (hiff.2 h), occurrences_cons_of_start h, ih]
      omega
    · rw [List.cons_append, occurrences_cons_of_not_start (mt hiff.1 h),
        occurrences_cons_of_not_start h, ih]

/-- A text that has no part in it may stand in front. -/
theorem occurrences_append_of_notMem (hne : part ≠ []) {front : List Char}
    (hfront : ∀ c ∈ front, c ∉ part) (s : List Char) :
    occurrences part (front ++ s) = occurrences part s := by
  induction front with
  | nil => rfl
  | cons c rest ih =>
    rw [List.forall_mem_cons] at hfront
    have h := occurrences_append_cons hne hfront.1 [] (rest ++ s)
    rwa [List.nil_append, occurrences_nil, Nat.zero_add, ih hfront.2] at h

/-- **What has no blanks stands within words.** -/
theorem occurrences_eq_sum (hne : part ≠ []) (hpart : ∀ c ∈ part, isBlank c = false)
    (s : List Char) : occurrences part s = ((words s).map (occurrences part)).sum := by
  induction hn : s.length using Nat.strong_induction_on generalizing s with
  | _ n ih =>
    by_cases hblank : ∃ c ∈ s, isBlank c = true
    · -- The words on either side of a blank are those of shorter texts.
      obtain ⟨c, hc, hblank⟩ := hblank
      obtain ⟨front, back, rfl⟩ := List.append_of_mem hc
      rw [List.length_append, List.length_cons] at hn
      have hnot : c ∉ part := fun hmem => by simp [hpart c hmem] at hblank
      rw [occurrences_append_cons hne hnot, words_append_blank hblank, List.map_append,
        List.sum_append, ih front.length (by omega) front rfl,
        ih back.length (by omega) back rfl]
    · rcases List.eq_nil_or_concat' s with rfl | ⟨_, _, hs⟩
      · rw [words_nil]
        rfl
      · have hclear : ∀ c ∈ s, isBlank c = false := by simpa using hblank
        rw [words_of_forall (by simp [hs]) hclear]
        simp

theorem occurrences_of_words_eq (hne : part ≠ []) (hpart : ∀ c ∈ part, isBlank c = false)
    (h : words s = words t) : occurrences part s = occurrences part t := by
  rw [occurrences_eq_sum hne hpart, h, ← occurrences_eq_sum hne hpart]

/-- Texts that are joined by what has no part in it. -/
theorem occurrences_intercalate (hne : part ≠ []) {sep : List Char} (hsepne : sep ≠ [])
    (hsep : ∀ c ∈ sep, c ∉ part) (texts : List (List Char)) :
    occurrences part (sep.intercalate texts) = (texts.map (occurrences part)).sum := by
  obtain ⟨c, more, rfl⟩ := List.exists_cons_of_ne_nil hsepne
  rw [List.forall_mem_cons] at hsep
  induction texts with
  | nil => rfl
  | cons s rest ih =>
    cases rest with
    | nil => simp
    | cons t others =>
      rw [List.intercalate_cons_cons, List.append_assoc, List.cons_append,
        occurrences_append_cons hne hsep.1, occurrences_append_of_notMem hne hsep.2, ih,
        List.map_cons (a := s), List.sum_cons]

end

/-! ## Reading a comment -/

/-- What ends a comment. -/
def closer : List Char := ['*', '/']

/-- What stands behind the first end of a comment. -/
def behindCloser : List Char → Option (List Char)
  | [] => none
  | c :: rest => if closer <+: c :: rest then some (rest.drop 1) else behindCloser rest

/-- What stands behind the comment at the start of a text. -/
def behindComment (s : List Char) : Option (List Char) :=
  if ['/', '*'] <+: s then behindCloser (s.drop 2) else none

/-- Of several ends the first is the one that counts. -/
theorem exists_behindCloser {s : List Char} {n : Nat} (h : occurrences closer s = n + 1) :
    ∃ front behind, s = front ++ (closer ++ behind) ∧ occurrences closer behind = n ∧
      ∀ rest, behindCloser (s ++ rest) = some (behind ++ rest) := by
  induction s with
  | nil => cases h
  | cons c more ih =>
    by_cases hstart : closer <+: c :: more
    · obtain ⟨behind, hbehind⟩ := hstart
      cases hbehind
      have hslash : ¬ closer <+: '/' :: behind := fun hstarts => by
        simp [closer, List.cons_prefix_cons] at hstarts
      refine ⟨[], behind, rfl, ?_, fun rest => ?_⟩
      · rw [occurrences_cons_of_start ⟨behind, rfl⟩] at h
        change occurrences closer ('/' :: behind) + 1 = n + 1 at h
        rw [occurrences_cons_of_not_start hslash] at h
        exact Nat.succ.inj h
      · rw [List.cons_append, behindCloser, if_pos ⟨behind ++ rest, rfl⟩]
        rfl
    · rw [occurrences_cons_of_not_start hstart] at h
      obtain ⟨front, behind, hmore, hcount, hread⟩ := ih h
      refine ⟨c :: front, behind, by rw [hmore, List.cons_append], hcount, fun rest => ?_⟩
      rw [List.cons_append, behindCloser, if_neg, hread]
      -- The end is too short to reach into what follows.
      intro hlonger
      refine hstart (List.prefix_of_prefix_length_le hlonger ⟨rest, List.cons_append⟩ ?_)
      rw [hmore]
      simp [closer]
      omega

theorem occurrences_pos {s front : List Char} (h : s = front ++ closer) :
    0 < occurrences closer s := by
  induction front generalizing s with
  | nil =>
    rw [h]
    decide
  | cons c more ih =>
    rw [h, List.cons_append, occurrences]
    have hmore := ih rfl
    omega

/-- A comment, with so many ends in front of its last line, which ends it. -/
structure IsReadWith (inner : Nat) (text : List Char) : Prop where
  count : occurrences closer text = inner + 1
  last : " */".toList <:+ text
  /-- It is read to its last line just if it has no other end. -/
  read_iff : ∀ rest, behindComment (text ++ rest) = some rest ↔ inner = 0

/-- Behind the only end of a text that ends with one stands nothing. -/
theorem eq_nil_of_occurrences_eq_zero {s front behind : List Char} (hlast : closer <:+ s)
    (hs : s = front ++ (closer ++ behind)) (h : occurrences closer behind = 0) : behind = [] := by
  have hsuffix : behind <:+ s := ⟨front ++ closer, by rw [hs, List.append_assoc]⟩
  by_cases hlong : closer.length ≤ behind.length
  · obtain ⟨start, hstart⟩ := List.suffix_of_suffix_length_le hlast hsuffix hlong
    exact absurd (occurrences_pos hstart.symm) (by omega)
  · rcases behind with _ | ⟨c, _ | ⟨d, more⟩⟩
    · rfl
    · -- The slash of the one would be the star of the other.
      obtain ⟨start, hstart⟩ := hlast
      rw [hs, closer, ← List.append_assoc] at hstart
      have hends : start ++ ['*'] ++ ['/'] = front ++ ['*'] ++ ['/'] ++ [c] := by
        simpa using hstart
      have hstar := (List.append_inj' hends rfl).1
      exact absurd (List.append_inj' hstar rfl).2 (by decide)
    · simp [closer] at hlong

theorem isReadWith_of_count {inner : Nat} {text back : List Char}
    (hcount : occurrences closer text = inner + 1) (hfirst : text = "/**\n".toList ++ back)
    (hlast : " */".toList <:+ text) : IsReadWith inner text := by
  have hbody : occurrences closer ('*' :: '\n' :: back) = inner + 1 := by
    have hskip : occurrences closer ('/' :: '*' :: '*' :: '\n' :: back)
        = occurrences closer ('*' :: '\n' :: back) := by
      simp [occurrences, closer]
    rw [← hskip, ← hcount, hfirst]
    rfl
  have hsuffix : closer <:+ '*' :: '\n' :: back := by
    have hcloser : closer <:+ " */".toList := ⟨[' '], rfl⟩
    exact List.suffix_of_suffix_length_le (hcloser.trans hlast) ⟨['/', '*'], hfirst.symm⟩
      (by simp [closer])
  obtain ⟨start, behind, hsplit, hcountBehind, hread⟩ := exists_behindCloser hbody
  have hcomment (rest : List Char) : behindComment (text ++ rest) = some (behind ++ rest) := by
    rw [← hread, hfirst]
    rfl
  refine ⟨hcount, hlast, fun rest => ⟨fun h => ?_, fun h => ?_⟩⟩
  · rw [hcomment, Option.some.injEq, List.append_left_eq_self] at h
    rw [← hcountBehind, h]
    rfl
  · rw [hcomment, eq_nil_of_occurrences_eq_zero hsuffix hsplit (hcountBehind.trans h)]
    rfl

/-! ## The closers of a comment -/

theorem closer_ne_nil : closer ≠ [] := by decide

theorem isBlank_of_mem_closer : ∀ c ∈ closer, isBlank c = false :=
  List.forall_mem_cons.2 ⟨by decide, List.forall_mem_singleton.2 (by decide)⟩

theorem notMem_closer_of_isBlank {c : Char} (h : isBlank c = true) : c ∉ closer := fun hmem => by
  simp [isBlank_of_mem_closer c hmem] at h

theorem occurrences_of_same_words {s t : List Char} (h : words s = words t) :
    occurrences closer s = occurrences closer t :=
  occurrences_of_words_eq closer_ne_nil isBlank_of_mem_closer h

/-- A text is the sum of parts with all of its words. -/
theorem sum_occurrences {α : Type} {parts : List α} {text : α → List Char} {s : List Char}
    (h : parts.flatMap (fun a => words (text a)) = words s) :
    (parts.map fun a => occurrences closer (text a)).sum = occurrences closer s := by
  rw [occurrences_eq_sum closer_ne_nil isBlank_of_mem_closer s, ← h, List.map_flatMap,
    List.flatMap_def, List.sum_flatten, List.map_map]
  exact congrArg List.sum (List.map_congr_left fun a _ =>
    occurrences_eq_sum closer_ne_nil isBlank_of_mem_closer (text a))

namespace DocComment

/-- Neither the marker nor the dash has a part in the end of a comment. -/
theorem Unmarked.occurrences_eq {s subject : List Char} (h : Unmarked s subject) :
    occurrences closer subject = occurrences closer s := by
  have hfront {front : List Char} (hmark : front.map Char.toLower = "(optional)".toList) :
      ∀ c ∈ front, c ∉ closer := by
    intro c hc hcloser
    have hlower : c.toLower ∈ "(optional)".toList := hmark ▸ List.mem_map_of_mem hc
    rcases List.mem_pair.1 hcloser with rfl | rfl <;> exact absurd hlower (by decide)
  cases h with
  | @dashed front rest _ hmark hdash =>
    have hdashed : occurrences closer (trimStart rest) = occurrences closer subject := by
      have hfree : ∀ c ∈ ['-', ' '], c ∉ closer :=
        List.forall_mem_cons.2 ⟨by decide, List.forall_mem_singleton.2 (by decide)⟩
      rw [hdash]
      exact occurrences_append_of_notMem closer_ne_nil hfree subject
    rw [occurrences_append_of_notMem closer_ne_nil (hfront hmark), ← hdashed,
      occurrences_of_same_words (words_trimStart rest)]
  | @marked front rest hmark _ =>
    rw [occurrences_append_of_notMem closer_ne_nil (hfront hmark),
      occurrences_of_same_words (words_trimStart rest)]
  | unmarked _ => rfl

/-- What a description says has all the closers of the description. -/
theorem occurrences_body (description : String) :
    occurrences closer (body description) = occurrences closer description.toList := by
  rw [body, occurrences_of_same_words (words_trim _), (unmarked_withoutMarker _).occurrences_eq,
    occurrences_of_same_words (words_trim _)]

/-- A line has the closers of its words. -/
theorem IsRun.occurrences_line {text : List Char} {run : List String} (h : IsRun text run)
    {l : String} (hl : l ∈ run) :
    occurrences closer l.toList = occurrences closer (l.toList.drop 2) := by
  rcases h.starred l hl with rfl | ⟨rest, hrest⟩
  · decide
  · rw [← hrest]
    simp [occurrences, closer]

theorem IsRun.sum_occurrences {text : List Char} {run : List String} (h : IsRun text run) :
    (run.map fun l => occurrences closer l.toList).sum = occurrences closer text := by
  rw [List.map_congr_left fun l hl => h.occurrences_line hl]
  exact Ambient.sum_occurrences h.words_eq

/-- The lines between the first and the last have the closers of what is said. -/
theorem sum_occurrences_paragraphs (subject : List Char) :
    (((lines subject).flatMap paragraph).map fun l => occurrences closer l.toList).sum
      = occurrences closer subject := by
  rw [List.map_flatMap, List.flatMap_def, List.sum_flatten, List.map_map, Function.comp_def,
    List.map_congr_left fun text _ => (isRun_paragraph text).sum_occurrences]
  exact Ambient.sum_occurrences (flatMap_words_lines subject)

end DocComment

/-- The lines of a comment as they stand in a file, where all but the first have a margin. -/
def commentText (margin : List Char) (ls : List String) : List Char :=
  ('\n' :: margin).intercalate (ls.map String.toList)

theorem occurrences_commentText {margin : List Char} (hmargin : ∀ c ∈ margin, isBlank c = true)
    (ls : List String) :
    occurrences closer (commentText margin ls)
      = (ls.map fun l => occurrences closer l.toList).sum := by
  rw [commentText, occurrences_intercalate closer_ne_nil (by simp), List.map_map]
  · rfl
  · exact List.forall_mem_cons.2 ⟨by decide, fun c hc => notMem_closer_of_isBlank (hmargin c hc)⟩

/-- **A comment has the closers of its lines**, and is read accordingly. -/
theorem isReadWith_commentText {margin : List Char} (hmargin : ∀ c ∈ margin, isBlank c = true)
    {body : List String} {inner : Nat}
    (hbody : (body.map fun l => occurrences closer l.toList).sum = inner) :
    IsReadWith inner (commentText margin ("/**" :: (body ++ [" */"]))) := by
  have hfirst : commentText margin ("/**" :: (body ++ [" */"]))
      = "/**\n".toList ++ (margin ++ commentText margin (body ++ [" */"])) := by
    rw [commentText, commentText, List.map_cons, List.intercalate_cons_of_ne_nil (by simp)]
    simp
  refine isReadWith_of_count ?_ hfirst ?_
  · have hends : occurrences closer "/**".toList = 0 ∧ occurrences closer " */".toList = 1 := by
      decide
    rw [occurrences_commentText hmargin, List.map_cons, List.map_append, List.map_singleton,
      List.sum_cons, List.sum_append, List.sum_singleton, hbody, hends.1, hends.2, Nat.zero_add]
  · rw [commentText, ← List.cons_append, List.map_append, List.map_singleton,
      Reading.intercalate_concat]
    exact List.suffix_append _ _

/-! ## Where comments are written -/

/-- Texts that have a margin each have one in front of all and one behind each separator. -/
theorem intercalate_map_append (sep front : List Char) {texts : List (List Char)}
    (hne : texts ≠ []) :
    sep.intercalate (texts.map (front ++ ·)) = front ++ (sep ++ front).intercalate texts := by
  induction texts with
  | nil => exact absurd rfl hne
  | cons s rest ih =>
    cases rest with
    | nil => simp
    | cons t more =>
      rw [List.map_cons, List.intercalate_cons_of_ne_nil (by simp), ih (List.cons_ne_nil t more),
        List.intercalate_cons_cons]
      simp only [List.append_assoc]

/-- In a block or an interface a comment has the margin of the body. -/
theorem toList_bodyLines {ls : List String} (hne : ls ≠ []) (h : "" ∉ ls) :
    (String.intercalate "\n" (ls.map bodyLine)).toList = margin ++ commentText margin ls := by
  have hline : ∀ l ∈ ls, (bodyLine l).toList = margin ++ l.toList := fun l hl => by
    rw [bodyLine, if_neg (fun hempty => h (String.isEmpty_iff.1 hempty ▸ hl)),
      String.toList_append]
    rfl
  have hlines : (ls.map bodyLine).map String.toList
      = (ls.map String.toList).map (margin ++ ·) := by
    rw [List.map_map, List.map_map]
    exact List.map_congr_left hline
  rw [String.toList_intercalate, hlines, intercalate_map_append _ _ (by simpa using hne)]
  rfl

/-- Texts that have a separator behind each are joined by it, and one stands at the end. -/
theorem flatMap_append_eq (sep : List Char) {texts : List (List Char)} (hne : texts ≠ []) :
    texts.flatMap (· ++ sep) = sep.intercalate texts ++ sep := by
  obtain ⟨front, last, rfl⟩ := (List.eq_nil_or_concat' texts).resolve_left hne
  rw [List.flatMap_append, List.flatMap_singleton, Reading.intercalate_concat, List.append_assoc]

/-- In front of an argument a comment has the margin of the arguments. -/
theorem toList_argumentComment (indent : String) {description : Option String}
    (h : DocComment.ofDescription description ≠ []) :
    (Signature.argumentComment indent description).toList
      = commentText indent.toList (DocComment.ofDescription description)
        ++ '\n' :: indent.toList := by
  have hne : (DocComment.ofDescription description).map String.toList ≠ [] := by simpa using h
  have hjoined := flatMap_append_eq ('\n' :: indent.toList) hne
  rw [Signature.argumentComment, commentText, ← hjoined, String.toList_join]
  simp [List.flatMap_def, Function.comp_def]

/-- The lines of the comment at the head have the closers of the header. -/
theorem sum_occurrences_headLines (header : String) :
    (((lines header.toList).map headLine).map fun l => occurrences closer l.toList).sum
      = occurrences closer header.toList := by
  have hline (l : List Char) :
      occurrences closer (headLine l).toList = occurrences closer l := by
    rw [headLine, String.toList_ofList, occurrences_of_same_words (words_trimEnd _)]
    simp [occurrences, closer]
  rw [List.map_map, Function.comp_def]
  simp only [hline]
  exact sum_occurrences (flatMap_words_lines header.toList)

/-- No line of a comment is empty. -/
theorem empty_notMem_ofDescription (description : Option String) :
    "" ∉ DocComment.ofDescription description := by
  cases description with
  | none => exact List.not_mem_nil
  | some description =>
    by_cases hbody : DocComment.body description = []
    · rw [DocComment.ofDescription, DocComment.ofText, hbody]
      exact List.not_mem_nil
    · rw [DocComment.ofDescription, DocComment.ofText_of_ne_nil hbody, List.mem_cons,
        List.mem_append, List.mem_flatMap]
      rintro (h | ⟨text, -, h⟩ | h)
      · exact absurd h (by decide)
      · exact absurd ((DocComment.isRun_paragraph text).starred "" h) (by decide)
      · exact absurd h (by decide)

/-- **Comments end where the text says so.**  A comment for a description, wherever it stands, and
the comment at the head end with their last lines, and hold as many other ends as the description
or the header does.  Just if that is none, a reader of the comment stops at its last line; otherwise
it stops before, and what is left of the comment is read as declarations. -/
theorem closers_of_comment {description : String}
    (h : DocComment.ofDescription (some description) ≠ []) (header : String) :
    (∀ indent : List Char, (∀ c ∈ indent, isBlank c = true) →
      IsReadWith (occurrences closer description.toList)
        (commentText indent (DocComment.ofDescription (some description)))) ∧
    (String.intercalate "\n" ((DocComment.ofDescription (some description)).map bodyLine)).toList
      = margin ++ commentText margin (DocComment.ofDescription (some description)) ∧
    (∀ event, (Signature.argumentComment (Signature.listenerIndent event)
        (some description)).toList
      = commentText (Signature.listenerIndent event).toList
          (DocComment.ofDescription (some description))
        ++ '\n' :: (Signature.listenerIndent event).toList) ∧
    ∃ text, String.intercalate "\n" (headLines (some header)) = text ++ "\n" ∧
      IsReadWith (occurrences closer header.toList) text.toList := by
  have hbody : DocComment.body description ≠ [] := fun hnil => h (by
    rw [DocComment.ofDescription, DocComment.ofText, hnil]
    rfl)
  refine ⟨fun indent hindent => ?_, toList_bodyLines h (empty_notMem_ofDescription _),
    fun event => toList_argumentComment _ h,
    String.ofList (commentText [] ("/**" :: ((lines header.toList).map headLine ++ [" */"]))),
    ?_, ?_⟩
  · rw [DocComment.ofDescription, DocComment.ofText_of_ne_nil hbody,
      ← DocComment.occurrences_body]
    exact isReadWith_commentText hindent (DocComment.sum_occurrences_paragraphs _)
  · have hlines : headLines (some header)
        = "/**" :: ((lines header.toList).map headLine ++ [" */"]) ++ [""] := by
      simp [headLines]
    rw [← String.toList_inj, String.toList_append, String.toList_ofList,
      String.toList_intercalate, hlines, List.map_append, List.map_singleton,
      Reading.intercalate_concat, flatMap_append_eq _ (by simp)]
    simp [commentText]
  · rw [String.toList_ofList]
    exact isReadWith_commentText (List.forall_mem_nil _) (sum_occurrences_headLines header)

/-- A description with patterns of files. -/
def globbing : String := "(optional) Matches **/*.js and **/*.ts."

theorem closers_of_comment_globs :
    DocComment.ofDescription (some globbing) ≠ [] ∧
    occurrences closer (commentText margin (DocComment.ofDescription (some globbing))) = 3 ∧
    behindComment (commentText margin (DocComment.ofDescription (some globbing))) ≠ some [] ∧
    ∃ text, String.intercalate "\n" (headLines (some "See src/*/.")) = text ++ "\n" ∧
      ¬ behindComment text.toList = some [] := by
  have hlines : DocComment.ofDescription (some globbing) ≠ [] := by decide +kernel
  have hinner : occurrences closer globbing.toList = 2 := by decide +kernel
  obtain ⟨hcomment, -, -, text, hhead, hheader⟩ := closers_of_comment hlines "See src/*/."
  have hread := hcomment margin (List.all_eq_true.1 (by decide))
  rw [hinner] at hread
  refine ⟨hlines, hread.count, fun h => ?_, text, hhead, fun h => ?_⟩
  · exact absurd ((hread.read_iff []).1 (by rwa [List.append_nil])) (by decide)
  · exact absurd ((hheader.read_iff []).1 (by rwa [List.append_nil])) (by decide)

end Ambient
