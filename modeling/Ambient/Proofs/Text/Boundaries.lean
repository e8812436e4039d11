import Mathlib.Data.List.Basic
import Ambient.Proofs.Text.CamelCase

/-!
# Where words end

The words of a name are found in one pass, which keeps no more than the words so far and the one
under way.  Nothing is lost in it, and it looks at no character that is not there, because of what
is true behind every character: the words so far and the one under way are the letters and digits
that have been read, and the word under way, if there is one, ends with the character in front.

## What is here

* `Scan`, `wordsByPosition?` — the pass over the positions of a text, which has no result if it
  looks in front of the first.
* `Scan.IsBetween` — what is true between two characters; `Scan.IsBetween.exists_read?`,
  `Scan.IsBetween.exists_run` — one character more, and several.
* `wordsByPosition?_eq` — the pass has a result, which is the words of the text.
* `IsBoundary` — the places of a text where no word goes on; `Scan.IsBetween.ends_iff` — words end
  there and nowhere else.
* `AreWordsOf` — the words of a text, told by where they end; `areWordsOf_splitWordsFrom`,
  `AreWordsOf.unique` — there is one such list, and the pass finds it.
-/

set_option autoImplicit false

namespace Ambient
namespace Text

open Character

variable {front rest : List Char} {c : Char}

/-! ## Words and the next character -/

theorem splitWordsFrom_other (hc : isAlphanumeric c = false) (current rest : List Char) :
    splitWordsFrom current (c :: rest) = finishWord current ++ splitWordsFrom [] rest := by
  rw [splitWordsFrom.eq_def]
  simp [hc]

theorem splitWordsFrom_first (hc : isAlphanumeric c = true) (rest : List Char) :
    splitWordsFrom [] (c :: rest) = splitWordsFrom [c] rest := by
  rw [splitWordsFrom, hc, Bool.not_true, if_neg Bool.false_ne_true]

section

variable {before : Char} (hc : isAlphanumeric c = true)

include hc

theorem splitWordsFrom_start (hstart : startsWord before c rest.head? = true)
    (earlier : List Char) : splitWordsFrom (before :: earlier) (c :: rest)
      = finishWord (before :: earlier) ++ splitWordsFrom [c] rest := by
  rw [splitWordsFrom, hc, Bool.not_true, if_neg Bool.false_ne_true]
  exact if_pos hstart

theorem splitWordsFrom_more (hstart : startsWord before c rest.head? = false)
    (earlier : List Char) : splitWordsFrom (before :: earlier) (c :: rest)
      = splitWordsFrom (c :: before :: earlier) rest := by
  rw [splitWordsFrom, hc, Bool.not_true, if_neg Bool.false_ne_true]
  exact if_neg (Bool.eq_false_iff.1 hstart)

end

/-! ## The pass over a text -/

/-- What is kept of the characters in front of a position. -/
structure Scan where
  /-- The words that have ended. -/
  ended : List (List Char)
  /-- The characters of the word under way. -/
  current : List Char

/-- The character in front of a position, if there is one. -/
def inFrontOf? (text : List Char) : Nat → Option Char
  | 0 => none
  | i + 1 => text[i]?

namespace Scan

/-- Nothing has been read. -/
def start : Scan := ⟨[], []⟩

/-- The word under way ends, if there is one. -/
def finish (scan : Scan) : Scan :=
  if scan.current.isEmpty then scan else ⟨scan.ended ++ [scan.current], []⟩

/-- The character belongs to the word under way. -/
def push (scan : Scan) (c : Char) : Scan := { scan with current := scan.current ++ [c] }

/-- A character is read at a position of the text.  If it is a capital and a word is under way, the
character in front of it decides whether the word ends; without that there is no result. -/
def read? (text : List Char) (scan : Scan) : Char × Nat → Option Scan
  | (c, i) =>
    if !isAlphanumeric c then some scan.finish
    else if isUpper c && !scan.current.isEmpty then
      (inFrontOf? text i).map fun before =>
        if startsWord before c text[i + 1]? then scan.finish.push c else scan.push c
    else some (scan.push c)

end Scan

/-- The words of a text, found position by position. -/
def wordsByPosition? (text : List Char) : Option (List (List Char)) :=
  (text.zipIdx.foldlM (Scan.read? text) Scan.start).map fun scan => scan.finish.ended

theorem inFrontOf?_length (front rest : List Char) :
    inFrontOf? (front ++ rest) front.length = front.getLast? := by
  rcases List.eq_nil_or_concat' front with rfl | ⟨earlier, before, rfl⟩
  · rfl
  · rw [List.length_append, List.length_singleton, inFrontOf?, List.append_assoc,
      List.getElem?_append_right (Nat.le_refl _), Nat.sub_self, List.getLast?_concat]
    rfl

namespace Scan

variable {scan : Scan}

theorem finish_ended (scan : Scan) :
    scan.finish.ended = scan.ended ++ finishWord scan.current.reverse := by
  rw [finish, finishWord, List.isEmpty_reverse, List.reverse_reverse]
  split
  · rw [List.append_nil]
  · rfl

theorem finish_current (scan : Scan) : scan.finish.current = [] := by
  rw [finish]
  split
  · rename_i h
    exact List.isEmpty_iff.1 h
  · rfl

theorem flatten_finish (scan : Scan) :
    scan.finish.ended.flatten = scan.ended.flatten ++ scan.current := by
  rw [finish]
  split
  · rename_i h
    rw [List.isEmpty_iff.1 h, List.append_nil]
  · rw [List.flatten_append, List.flatten_singleton]

/-- What is true of a scan between what has been read of a text and what follows. -/
structure IsBetween (scan : Scan) (front rest : List Char) : Prop where
  /-- No word that has ended is empty. -/
  ne_nil : ∀ w ∈ scan.ended, w ≠ []
  /-- The words are the letters and digits so far. -/
  flatten_eq : scan.ended.flatten ++ scan.current = front.filter isAlphanumeric
  /-- The word under way, if there is one, ends with the character in front. -/
  getLast?_eq : scan.current.getLast? = front.getLast?.filter isAlphanumeric
  /-- The words that have ended are the first words of the text. -/
  words_eq : splitWordsFrom [] (front ++ rest)
    = scan.ended ++ splitWordsFrom scan.current.reverse rest

theorem isBetween_start (text : List Char) : start.IsBetween [] text :=
  ⟨List.forall_mem_nil _, rfl, rfl, rfl⟩

namespace IsBetween

theorem finish_ne_nil (h : scan.IsBetween front rest) : ∀ w ∈ scan.finish.ended, w ≠ [] := by
  rw [finish]
  split
  · exact h.ne_nil
  · rename_i hcurrent
    rw [List.isEmpty_iff] at hcurrent
    exact List.forall_mem_append.2 ⟨h.ne_nil, List.forall_mem_singleton.2 hcurrent⟩

theorem finish_flatten_eq (h : scan.IsBetween front rest) :
    scan.finish.ended.flatten ++ scan.finish.current = front.filter isAlphanumeric := by
  rw [finish_current, List.append_nil, flatten_finish, h.flatten_eq]

/-- If no word is under way, none ends. -/
theorem of_current_eq_nil (h : scan.IsBetween front rest) (hcurrent : scan.current = []) :
    splitWordsFrom [] (front ++ rest) = scan.finish.ended ++ splitWordsFrom [] rest := by
  rw [h.words_eq, finish_ended, hcurrent]
  simp [finishWord]

/-- The character in front of a word under way is its last one, a letter or a digit. -/
theorem of_current_eq_concat (h : scan.IsBetween front rest) {earlier : List Char} {before : Char}
    (hcurrent : scan.current = earlier ++ [before]) :
    front.getLast? = some before ∧ isAlphanumeric before = true := by
  have hlast := h.getLast?_eq
  rw [hcurrent, List.getLast?_concat] at hlast
  exact Option.filter_eq_some_iff.1 hlast.symm

/-! ### One character more -/

theorem finish (h : scan.IsBetween front (c :: rest)) (hc : isAlphanumeric c = false) :
    scan.finish.IsBetween (front ++ [c]) rest where
  ne_nil := h.finish_ne_nil
  flatten_eq := by
    rw [h.finish_flatten_eq, List.filter_append]
    simp [hc]
  getLast?_eq := by
    rw [finish_current, List.getLast?_concat, Option.filter_some, hc]
    rfl
  words_eq := by
    rw [List.append_assoc, List.singleton_append, h.words_eq, splitWordsFrom_other hc,
      finish_ended, finish_current, List.append_assoc]
    rfl

/-- It does not matter what the word under way ends with if a character is added to it. -/
theorem push (hne : ∀ w ∈ scan.ended, w ≠ [])
    (hflatten : scan.ended.flatten ++ scan.current = front.filter isAlphanumeric)
    (hc : isAlphanumeric c = true)
    (hwords : splitWordsFrom [] (front ++ c :: rest)
      = scan.ended ++ splitWordsFrom (c :: scan.current.reverse) rest) :
    (scan.push c).IsBetween (front ++ [c]) rest where
  ne_nil := hne
  flatten_eq := by
    rw [Scan.push, ← List.append_assoc, hflatten, List.filter_append]
    simp [hc]
  getLast?_eq := by
    rw [Scan.push, List.getLast?_concat, List.getLast?_concat, Option.filter_some, hc]
    rfl
  words_eq := by
    rw [List.append_assoc, List.singleton_append, hwords, Scan.push, List.reverse_concat]

/-- **Every character can be read**, and what is true of the scan stays true. -/
theorem exists_read? (h : scan.IsBetween front (c :: rest)) :
    ∃ next, scan.read? (front ++ c :: rest) (c, front.length) = some next ∧
      next.IsBetween (front ++ [c]) rest := by
  have hafter : (front ++ c :: rest)[front.length + 1]? = rest.head? := by
    rw [List.getElem?_append_right (Nat.le_succ _), Nat.succ_sub (Nat.le_refl _), Nat.sub_self,
      List.getElem?_cons_succ, List.head?_eq_getElem?]
  by_cases hc : isAlphanumeric c = true
  · rcases List.eq_nil_or_concat' scan.current with hcurrent | ⟨earlier, before, hcurrent⟩
    · refine ⟨scan.push c, by simp [read?, hc, hcurrent], push h.ne_nil h.flatten_eq hc ?_⟩
      rw [h.words_eq, hcurrent, List.reverse_nil, splitWordsFrom_first hc]
    · -- The word under way ends with the character in front, so that there is one.
      have hbefore := (h.of_current_eq_concat hcurrent).1
      cases hstart : startsWord before c rest.head? with
      | true =>
        have hupper : isUpper c = true := (Bool.and_eq_true_iff.1 hstart).1
        refine ⟨scan.finish.push c, ?_, push h.finish_ne_nil h.finish_flatten_eq hc ?_⟩
        · simp [read?, hc, hcurrent, hupper, inFrontOf?_length, hbefore, hafter, hstart]
        · rw [h.words_eq, finish_ended, finish_current, hcurrent, List.reverse_concat,
            splitWordsFrom_start hc hstart, List.append_assoc]
          rfl
      | false =>
        refine ⟨scan.push c, ?_, push h.ne_nil h.flatten_eq hc ?_⟩
        · simp [read?, hc, hcurrent, inFrontOf?_length, hbefore, hafter, hstart]
        · rw [h.words_eq, hcurrent, List.reverse_concat, splitWordsFrom_more hc hstart]
  · rw [Bool.not_eq_true] at hc
    exact ⟨scan.finish, by simp [read?, hc], h.finish hc⟩

/-- So it is for several characters, by induction on them. -/
theorem exists_run {more : List Char} (h : scan.IsBetween front (more ++ rest)) :
    ∃ last, (more.zipIdx front.length).foldlM (read? (front ++ (more ++ rest))) scan = some last ∧
      last.IsBetween (front ++ more) rest := by
  induction more generalizing scan front with
  | nil => exact ⟨scan, rfl, by rwa [List.append_nil]⟩
  | cons c more ih =>
    obtain ⟨next, hread, hnext⟩ := h.exists_read?
    obtain ⟨last, hrun, hlast⟩ := ih hnext
    have hfront (tail : List Char) : front ++ [c] ++ tail = front ++ c :: tail := by
      rw [List.append_assoc, List.singleton_append]
    rw [hfront, List.length_append, List.length_singleton] at hrun
    rw [hfront] at hlast
    refine ⟨last, ?_, hlast⟩
    rw [List.zipIdx_cons, List.foldlM_cons]
    exact Option.bind_eq_some_iff.2 ⟨next, hread, hrun⟩

end IsBetween

/-- Between any two parts of a text there is a scan. -/
theorem exists_isBetween (front rest : List Char) :
    ∃ scan, front.zipIdx.foldlM (read? (front ++ rest)) start = some scan ∧
      scan.IsBetween front rest :=
  (isBetween_start (front ++ rest)).exists_run

/-- At the end of a text there is a scan that holds its words. -/
theorem exists_isBetween_nil (text : List Char) :
    ∃ scan, text.zipIdx.foldlM (read? text) start = some scan ∧ scan.IsBetween text [] ∧
      splitWordsFrom [] text = scan.finish.ended := by
  obtain ⟨scan, hrun, h⟩ := exists_isBetween text []
  rw [List.append_nil] at hrun
  refine ⟨scan, hrun, h, ?_⟩
  have hwords := h.words_eq
  rwa [List.append_nil, splitWordsFrom, ← finish_ended] at hwords

end Scan

/-- **The pass has a result**, which is the words of the text. -/
theorem wordsByPosition?_eq (text : List Char) :
    wordsByPosition? text = some (splitWordsFrom [] text) := by
  obtain ⟨scan, hrun, -, hwords⟩ := Scan.exists_isBetween_nil text
  rw [wordsByPosition?, hrun, hwords]
  rfl

/-! ## Boundaries -/

/-- No word goes on from the first part of a text to the second. -/
inductive IsBoundary : List Char → List Char → Prop
  /-- Nothing stands in front. -/
  | first (rest : List Char) : IsBoundary [] rest
  /-- Nothing follows. -/
  | last (front : List Char) : IsBoundary front []
  /-- What stands in front is neither letter nor digit. -/
  | behind (front : List Char) (c : Char) (rest : List Char) (hc : isAlphanumeric c = false) :
      IsBoundary (front ++ [c]) rest
  /-- What follows is neither letter nor digit. -/
  | ahead (front : List Char) (c : Char) (rest : List Char) (hc : isAlphanumeric c = false) :
      IsBoundary front (c :: rest)
  /-- A capital follows a small letter or an ASCII digit. -/
  | capital (front : List Char) (before c : Char) (rest : List Char) (hc : isUpper c = true)
      (hbefore : isLower before = true ∨ before.isDigit = true) :
      IsBoundary (front ++ [before]) (c :: rest)
  /-- A capital follows another one, and a small letter comes next. -/
  | lastCapital (front : List Char) (before c after : Char) (rest : List Char)
      (hc : isUpper c = true) (hbefore : isUpper before = true) (hafter : isLower after = true) :
      IsBoundary (front ++ [before]) (c :: after :: rest)

theorem isBoundary_concat_cons_iff {before : Char} (hbefore : isAlphanumeric before = true)
    (hc : isAlphanumeric c = true) :
    IsBoundary (front ++ [before]) (c :: rest) ↔ startsWord before c rest.head? = true := by
  constructor
  · intro h
    generalize hfront : front ++ [before] = read at h
    generalize hrest : c :: rest = following at h
    cases h with
    | first => simp at hfront
    | last => cases hrest
    | behind _ _ _ hother =>
      obtain ⟨-, hlast⟩ := List.append_inj' hfront rfl
      cases hlast
      rw [hbefore] at hother
      cases hother
    | ahead _ _ _ hother =>
      cases hrest
      rw [hc] at hother
      cases hother
    | capital _ _ _ _ hcapital hsmall =>
      obtain ⟨-, hlast⟩ := List.append_inj' hfront rfl
      cases hlast
      cases hrest
      rcases hsmall with hsmall | hsmall <;> simp [startsWord, hcapital, hsmall]
    | lastCapital _ _ _ _ _ hcapital hother hsmall =>
      obtain ⟨-, hlast⟩ := List.append_inj' hfront rfl
      cases hlast
      cases hrest
      simp [startsWord, hcapital, hother, hsmall]
  · intro h
    rw [startsWord, Bool.and_eq_true, Bool.or_eq_true, Bool.or_eq_true, Bool.and_eq_true] at h
    obtain ⟨hcapital, hsmall | ⟨hother, hsmall⟩⟩ := h
    · exact .capital front before c rest hcapital hsmall
    · cases rest with
      | nil => cases hsmall
      | cons after rest => exact .lastCapital front before c after rest hcapital hother hsmall

/-- Some of the words, from the first one on, make up the text. -/
def Ends (words : List (List Char)) (text : List Char) : Prop :=
  ∃ firsts, firsts <+: words ∧ firsts.flatten = text

/-- No word ends within another one. -/
theorem length_of_ends {words others : List (List Char)} {w text : List Char}
    (h : Ends (words ++ w :: others) text) :
    text.length ≤ words.flatten.length ∨ words.flatten.length + w.length ≤ text.length := by
  obtain ⟨firsts, ⟨tail, htail⟩, rfl⟩ := h
  rcases List.append_eq_append_iff.1 htail with ⟨left, hwords, -⟩ | ⟨left, hfirsts, hleft⟩
  · rw [hwords, List.flatten_append, List.length_append]
    exact .inl (Nat.le_add_right _ _)
  · cases left with
    | nil =>
      rw [List.append_nil] at hfirsts
      exact .inl (hfirsts ▸ Nat.le_refl _)
    | cons v left =>
      cases hleft
      rw [hfirsts, List.flatten_append, List.flatten_cons, List.length_append, List.length_append]
      exact .inr (by omega)

namespace Scan.IsBetween

variable {scan : Scan}

/-- At a boundary the word under way has ended. -/
theorem words_of_isBoundary (h : scan.IsBetween front rest) (hboundary : IsBoundary front rest) :
    splitWordsFrom [] (front ++ rest) = scan.finish.ended ++ splitWordsFrom [] rest := by
  rcases List.eq_nil_or_concat' scan.current with hcurrent | ⟨earlier, before, hcurrent⟩
  · exact h.of_current_eq_nil hcurrent
  · have hreverse : scan.current.reverse = before :: earlier.reverse := by
      rw [hcurrent, List.reverse_concat]
    rw [h.words_eq, finish_ended, List.append_assoc, List.append_cancel_left_eq]
    cases rest with
    | nil => simp [splitWordsFrom, finishWord]
    | cons c rest =>
      by_cases hc : isAlphanumeric c = true
      · obtain ⟨hlast, hbefore⟩ := h.of_current_eq_concat hcurrent
        obtain ⟨read, rfl⟩ := List.getLast?_eq_some_iff.1 hlast
        have hstart := (isBoundary_concat_cons_iff hbefore hc).1 hboundary
        rw [hreverse, splitWordsFrom_start hc hstart, splitWordsFrom_first hc]
      · rw [Bool.not_eq_true] at hc
        rw [splitWordsFrom_other hc, splitWordsFrom_other hc]
        rfl

/-- Anywhere else the word under way goes on. -/
theorem words_of_not_isBoundary (h : scan.IsBetween front rest)
    (hboundary : ¬ IsBoundary front rest) : scan.current ≠ [] ∧ ∃ c more others,
      splitWordsFrom [] (front ++ rest) = scan.ended ++ (scan.current ++ c :: more) :: others := by
  cases rest with
  | nil => exact absurd (.last front) hboundary
  | cons c rest =>
    have hc : isAlphanumeric c = true :=
      Bool.not_eq_false _ ▸ fun hc => hboundary (.ahead front c rest hc)
    rcases List.eq_nil_or_concat' scan.current with hcurrent | ⟨earlier, before, hcurrent⟩
    · -- Without a word under way there is nothing in front, or no letter or digit.
      have hlast := h.getLast?_eq
      rw [hcurrent] at hlast
      rcases List.eq_nil_or_concat' front with rfl | ⟨read, d, rfl⟩
      · exact absurd (.first _) hboundary
      · rw [List.getLast?_concat] at hlast
        have hd : isAlphanumeric d = false := by
          simpa using Option.filter_eq_none_iff.1 hlast.symm d rfl
        exact absurd (.behind read d _ hd) hboundary
    · obtain ⟨hlast, hbefore⟩ := h.of_current_eq_concat hcurrent
      obtain ⟨read, rfl⟩ := List.getLast?_eq_some_iff.1 hlast
      rw [isBoundary_concat_cons_iff hbefore hc, Bool.not_eq_true] at hboundary
      obtain ⟨more, others, hsplit⟩ :=
        exists_splitWordsFrom rest (List.cons_ne_nil c (before :: earlier.reverse))
      refine ⟨by simp [hcurrent], c, more, others, ?_⟩
      rw [h.words_eq, hcurrent, List.reverse_concat, splitWordsFrom_more hc hboundary, hsplit]
      simp

/-- A word ends in front of what follows just if that is a boundary. -/
theorem ends_iff (h : scan.IsBetween front rest) :
    Ends (splitWordsFrom [] (front ++ rest)) (front.filter isAlphanumeric)
      ↔ IsBoundary front rest := by
  constructor
  · intro hends
    by_contra hboundary
    obtain ⟨hcurrent, c, more, others, hwords⟩ := h.words_of_not_isBoundary hboundary
    have hpositive : 0 < scan.current.length := List.length_pos_iff.2 hcurrent
    rw [hwords, ← h.flatten_eq] at hends
    have hlength := length_of_ends hends
    rw [List.length_append, List.length_append, List.length_cons] at hlength
    omega
  · intro hboundary
    refine ⟨scan.finish.ended, ?_, ?_⟩
    · rw [h.words_of_isBoundary hboundary]
      exact List.prefix_append _ _
    · rw [flatten_finish, h.flatten_eq]

end Scan.IsBetween

/-! ## Words told by where they end -/

theorem ends_cons_iff {w text : List Char} {words : List (List Char)} :
    Ends (w :: words) text ↔ text = [] ∨ ∃ more, text = w ++ more ∧ Ends words more := by
  constructor
  · rintro ⟨firsts, hprefix, rfl⟩
    cases firsts with
    | nil => exact .inl rfl
    | cons v firsts =>
      obtain ⟨rfl, hfirsts⟩ := List.cons_prefix_cons.1 hprefix
      exact .inr ⟨firsts.flatten, rfl, firsts, hfirsts, rfl⟩
  · rintro (rfl | ⟨more, rfl, firsts, hprefix, rfl⟩)
    · exact ⟨[], List.nil_prefix, rfl⟩
    · exact ⟨w :: firsts, List.cons_prefix_cons.2 ⟨rfl, hprefix⟩, rfl⟩

theorem ends_cons_append_iff {w text : List Char} {words : List (List Char)} (hw : w ≠ []) :
    Ends (w :: words) (w ++ text) ↔ Ends words text := by
  rw [ends_cons_iff, List.append_eq_nil_iff, or_iff_right fun h => hw h.1]
  refine ⟨?_, fun h => ⟨text, rfl, h⟩⟩
  rintro ⟨more, hmore, h⟩
  rwa [List.append_cancel_left hmore]

/-- If the same texts end with words of one list and of another, a word of the first begins with
the first word of the second. -/
theorem exists_cons_of_ends {w : List Char} {words others : List (List Char)} (hw : w ≠ [])
    (h : ∀ text, Ends (w :: words) text → Ends others text) :
    ∃ v more, others = v :: more ∧ v <+: w := by
  have hends : Ends others w := h w (ends_cons_iff.2 (.inr ⟨[], by simp, [], List.nil_prefix, rfl⟩))
  cases others with
  | nil =>
    obtain ⟨firsts, hprefix, rfl⟩ := hends
    rw [List.prefix_nil.1 hprefix] at hw
    exact absurd rfl hw
  | cons v more =>
    obtain ⟨left, rfl, -⟩ := (ends_cons_iff.1 hends).resolve_left hw
    exact ⟨v, more, rfl, List.prefix_append v left⟩

/-- Words that are not empty are told by the texts that end with one of them. -/
theorem eq_of_ends {words others : List (List Char)} (hwords : ∀ w ∈ words, w ≠ [])
    (hothers : ∀ w ∈ others, w ≠ []) (h : ∀ text, Ends words text ↔ Ends others text) :
    words = others := by
  induction words generalizing others with
  | nil =>
    cases others with
    | nil => rfl
    | cons v more =>
      obtain ⟨w, rest, hnil, -⟩ :=
        exists_cons_of_ends (hothers v List.mem_cons_self) fun text => (h text).2
      cases hnil
  | cons w words ih =>
    rw [List.forall_mem_cons] at hwords
    obtain ⟨v, more, rfl, hvw⟩ := exists_cons_of_ends hwords.1 fun text => (h text).1
    rw [List.forall_mem_cons] at hothers
    obtain ⟨w', words', hcons, hwv⟩ := exists_cons_of_ends hothers.1 fun text => (h text).2
    obtain ⟨rfl, rfl⟩ := List.cons.inj hcons
    obtain rfl : v = w := hvw.eq_of_length_le hwv.length_le
    refine congrArg (v :: ·) (ih hwords.2 hothers.2 fun text => ?_)
    rw [← ends_cons_append_iff hwords.1, h, ends_cons_append_iff hwords.1]

/-- The words of a text: its letters and digits, cut at its boundaries and nowhere else. -/
structure AreWordsOf (text : List Char) (words : List (List Char)) : Prop where
  /-- No word is empty. -/
  ne_nil : ∀ w ∈ words, w ≠ []
  /-- The words are the letters and digits of the text. -/
  flatten_eq : words.flatten = text.filter isAlphanumeric
  /-- A word ends somewhere just if that is a boundary. -/
  ends_iff : ∀ front rest, text = front ++ rest →
    (Ends words (front.filter isAlphanumeric) ↔ IsBoundary front rest)

theorem areWordsOf_splitWordsFrom (text : List Char) :
    AreWordsOf text (splitWordsFrom [] text) where
  ne_nil := by
    obtain ⟨scan, -, h, hwords⟩ := Scan.exists_isBetween_nil text
    exact hwords ▸ h.finish_ne_nil
  flatten_eq := by
    obtain ⟨scan, -, h, hwords⟩ := Scan.exists_isBetween_nil text
    rw [hwords, Scan.flatten_finish, h.flatten_eq]
  ends_iff := by
    rintro front rest rfl
    obtain ⟨scan, -, h⟩ := Scan.exists_isBetween front rest
    exact h.ends_iff

namespace AreWordsOf

variable {text : List Char} {words others : List (List Char)}

/-- What ends with a word is what stands in front of a boundary. -/
theorem ends_iff_exists (h : AreWordsOf text words) (letters : List Char) :
    Ends words letters ↔ ∃ front rest, text = front ++ rest ∧
      front.filter isAlphanumeric = letters ∧ IsBoundary front rest := by
  constructor
  · intro hends
    obtain ⟨firsts, ⟨tail, rfl⟩, rfl⟩ := id hends
    have hfilter := h.flatten_eq
    rw [List.flatten_append] at hfilter
    obtain ⟨front, rest, rfl, hfront, -⟩ := List.filter_eq_append_iff.1 hfilter.symm
    refine ⟨front, rest, rfl, hfront, (h.ends_iff front rest rfl).1 ?_⟩
    rwa [hfront]
  · rintro ⟨front, rest, htext, rfl, hboundary⟩
    exact (h.ends_iff front rest htext).2 hboundary

/-- **A text has one list of words.** -/
theorem unique (h : AreWordsOf text words) (hothers : AreWordsOf text others) : words = others :=
  eq_of_ends h.ne_nil hothers.ne_nil fun letters => by
    rw [h.ends_iff_exists, hothers.ends_iff_exists]

end AreWordsOf

end Text
end Ambient
