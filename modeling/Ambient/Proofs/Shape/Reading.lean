import Mathlib.Data.List.Basic

/-!
# Reading bracketed texts

Keys and types are put together from names, quoted strings, brackets and separators.  Reading one
from the left, a piece ends at the first separator or closing bracket that stands outside all
brackets and quotes.  A text in which no piece ends is level: whatever stands behind it, it is
passed over, and so two level texts in front of ends of pieces are told apart by what they are
joined to.

## What is here

* `cut` — what stands in front of the first end of a piece.
* `Level`, `Inner` — texts that are passed over everywhere, and within brackets.
* `eq_of_append_eq` — a level text in front of an end is determined by the whole.
* `eq_of_joined_eq` — so are level texts with separators between them or behind them.
-/

set_option autoImplicit false

namespace Ambient
namespace Reading

/-! ## Where a piece ends -/

/-- The character opens a bracket. -/
def isOpening (c : Char) : Bool := c == '{' || c == '('

/-- The character closes a bracket. -/
def isClosing (c : Char) : Bool := c == '}' || c == ')'

/-- The character stands between pieces. -/
def isSeparator (c : Char) : Bool := c == ';' || c == ','

/-- The character has no part in dividing a text. -/
def isPlain (c : Char) : Bool :=
  c != '\'' && !isOpening c && !isClosing c && !isSeparator c

/-- What stands in front of the first end of a piece, within so many brackets and perhaps within
quotes. -/
def cut : Nat → Bool → List Char → List Char
  | _, _, [] => []
  | depth, true, c :: rest => c :: cut depth (c != '\'') rest
  | depth, false, c :: rest =>
    if c = '\'' then c :: cut depth true rest
    else if isOpening c then c :: cut (depth + 1) false rest
    else if isClosing c then if depth = 0 then [] else c :: cut (depth - 1) false rest
    else if isSeparator c && depth == 0 then []
    else c :: cut depth false rest

/-- A piece ends here: there is nothing more, or a separator or a closing bracket. -/
def AtEnd (s : List Char) : Prop :=
  ∀ c rest, s = c :: rest → isSeparator c = true ∨ isClosing c = true

theorem atEnd_cons {c : Char} (h : (isSeparator c || isClosing c) = true) (rest : List Char) :
    AtEnd (c :: rest) := by
  intro d more hcons
  obtain ⟨rfl, -⟩ := List.cons.inj hcons
  rwa [Bool.or_eq_true] at h

theorem cut_of_atEnd {s : List Char} (h : AtEnd s) : cut 0 false s = [] := by
  cases s with
  | nil => rfl
  | cons c rest =>
    have hquote : c ≠ '\'' := by
      rintro rfl
      exact absurd (h _ _ rfl) (by decide)
    have hopen : isOpening c = false := by
      cases hc : isOpening c with
      | false => rfl
      | true =>
        rw [isOpening, Bool.or_eq_true, beq_iff_eq, beq_iff_eq] at hc
        rcases hc with rfl | rfl <;> exact absurd (h _ _ rfl) (by decide)
    rw [cut, if_neg hquote, hopen]
    rcases h c rest rfl with hsep | hclose
    · rw [hsep]
      cases isClosing c <;> rfl
    · rw [hclose]
      rfl

/-! ## Level texts -/

/-- The text is passed over everywhere outside quotes. -/
def Level (u : List Char) : Prop :=
  ∀ depth s, cut depth false (u ++ s) = u ++ cut depth false s

/-- The text is passed over within brackets. -/
def Inner (u : List Char) : Prop :=
  ∀ depth s, cut (depth + 1) false (u ++ s) = u ++ cut (depth + 1) false s

theorem Level.inner {u : List Char} (h : Level u) : Inner u := fun depth s => h (depth + 1) s

theorem level_nil : Level [] := fun _ _ => rfl

theorem inner_nil : Inner [] := fun _ _ => rfl

theorem Level.append {u v : List Char} (hu : Level u) (hv : Level v) : Level (u ++ v) := by
  intro depth s
  rw [List.append_assoc, hu, hv, List.append_assoc]

theorem Inner.append {u v : List Char} (hu : Inner u) (hv : Inner v) : Inner (u ++ v) := by
  intro depth s
  rw [List.append_assoc, hu, hv, List.append_assoc]

theorem level_of_isPlain {u : List Char} (h : u.all isPlain = true) : Level u := by
  induction u with
  | nil => exact level_nil
  | cons c rest ih =>
    intro depth s
    rw [List.all_cons, Bool.and_eq_true] at h
    have hc := h.1
    simp only [isPlain, Bool.and_eq_true, Bool.not_eq_true', bne_iff_ne, ne_eq] at hc
    obtain ⟨⟨⟨hquote, hopen⟩, hclose⟩, hsep⟩ := hc
    rw [List.cons_append, cut, if_neg hquote, hopen, hclose, hsep]
    simp only [Bool.false_eq_true, if_false, Bool.false_and]
    rw [ih h.2, List.cons_append]

/-- Within brackets a separator is passed over. -/
theorem inner_of_isSeparator {c : Char} (h : isSeparator c = true) : Inner [c] := by
  intro depth s
  rw [isSeparator, Bool.or_eq_true, beq_iff_eq, beq_iff_eq] at h
  rcases h with rfl | rfl <;> rfl

theorem Level.intercalate {sep : List Char} {us : List (List Char)} (hsep : Level sep)
    (h : ∀ u ∈ us, Level u) : Level (sep.intercalate us) := by
  induction us with
  | nil => exact level_nil
  | cons u rest ih =>
    have hu := h u (by simp)
    have hrest := ih fun v hv => h v (List.mem_cons_of_mem _ hv)
    cases rest with
    | nil =>
      rw [List.intercalate_singleton]
      exact hu
    | cons v more =>
      rw [List.intercalate_cons_cons]
      exact (hu.append hsep).append hrest

theorem Inner.intercalate {sep : List Char} {us : List (List Char)} (hsep : Inner sep)
    (h : ∀ u ∈ us, Inner u) : Inner (sep.intercalate us) := by
  induction us with
  | nil => exact inner_nil
  | cons u rest ih =>
    have hu := h u (by simp)
    have hrest := ih fun v hv => h v (List.mem_cons_of_mem _ hv)
    cases rest with
    | nil =>
      rw [List.intercalate_singleton]
      exact hu
    | cons v more =>
      rw [List.intercalate_cons_cons]
      exact (hu.append hsep).append hrest

theorem Inner.flatMap {α : Type} {f : α → List Char} {xs : List α} (h : ∀ x ∈ xs, Inner (f x)) :
    Inner (xs.flatMap f) := by
  induction xs with
  | nil => exact inner_nil
  | cons x rest ih =>
    rw [List.flatMap_cons]
    exact (h x (by simp)).append (ih fun y hy => h y (List.mem_cons_of_mem _ hy))

/-- Within quotes everything is passed over but a quote. -/
theorem cut_quoted {v : List Char} (h : '\'' ∉ v) (depth : Nat) (s : List Char) :
    cut depth true (v ++ s) = v ++ cut depth true s := by
  induction v with
  | nil => rfl
  | cons c rest ih =>
    rw [List.mem_cons, not_or] at h
    have hc : (c != '\'') = true := bne_iff_ne.2 fun heq => h.1 heq.symm
    rw [List.cons_append, cut, hc, ih h.2, List.cons_append]

/-- A quoted string is level. -/
theorem level_quoted {v : List Char} (h : '\'' ∉ v) : Level ('\'' :: (v ++ ['\''])) := by
  intro depth s
  rw [List.cons_append, List.append_assoc, cut, if_pos rfl, cut_quoted h]
  show '\'' :: (v ++ '\'' :: cut depth false s) = _
  simp

/-- A text between brackets is level if it is passed over within brackets. -/
theorem level_bracketed {u : List Char} (h : Inner u) {opening closing : Char}
    (hopen : isOpening opening = true) (hclose : isClosing closing = true) :
    Level (opening :: (u ++ [closing])) := by
  intro depth s
  have hquote : opening ≠ '\'' := by
    rintro rfl
    exact absurd hopen (by decide)
  have hquote2 : closing ≠ '\'' := by
    rintro rfl
    exact absurd hclose (by decide)
  have hopen2 : isOpening closing = false := by
    rw [isClosing, Bool.or_eq_true, beq_iff_eq, beq_iff_eq] at hclose
    rcases hclose with rfl | rfl <;> rfl
  rw [List.cons_append, List.append_assoc, cut, if_neg hquote, if_pos hopen, h,
    List.singleton_append, cut, if_neg hquote2, hopen2, hclose]
  simp

/-! ## Telling texts apart -/

variable {u v s t : List Char}

theorem cut_append (hu : Level u) (hs : AtEnd s) : cut 0 false (u ++ s) = u := by
  rw [hu, cut_of_atEnd hs, List.append_nil]

/-- **A level text in front of an end is determined by the whole.** -/
theorem eq_of_append_eq (hu : Level u) (hv : Level v) (hs : AtEnd s) (ht : AtEnd t)
    (h : u ++ s = v ++ t) : u = v ∧ s = t := by
  have huv : u = v := by rw [← cut_append hu hs, h, cut_append hv ht]
  subst huv
  exact ⟨rfl, List.append_cancel_left h⟩

/-! ### Several texts -/

/-- Texts with a separator between them. -/
theorem intercalate_cons_eq {α : Type} (c : α) (u : List α) (us : List (List α)) :
    [c].intercalate (u :: us) = u ++ us.flatMap (c :: ·) := by
  induction us generalizing u with
  | nil => simp
  | cons v rest ih =>
    rw [List.intercalate_cons_cons, ih, List.flatMap_cons]
    simp

/-- What stands in joined texts stands in one of them, or between them. -/
theorem mem_of_mem_intercalate {sep : List Char} {us : List (List Char)} {c : Char}
    (hc : c ∈ sep.intercalate us) : c ∈ sep ∨ ∃ u ∈ us, c ∈ u := by
  induction us with
  | nil => cases hc
  | cons u rest ih =>
    cases rest with
    | nil => exact Or.inr ⟨u, by simp, by simpa using hc⟩
    | cons v more =>
      rw [List.intercalate_cons_cons, List.mem_append, List.mem_append] at hc
      rcases hc with (hc | hc) | hc
      · exact Or.inr ⟨u, by simp, hc⟩
      · exact Or.inl hc
      · rcases ih hc with hsep | ⟨w, hw, hcw⟩
        · exact Or.inl hsep
        · exact Or.inr ⟨w, List.mem_cons_of_mem _ hw, hcw⟩

/-- A text between others that are joined stands in a frame. -/
theorem exists_frame_of_intercalate (sep : List Char) (front back : List (List Char)) :
    ∃ before behind, ∀ u, sep.intercalate (front ++ u :: back) = before ++ (u ++ behind) := by
  induction front with
  | nil =>
    cases back with
    | nil => exact ⟨[], [], fun u => by simp⟩
    | cons v rest =>
      exact ⟨[], sep ++ sep.intercalate (v :: rest), fun u => by
        rw [List.nil_append, List.intercalate_cons_cons]
        simp⟩
  | cons w rest ih =>
    obtain ⟨before, behind, h⟩ := ih
    refine ⟨w ++ sep ++ before, behind, fun u => ?_⟩
    rw [List.cons_append, List.intercalate_cons_of_ne_nil (by simp), h]
    simp

/-- What stands in one of several texts stands in all of them joined. -/
theorem mem_intercalate_of_mem (sep : List Char) {us : List (List Char)} {u : List Char} {c : Char}
    (hu : u ∈ us) (hc : c ∈ u) : c ∈ sep.intercalate us := by
  obtain ⟨front, back, rfl⟩ := List.append_of_mem hu
  obtain ⟨before, behind, h⟩ := exists_frame_of_intercalate sep front back
  rw [h]
  simp [hc]

/-- In front of the last of several texts stand the others, with a separator behind each. -/
theorem intercalate_concat (sep : List Char) (us : List (List Char)) (v : List Char) :
    sep.intercalate (us ++ [v]) = us.flatMap (· ++ sep) ++ v := by
  induction us with
  | nil => simp
  | cons u rest ih =>
    rw [List.cons_append, List.intercalate_cons_of_ne_nil (by simp), ih, List.flatMap_cons]
    simp

variable {c closing : Char} {us vs : List (List Char)}

/-- Texts with a separator in front of each are determined up to the closing bracket. -/
theorem eq_of_separated_eq (hc : isSeparator c = true) (hclose : isClosing closing = true)
    (hus : ∀ u ∈ us, Level u) (hvs : ∀ v ∈ vs, Level v)
    (h : us.flatMap (c :: ·) ++ closing :: s = vs.flatMap (c :: ·) ++ closing :: t) :
    us = vs ∧ s = t := by
  have hne : c ≠ closing := by
    rintro rfl
    rw [isSeparator, Bool.or_eq_true, beq_iff_eq, beq_iff_eq] at hc
    rcases hc with rfl | rfl <;> exact absurd hclose (by decide)
  -- Behind a text stands a separator or the closing bracket.
  have hend : ∀ (ws : List (List Char)) (r : List Char),
      AtEnd (ws.flatMap (c :: ·) ++ closing :: r) := by
    intro ws r
    cases ws with
    | nil => exact atEnd_cons (by rw [hclose, Bool.or_true]) r
    | cons w rest => exact atEnd_cons (by rw [hc, Bool.true_or]) _
  induction us generalizing vs with
  | nil =>
    cases vs with
    | nil => exact ⟨rfl, (List.cons.inj h).2⟩
    | cons v rest => exact absurd (List.cons.inj h).1.symm hne
  | cons u rest ih =>
    cases vs with
    | nil => exact absurd (List.cons.inj h).1 hne
    | cons v more =>
      rw [List.flatMap_cons, List.flatMap_cons, List.append_assoc, List.append_assoc] at h
      obtain ⟨rfl, h2⟩ := eq_of_append_eq (hus u (by simp)) (hvs v (by simp)) (hend rest s)
        (hend more t) (List.cons.inj h).2
      obtain ⟨rfl, rfl⟩ := ih (fun w hw => hus w (List.mem_cons_of_mem _ hw))
        (fun w hw => hvs w (List.mem_cons_of_mem _ hw)) h2
      exact ⟨rfl, rfl⟩

/-- **Texts with separators between them are determined** up to the closing bracket, if none of
them is empty. -/
theorem eq_of_joined_eq (hc : isSeparator c = true) (hclose : isClosing closing = true)
    (hus : ∀ u ∈ us, Level u ∧ u ≠ []) (hvs : ∀ v ∈ vs, Level v ∧ v ≠ [])
    (h : [c].intercalate us ++ closing :: s = [c].intercalate vs ++ closing :: t) :
    us = vs ∧ s = t := by
  -- A bracket that closes at once leaves no room for a text.
  have hempty : ∀ (w : List Char) (ws : List (List Char)) (r r2 : List Char), Level w → w ≠ [] →
      closing :: r ≠ [c].intercalate (w :: ws) ++ closing :: r2 := by
    intro w ws r r2 hw hne heq
    rw [intercalate_cons_eq, List.append_assoc] at heq
    have hcut := cut_of_atEnd (atEnd_cons (c := closing) (by rw [hclose, Bool.or_true]) r)
    rw [heq, hw] at hcut
    exact hne (List.append_eq_nil_iff.1 hcut).1
  cases us with
  | nil =>
    cases vs with
    | nil => exact ⟨rfl, (List.cons.inj h).2⟩
    | cons v more =>
      exact absurd h (hempty v more s t (hvs v (by simp)).1 (hvs v (by simp)).2)
  | cons u rest =>
    cases vs with
    | nil => exact absurd h.symm (hempty u rest t s (hus u (by simp)).1 (hus u (by simp)).2)
    | cons v more =>
      -- The separator in front of the first text is put in on both sides.
      have h2 : (u :: rest).flatMap (c :: ·) ++ closing :: s
          = (v :: more).flatMap (c :: ·) ++ closing :: t := by
        rw [intercalate_cons_eq, intercalate_cons_eq] at h
        simpa using h
      exact eq_of_separated_eq hc hclose (fun w hw => (hus w hw).1) (fun w hw => (hvs w hw).1) h2

/-- Texts with a separator behind each are determined up to the closing bracket. -/
theorem eq_of_terminated_eq (hc : isSeparator c = true) (hclose : isClosing closing = true)
    (hus : ∀ u ∈ us, ∃ w, u = w ++ [c] ∧ Level w) (hvs : ∀ v ∈ vs, ∃ w, v = w ++ [c] ∧ Level w)
    (h : us.flatten ++ closing :: s = vs.flatten ++ closing :: t) : us = vs := by
  have hne : closing ≠ c := by
    rintro rfl
    rw [isSeparator, Bool.or_eq_true, beq_iff_eq, beq_iff_eq] at hc
    rcases hc with rfl | rfl <;> exact absurd hclose (by decide)
  have hsep : ∀ r, AtEnd (c :: r) := atEnd_cons (by rw [hc, Bool.true_or])
  have hend : ∀ r, AtEnd (closing :: r) := atEnd_cons (by rw [hclose, Bool.or_true])
  -- A closing bracket is not the end of a text.
  have hempty : ∀ (w r r2 : List Char), Level w → closing :: r ≠ w ++ c :: r2 := by
    intro w r r2 hw heq
    obtain ⟨-, hcons⟩ := eq_of_append_eq level_nil hw (hend r) (hsep r2) heq
    exact hne (List.cons.inj hcons).1
  induction us generalizing vs with
  | nil =>
    cases vs with
    | nil => rfl
    | cons v more =>
      obtain ⟨w, rfl, hw⟩ := hvs v (by simp)
      exact absurd (by simpa using h) (hempty w s (more.flatten ++ closing :: t) hw)
  | cons u rest ih =>
    obtain ⟨w, rfl, hw⟩ := hus u (by simp)
    cases vs with
    | nil => exact absurd (by simpa using h.symm) (hempty w t (rest.flatten ++ closing :: s) hw)
    | cons v more =>
      obtain ⟨w2, rfl, hw2⟩ := hvs v (by simp)
      simp only [List.flatten_cons, List.append_assoc, List.singleton_append] at h
      obtain ⟨rfl, hrest⟩ := eq_of_append_eq hw hw2 (hsep _) (hsep _) h
      rw [ih (fun x hx => hus x (List.mem_cons_of_mem _ hx))
        (fun x hx => hvs x (List.mem_cons_of_mem _ hx)) (List.cons.inj hrest).2]

end Reading
end Ambient
