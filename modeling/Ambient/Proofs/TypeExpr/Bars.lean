import Ambient.Proofs.Text.Words

/-!
# Bars of type expressions

In TypeScript a bar joins the types on either side, unless it stands in a string or between
brackets.  Where it does is seen from the text alone, read from the left: brackets and strings are
opened and closed, and the `>` of an arrow closes nothing.  So a text can be divided at its bare
bars without regard to what its parts are, and where all brackets and strings are closed, a bar
behind it divides it from what follows.

## What is here

* `Nesting` — what is open at some point of a text; `IsClosed s` — nothing is at the end.
* `barParts s` — what stands between the bare bars, without the blanks around it.
* `barParts_trim` — blanks around a text do not count.
* `barParts_append` — **the parts of a text with a bar and another text behind it.**
* `barParts_intercalate` — the same for any number of texts.
-/

set_option autoImplicit false

namespace Ambient

open Text Character

/-! ## What is open -/

/-- What is open at some point of a text. -/
structure Nesting where
  /-- The characters that close the brackets and strings that are open, the innermost first. -/
  closers : List Char
  /-- The character in front, as long as it matters: a backslash in a string, the first character
  of an arrow, or the one that puts a type into a template. -/
  before : Char

namespace Nesting

/-- Nothing is open. -/
def bare : Nesting := ⟨[], ' '⟩

/-- The character that closes what is opened, be it a bracket or a string. -/
def closer? : Char → Option Char
  | '(' => some ')'
  | '[' => some ']'
  | '{' => some '}'
  | '<' => some '>'
  | '\'' => some '\''
  | '"' => some '"'
  | '`' => some '`'
  | _ => none

/-- The character stands around strings and templates. -/
def isQuote (c : Char) : Bool := c == '\'' || c == '"' || c == '`'

/-- Behind a character of a string that is closed by `quote`. -/
def stepQuoted (quote : Char) (outer : List Char) (before c : Char) : Nesting :=
  if before = '\\' then ⟨quote :: outer, ' '⟩
  else if c = quote then ⟨outer, c⟩
  else if quote = '`' ∧ before = '$' ∧ c = '{' then ⟨'}' :: quote :: outer, c⟩
  else ⟨quote :: outer, c⟩

/-- Behind a character outside of strings. -/
def stepPlain (closers : List Char) (before c : Char) : Nesting :=
  if closers.head? = some c ∧ ¬ (before = '=' ∧ c = '>') then ⟨closers.tail, c⟩
  else ⟨(closer? c).toList ++ closers, c⟩

/-- What is open behind one more character. -/
def step (n : Nesting) (c : Char) : Nesting :=
  match n.closers with
  | [] => stepPlain [] n.before c
  | closer :: outer =>
    if isQuote closer then stepQuoted closer outer n.before c
    else stepPlain (closer :: outer) n.before c

end Nesting

/-- All brackets and strings are closed at the end of the text. -/
def IsClosed (s : List Char) : Prop := (s.foldl Nesting.step Nesting.bare).closers = []

instance (s : List Char) : Decidable (IsClosed s) := inferInstanceAs (Decidable (_ = _))

/-! ## Parts -/

/-- What stands between the bare bars of what follows, when `current` has been read of the first
part, which is kept backwards. -/
def barPartsFrom (n : Nesting) (current : List Char) : List Char → List (List Char)
  | [] => [trim current.reverse]
  | c :: rest =>
    if n.closers = [] ∧ c = '|' then trim current.reverse :: barPartsFrom Nesting.bare [] rest
    else barPartsFrom (n.step c) (c :: current) rest

/-- What stands between the bare bars of a text, without the blanks around it. -/
def barParts (s : List Char) : List (List Char) := barPartsFrom Nesting.bare [] s

example : (barParts "(a: A | B) => C<() => X> | 'x|y' | `${A | B}|`".toList).map String.ofList =
    ["(a: A | B) => C<() => X>", "'x|y'", "`${A | B}|`"] := by
  decide +kernel

section

variable {s t current : List Char} {n : Nesting} {c : Char}

theorem Nesting.step_of_closers_eq_nil (h : n.closers = []) (c : Char) :
    n.step c = ⟨(closer? c).toList, c⟩ := by
  rw [step, h, stepPlain, if_neg (by simp), List.append_nil]

/-- Where nothing is open, it does not matter what stands in front. -/
theorem closers_foldl_step (h : n.closers = []) (s : List Char) :
    (s.foldl Nesting.step n).closers = (s.foldl Nesting.step Nesting.bare).closers := by
  cases s with
  | nil => exact h
  | cons c rest =>
    rw [List.foldl_cons, List.foldl_cons, Nesting.step_of_closers_eq_nil h,
      Nesting.step_of_closers_eq_nil rfl]

theorem barPartsFrom_of_closers_eq_nil (h : n.closers = []) (current s : List Char) :
    barPartsFrom n current s = barPartsFrom Nesting.bare current s := by
  cases s with
  | nil => rfl
  | cons c rest =>
    rw [barPartsFrom, barPartsFrom, h, Nesting.step_of_closers_eq_nil h,
      Nesting.step_of_closers_eq_nil rfl]
    rfl

/-- The parts of what follows a text, up to a bare bar, are parts of their own. -/
theorem barPartsFrom_append_bar (h : (s.foldl Nesting.step n).closers = []) (t : List Char) :
    barPartsFrom n current (s ++ '|' :: t) = barPartsFrom n current s ++ barParts t := by
  induction s generalizing n current with
  | nil =>
    rw [List.foldl_nil] at h
    rw [List.nil_append, barPartsFrom, barPartsFrom, if_pos ⟨h, rfl⟩]
    rfl
  | cons c rest ih =>
    rw [List.foldl_cons] at h
    rw [List.cons_append, barPartsFrom, barPartsFrom]
    split
    · rename_i hbar
      rw [Nesting.step_of_closers_eq_nil hbar.1, hbar.2, closers_foldl_step rfl] at h
      rw [ih h, List.cons_append]
    · exact ih h

/-- Blanks in front of a part do not count. -/
theorem barPartsFrom_concat_blank (hc : isBlank c = true) (n : Nesting) (current s : List Char) :
    barPartsFrom n (current ++ [c]) s = barPartsFrom n current s := by
  induction s generalizing n current with
  | nil =>
    rw [barPartsFrom, barPartsFrom, List.reverse_append, List.reverse_singleton,
      List.singleton_append, trim_cons_blank hc]
  | cons d rest ih =>
    rw [barPartsFrom, barPartsFrom, List.reverse_append, List.reverse_singleton,
      List.singleton_append, trim_cons_blank hc]
    split
    · rfl
    · exact ih (n.step d) (d :: current)

/-- No blank opens or closes anything. -/
theorem Nesting.closer?_of_isBlank (hc : isBlank c = true) : closer? c = none := by
  unfold closer?
  split <;> first | rfl | exact absurd hc (by decide)

theorem barParts_cons_blank (hc : isBlank c = true) (s : List Char) :
    barParts (c :: s) = barParts s := by
  have hbar : ¬ c = '|' := by
    rintro rfl
    exact absurd hc (by decide)
  rw [barParts, barPartsFrom, if_neg (fun h => hbar h.2), Nesting.step_of_closers_eq_nil rfl,
    Nesting.closer?_of_isBlank hc]
  exact (barPartsFrom_of_closers_eq_nil rfl _ _).trans (barPartsFrom_concat_blank hc _ [] s)

/-- Blanks behind a part do not count. -/
theorem barPartsFrom_append_blank (hc : isBlank c = true) (n : Nesting) (current s : List Char) :
    barPartsFrom n current (s ++ [c]) = barPartsFrom n current s := by
  induction s generalizing n current with
  | nil =>
    have hbar : ¬ c = '|' := by
      rintro rfl
      exact absurd hc (by decide)
    rw [List.nil_append, barPartsFrom, barPartsFrom, if_neg (fun h => hbar h.2), barPartsFrom,
      List.reverse_cons, trim_concat_blank hc]
  | cons d rest ih =>
    rw [List.cons_append, barPartsFrom, barPartsFrom, ih, ih]

/-- **The blanks around a text do not count.** -/
theorem barParts_trim (s : List Char) : barParts (trim s) = barParts s :=
  trim_induction (P := fun t => barParts t = barParts s)
    (fun _ t hc h => (barParts_cons_blank hc t).symm.trans h)
    (fun _ t hc h => (barPartsFrom_append_blank hc _ _ t).symm.trans h) rfl

theorem barParts_ne_nil (s : List Char) : barParts s ≠ [] := by
  have hfrom (n : Nesting) (current s : List Char) : barPartsFrom n current s ≠ [] := by
    induction s generalizing n current with
    | nil => exact List.cons_ne_nil _ _
    | cons c rest ih =>
      rw [barPartsFrom]
      split
      · exact List.cons_ne_nil _ _
      · exact ih _ _
  exact hfrom _ _ _

theorem IsClosed.append (hs : IsClosed s) (ht : IsClosed t) : IsClosed (s ++ t) := by
  rw [IsClosed, List.foldl_append, closers_foldl_step hs]
  exact ht

/-- **The parts of a text with a bar and another text behind it** are those of both. -/
theorem barParts_append (h : IsClosed s) (t : List Char) :
    barParts (s ++ ' ' :: '|' :: ' ' :: t) = barParts s ++ barParts t := by
  have htext : s ++ ' ' :: '|' :: ' ' :: t = (s ++ [' ']) ++ '|' :: ' ' :: t := by simp
  have hclosed : IsClosed (s ++ [' ']) := h.append (by decide)
  rw [htext, barParts, barPartsFrom_append_bar hclosed, barPartsFrom_append_blank (by decide),
    barParts_cons_blank (by decide)]
  rfl

end

/-! ## Joined texts -/

theorem IsClosed.intercalate {texts : List (List Char)} (h : ∀ s ∈ texts, IsClosed s) :
    IsClosed (" | ".toList.intercalate texts) := by
  induction texts with
  | nil => exact (by decide : IsClosed [])
  | cons s rest ih =>
    rw [List.forall_mem_cons] at h
    cases rest with
    | nil =>
      rw [List.intercalate_singleton]
      exact h.1
    | cons t more =>
      exact h.1.append ((by decide : IsClosed " | ".toList).append (ih h.2))

/-- **The parts of joined texts** are those of each of them. -/
theorem barParts_intercalate {texts : List (List Char)} (hne : texts ≠ [])
    (h : ∀ s ∈ texts, IsClosed s) :
    barParts (" | ".toList.intercalate texts) = texts.flatMap barParts := by
  induction texts with
  | nil => exact absurd rfl hne
  | cons s rest ih =>
    rw [List.forall_mem_cons] at h
    cases rest with
    | nil => rw [List.intercalate_singleton, List.flatMap_singleton]
    | cons t more =>
      rw [List.flatMap_cons, ← ih (List.cons_ne_nil _ _) h.2, ← barParts_append h.1]
      rfl

end Ambient
