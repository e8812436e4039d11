import Mathlib.Data.List.Forall2
import Ambient.Signature

/-!
# Lines with comments put in

A description becomes a comment: lines of its own in front of a member, or, in front of an argument
of a listener, a stretch within a line.  A text such as `/**` may stand in a declaration for other
reasons as well, so comments cannot be told from the lines alone.  Here lines are put together from
parts that say what is a comment and what is not.

## What is here

* `Stretch`, `Part` — a stretch of a line, and a line or the comment for a description.
* `CommentedText text bare`, `Commented lines bare` — `text` and `lines` are what becomes of a bare
  line, and of bare lines, when comments are put in.
* `Commented.append`, `CommentedText.intercalate` and so on — how such lines are put together.
-/

set_option autoImplicit false

namespace Ambient

open Signature

/-! ## Within a line -/

/-- A stretch of a line: what stands there in any case, or the comment for a description, with a
margin behind each of its lines. -/
inductive Stretch where
  | text (s : String)
  | comment (margin : String) (description : Option String)

/-- The stretch as it stands in the line. -/
def Stretch.full : Stretch → String
  | text s => s
  | comment margin description => argumentComment margin description

/-- What is left of the stretch without comments. -/
def Stretch.bare : Stretch → String
  | text s => s
  | comment _ _ => ""

/-- The text is the bare one with comments put in. -/
def CommentedText (text bare : String) : Prop :=
  ∃ stretches : List Stretch, text = String.join (stretches.map Stretch.full) ∧
    bare = String.join (stretches.map Stretch.bare)

namespace CommentedText

variable {text bare text2 bare2 : String}

/-- No comment is put in. -/
theorem refl (text : String) : CommentedText text text :=
  ⟨[.text text], by simp [Stretch.full], by simp [Stretch.bare]⟩

theorem append (h : CommentedText text bare) (h2 : CommentedText text2 bare2) :
    CommentedText (text ++ text2) (bare ++ bare2) := by
  obtain ⟨front, rfl, rfl⟩ := h
  obtain ⟨back, rfl, rfl⟩ := h2
  exact ⟨front ++ back, by rw [List.map_append, String.join_append],
    by rw [List.map_append, String.join_append]⟩

/-- A comment is put in front. -/
theorem comment (h : CommentedText text bare) (margin : String) (description : Option String) :
    CommentedText (argumentComment margin description ++ text) bare := by
  obtain ⟨stretches, rfl, rfl⟩ := h
  exact ⟨.comment margin description :: stretches,
    by simp [Stretch.full], by simp [Stretch.bare]⟩

/-- Comments are put into texts that are joined. -/
theorem intercalate (separator : String) {texts bares : List String}
    (h : List.Forall₂ CommentedText texts bares) :
    CommentedText (String.intercalate separator texts) (String.intercalate separator bares) := by
  induction h with
  | nil => exact refl _
  | @cons text bare texts bares hhead htail ih =>
    cases htail with
    | nil => exact hhead
    | cons =>
      rw [String.intercalate_cons_cons, String.intercalate_cons_cons]
      exact (hhead.append (refl separator)).append ih

end CommentedText

/-! ## Lines -/

/-- A line in stretches, or the lines of the comment for a description. -/
inductive Part where
  | line (stretches : List Stretch)
  | comment (description : Option String)

/-- The lines of the part. -/
def Part.full : Part → List String
  | line stretches => [String.join (stretches.map Stretch.full)]
  | comment description => DocComment.ofDescription description

/-- What is left of them without comments. -/
def Part.bare : Part → List String
  | line stretches => [String.join (stretches.map Stretch.bare)]
  | comment _ => []

/-- The lines are the bare ones with comments put in. -/
def Commented (lines bare : List String) : Prop :=
  ∃ parts : List Part, lines = parts.flatMap Part.full ∧ bare = parts.flatMap Part.bare

namespace Commented

variable {lines bare lines2 bare2 : List String}

theorem nil : Commented [] [] := ⟨[], rfl, rfl⟩

/-- Comments are put into a line. -/
theorem line {text bare : String} (h : CommentedText text bare) : Commented [text] [bare] := by
  obtain ⟨stretches, rfl, rfl⟩ := h
  exact ⟨[.line stretches], rfl, rfl⟩

theorem append (h : Commented lines bare) (h2 : Commented lines2 bare2) :
    Commented (lines ++ lines2) (bare ++ bare2) := by
  obtain ⟨front, rfl, rfl⟩ := h
  obtain ⟨back, rfl, rfl⟩ := h2
  exact ⟨front ++ back, List.flatMap_append.symm, List.flatMap_append.symm⟩

/-- A comment is put in front. -/
theorem comment (h : Commented lines bare) (description : Option String) :
    Commented (DocComment.ofDescription description ++ lines) bare := by
  obtain ⟨parts, rfl, rfl⟩ := h
  exact ⟨.comment description :: parts, rfl, rfl⟩

/-- No comment is put in. -/
theorem refl (lines : List String) : Commented lines lines := by
  induction lines with
  | nil => exact nil
  | cons text rest ih => exact (line (.refl text)).append ih

/-- Comments are put into each of several groups of lines. -/
theorem flatten {groups bares : List (List String)} (h : List.Forall₂ Commented groups bares) :
    Commented groups.flatten bares.flatten := by
  induction h with
  | nil => exact nil
  | cons hhead _ ih => exact hhead.append ih

end Commented
end Ambient
