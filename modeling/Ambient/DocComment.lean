import Ambient.Text.Lines

/-!
# Doc comments

A description becomes a comment in front of the declaration that it describes.  Its lines are
filled: as many words as fit into the width stand on a line, each line after a ` * `.

## What is here

* `fill width ws` — words in lines of at most `width` bytes, a word that is longer on a line of its
  own.
* `withoutMarker s` — a text without a leading `(optional)`, which the declaration shows already.
* `DocComment.ofDescription` — the lines of the comment; none for a description without words.
-/

set_option autoImplicit false

namespace Ambient

open Text

/-! ## Filling lines -/

/-- Fills lines with words, when `current` has been filled of the line under way. -/
def fillFrom (width : Nat) (current : String) : List String → List String
  | [] => [current]
  | word :: rest =>
    if current.isEmpty then fillFrom width word rest
    else if current.utf8ByteSize + 1 + word.utf8ByteSize ≤ width then
      fillFrom width (current ++ " " ++ word) rest
    else current :: fillFrom width word rest

/-- Words in lines of at most `width` bytes; one empty line if there are no words. -/
def fill (width : Nat) (ws : List String) : List String := fillFrom width "" ws

/-! ## Comments -/

namespace DocComment

/-- The width of a line in bytes, not counting what stands in front of its words. -/
def width : Nat := 80

/-- What a description starts with if its subject may be left out, in any case of its letters. -/
def marker : List Char := "(optional)".toList

/-- A text without the marker and a dash behind it. -/
def withoutMarker (s : List Char) : List Char :=
  if (s.take marker.length).map Char.toLower = marker then
    match trimStart (s.drop marker.length) with
    | '-' :: ' ' :: rest => rest
    | rest => rest
  else s

/-- A line of a comment. -/
def line (text : String) : String := if text.isEmpty then " *" else " * " ++ text

/-- The words of one line of a description, in lines of a comment. -/
def paragraph (s : List Char) : List String :=
  (fill width ((words s).map String.ofList)).map line

/-- What a description says, without margins and marker. -/
def body (description : String) : List Char := trim (withoutMarker (trim description.toList))

/-- The lines of the comment for a description. -/
def ofText (description : String) : List String :=
  let text := body description
  if text.isEmpty then []
  else ["/**"] ++ (lines text).flatMap paragraph ++ [" */"]

/-- The lines of the comment for a description, if there is one. -/
def ofDescription : Option String → List String
  | none => []
  | some description => ofText description

theorem ofDescription_none : ofDescription none = [] := rfl

end DocComment
end Ambient
