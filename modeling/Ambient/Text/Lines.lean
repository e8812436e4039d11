import Ambient.Character.Blank

/-!
# Lines, words and margins of a text

Texts are cut at line feeds and at blanks.  All functions here work on the list of characters of
a text, so that what they keep and what they drop can be read off list lemmas.

## What is here

* `trimStart`, `trimEnd`, `trim` — a text without the blanks at its margins.
* `words s` — the maximal runs of characters that are no blanks, in order.
* `lines s` — the lines of a text.  A line ends at a line feed, or at a carriage return and a line
  feed; what follows the last line feed is a line of its own unless it is empty.
* `occursIn part s` — `part` stands somewhere in `s`.
-/

set_option autoImplicit false

namespace Ambient
namespace Text

open Character

/-! ## Margins -/

/-- Without the blanks in front. -/
def trimStart (s : List Char) : List Char := s.dropWhile isBlank

/-- Without the blanks at the end. -/
def trimEnd (s : List Char) : List Char := (s.reverse.dropWhile isBlank).reverse

/-- Without the blanks at either end. -/
def trim (s : List Char) : List Char := trimEnd (trimStart s)

/-! ## Words -/

/-- The maximal runs of characters that are no blanks. -/
def words (s : List Char) : List (List Char) := (s.splitOnP isBlank).filter (!·.isEmpty)

/-- No word is empty. -/
theorem ne_nil_of_mem_words {s w : List Char} (h : w ∈ words s) : w ≠ [] := by
  have h2 := (List.mem_filter.1 h).2
  simpa using h2

/-! ## Lines -/

/-- Without one carriage return at the end. -/
def dropReturn (s : List Char) : List Char :=
  if s.getLast? = some '\r' then s.dropLast else s

/-- The lines of a text, without their ends. -/
def lines (s : List Char) : List (List Char) :=
  let parts := s.splitOn '\n'
  parts.dropLast.map dropReturn ++ parts.getLast?.toList.filter (!·.isEmpty)

/-! ## Occurrence -/

/-- The characters of `part` stand somewhere in a row. -/
def occursIn (part : List Char) : List Char → Bool
  | [] => part.isEmpty
  | c :: rest => part.isPrefixOf (c :: rest) || occursIn part rest

/-- What occurs in a text is a stretch of it. -/
theorem occursIn_iff {part s : List Char} : occursIn part s = true ↔ part <:+: s := by
  induction s with
  | nil => simp [occursIn]
  | cons c rest ih =>
    rw [occursIn, Bool.or_eq_true, ih, List.isPrefixOf_iff_prefix, List.infix_cons_iff]

end Text
end Ambient
