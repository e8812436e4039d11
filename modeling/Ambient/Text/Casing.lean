import Ambient.Character.LetterCase
import Ambient.Character.CaseMap

/-!
# Letter case of whole texts

Names are compared without regard to letter case, and capitalised when they become declarations.
Letter by letter this is `Ambient.Character.lower` and `Ambient.Character.upper`; the one rule
that looks at the neighbours is the small sigma, which is written `ς` at the end of a word.

## What is here

* `lowercase s` — all letters small.
* `upperFirst s` — the first letter in its capital form, the rest untouched.
* `lowercaseAscii s` — the letters from `A` to `Z` small, all else untouched.
-/

set_option autoImplicit false

namespace Ambient
namespace Text

open Character

/-! ## The sigma at the end of a word -/

/-- The next character that a test of letter case does not look through has case. -/
def meetsCased (s : List Char) : Bool :=
  match s.dropWhile isCaseIgnorable with
  | [] => false
  | c :: _ => isCased c

/-- The small sigma between `before`, which is read backwards, and `after`: the final form if a
letter stands before it and none after. -/
def smallSigma (before after : List Char) : Char :=
  if meetsCased before && !meetsCased after then 'ς' else 'σ'

/-- The small forms of the characters that follow `before`, which is read backwards. -/
def lowercaseFrom (before : List Char) : List Char → List Char
  | [] => []
  | c :: rest =>
    (if c = 'Σ' then [smallSigma before rest] else lower c) ++ lowercaseFrom (c :: before) rest

/-! ## Texts -/

/-- All letters small. -/
def lowercase (s : String) : String := String.ofList (lowercaseFrom [] s.toList)

/-- The first letter in its capital form, the rest untouched. -/
def upperFirst (s : String) : String :=
  match s.toList with
  | [] => ""
  | c :: rest => String.ofList (upper c ++ rest)

theorem upperFirst_empty : upperFirst "" = "" := by decide

/-- The letters from `A` to `Z` small, all else untouched. -/
def lowercaseAscii (s : String) : List Char := s.toList.map Char.toLower

end Text
end Ambient
