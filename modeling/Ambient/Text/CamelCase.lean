import Ambient.Character.Alphanumeric
import Ambient.Text.Casing

/-!
# Names made of words

Names in the metadata join words in several ways: `did-finish-load`, `WebContents`, `URLRequest`.
A name of an interface is put together from those words, all in one convention.

## What is here

* `splitWords s` — the words of a name.  A word ends where a character is neither letter nor
  digit, and before a capital that starts a new word in the sense of `startsWord`.
* `camelCase s` — the words in small letters, joined, each but the first capitalised.
-/

set_option autoImplicit false

namespace Ambient
namespace Text

open Character

/-! ## Words of a name -/

/-- The character `c` after `before` starts a word of its own: a capital after a small letter or
an ASCII digit, or the last capital of several if a small letter follows. -/
def startsWord (before c : Char) (after : Option Char) : Bool :=
  isUpper c && (isLower before || before.isDigit || (isUpper before && after.any isLower))

/-- The word read so far, which is kept backwards, if there is one. -/
def finishWord (current : List Char) : List (List Char) :=
  if current.isEmpty then [] else [current.reverse]

/-- The words of what follows, when `current` has been read of the word under way. -/
def splitWordsFrom (current : List Char) : List Char → List (List Char)
  | [] => finishWord current
  | c :: rest =>
    if !isAlphanumeric c then finishWord current ++ splitWordsFrom [] rest
    else match current with
      | [] => splitWordsFrom [c] rest
      | before :: earlier =>
        if startsWord before c rest.head? then
          finishWord (before :: earlier) ++ splitWordsFrom [c] rest
        else splitWordsFrom (c :: before :: earlier) rest

/-- The words of a name. -/
def splitWords (s : String) : List String :=
  (splitWordsFrom [] s.toList).map String.ofList

/-! ## The joined form -/

/-- The words in small letters, joined, each but the first capitalised. -/
def camelCase (s : String) : String :=
  match splitWords s with
  | [] => ""
  | first :: rest =>
    String.join (lowercase first :: rest.map fun word => upperFirst (lowercase word))

end Text
end Ambient
