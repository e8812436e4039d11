import Ambient.Json.Numeral
import Ambient.Json.StringLiteral

/-!
# Tokens of JSON

A text is first cut into tokens: brackets, separators, strings, and the values that have no parts.
A token that starts well and then goes wrong is the last one; whether its flaw is the one to report
depends on what the grammar expects at its place.

## What is here

* `Token` — a kind of token and the byte at which it starts.
* `Token.readAt` — the token at a character that is no blank.
* `tokens s` — all tokens of a text.
-/

set_option autoImplicit false

namespace Ambient
namespace Json

/-! ## Kinds -/

/-- What a token is. -/
inductive Token.Kind where
  | openArray
  | closeArray
  | openObject
  | closeObject
  | comma
  | colon
  | string (value : String)
  | scalar (value : Json)
  /-- A string without a proper end. -/
  | brokenString (found : Found)
  /-- A number or a word that is none. -/
  | brokenScalar (found : Found)
  /-- A character that starts no token. -/
  | unknown
deriving Repr

/-- A token and the byte at which it starts. -/
structure Token where
  start : Nat
  kind : Token.Kind
deriving Repr

namespace Token

/-! ## One token -/

/-- What is left of a text behind a token: the byte offset and the characters. -/
structure Remainder where
  offset : Nat
  rest : List Char

/-- Compares what follows with the rest of a word. -/
def readWord (read : Nat) : List Char → List Char → Except Found Unit
  | [], _ => .ok ()
  | _ :: _, [] => .error ⟨.unfinishedValue, read⟩
  | e :: expected, c :: rest =>
    if c = e then readWord (read + 1) expected rest else .error ⟨.wordExpected, read + 1⟩

/-- The word that starts at byte `offset` and goes on with `expected`. -/
def word (offset : Nat) (expected rest : List Char) (value : Json) : Kind × Option Remainder :=
  match readWord (offset + 1) expected rest with
  | .ok () =>
    (.scalar value, some ⟨offset + 1 + expected.length, rest.drop expected.length⟩)
  | .error found => (.brokenScalar found, none)

/-- The number whose digits start at byte `offset` with `s`.  Behind the character that the token
starts with stands `rest`, which has lost `ahead` characters of `s`. -/
def numeral (negative : Bool) (offset : Nat) (s : List Char) (ahead : Nat) (rest : List Char) :
    Kind × Option Remainder :=
  match readNumeral negative s with
  | .ok (n, read) => (.scalar (.number n), some ⟨offset + read, rest.drop (read - ahead)⟩)
  | .error found => (.brokenScalar (found.after offset), none)

/-- The token that starts with the character `c` at byte `offset`. -/
def readAt (offset : Nat) (c : Char) (rest : List Char) : Kind × Option Remainder :=
  match c with
  | '[' => (.openArray, some ⟨offset + 1, rest⟩)
  | ']' => (.closeArray, some ⟨offset + 1, rest⟩)
  | '{' => (.openObject, some ⟨offset + 1, rest⟩)
  | '}' => (.closeObject, some ⟨offset + 1, rest⟩)
  | ',' => (.comma, some ⟨offset + 1, rest⟩)
  | ':' => (.colon, some ⟨offset + 1, rest⟩)
  | 'n' => word offset ['u', 'l', 'l'] rest .null
  | 't' => word offset ['r', 'u', 'e'] rest (.bool true)
  | 'f' => word offset ['a', 'l', 's', 'e'] rest (.bool false)
  | '-' => numeral true (offset + 1) rest 0 rest
  | '"' =>
    match readString [] (offset + 1) rest with
    | .ok r => (.string r.value, some ⟨r.offset, r.rest⟩)
    | .error found => (.brokenString found, none)
  | c => if c.isDigit then numeral false offset (c :: rest) 1 rest else (.unknown, none)

theorem length_rest_word {offset : Nat} {expected rest : List Char} {value : Json} {r : Remainder}
    (h : (word offset expected rest value).2 = some r) : r.rest.length ≤ rest.length := by
  unfold word at h
  split at h
  · simp only [Option.some.injEq] at h
    subst h
    simp
  · simp at h

theorem length_rest_numeral {negative : Bool} {offset ahead : Nat} {s rest : List Char}
    {r : Remainder} (h : (numeral negative offset s ahead rest).2 = some r) :
    r.rest.length ≤ rest.length := by
  unfold numeral at h
  split at h
  · simp only [Option.some.injEq] at h
    subst h
    simp
  · simp at h

/-- A token takes at least the character it starts with. -/
theorem length_rest_readAt {offset : Nat} {c : Char} {rest : List Char} {r : Remainder}
    (h : (readAt offset c rest).2 = some r) : r.rest.length ≤ rest.length := by
  unfold readAt at h
  split at h
  iterate 6
    · simp only [Option.some.injEq] at h
      subst h
      exact Nat.le_refl _
  iterate 3 exact length_rest_word h
  · exact length_rest_numeral h
  · split at h
    · rename_i hs
      simp only [Option.some.injEq] at h
      subst h
      exact Nat.le_of_lt (length_rest_readString hs)
    · simp at h
  · split at h
    · exact length_rest_numeral h
    · simp at h

/-! ## All tokens -/

/-- The blanks between tokens. -/
def isSeparator (c : Char) : Bool := c == ' ' || c == '\n' || c == '\t' || c == '\r'

/-- The tokens of what is left of a text from byte `offset` on. -/
def readFrom (offset : Nat) (s : List Char) : List Token :=
  match s with
  | [] => []
  | c :: rest =>
    if isSeparator c then readFrom (offset + 1) rest
    else
      let token : Token := ⟨offset, (readAt offset c rest).1⟩
      match _h : (readAt offset c rest).2 with
      | none => [token]
      | some r => token :: readFrom r.offset r.rest
termination_by s.length
decreasing_by
  · simp
  · have := length_rest_readAt _h
    simp only [List.length_cons]
    omega

end Token

/-- The tokens of a text. -/
def tokens (s : List Char) : List Token := Token.readFrom 0 s

end Json
end Ambient
