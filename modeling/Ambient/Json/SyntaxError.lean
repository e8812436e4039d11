import Ambient.Json.Value

/-!
# Texts that are not JSON

What can be wrong with a text that should be JSON, and where it is found.

## What is here

* `Json.Flaw` — the kinds of flaw, with the sentence that names each in `Json.Flaw.message`.
* `Json.Found` — a flaw with the number of bytes in front of the place where it was noticed.
* `Json.SyntaxError` — the same with that place as a line and a column.  Lines count from one; the
  column is the number of bytes of the line up to and including the byte that was refused.
-/

set_option autoImplicit false

namespace Ambient
namespace Json

/-! ## Flaws -/

/-- What is wrong with a text that should be JSON. -/
inductive Flaw where
  | unfinishedArray
  | unfinishedObject
  | unfinishedString
  | unfinishedValue
  | colonExpected
  | arraySeparatorExpected
  | objectSeparatorExpected
  | wordExpected
  | valueExpected
  | badEscape
  | badNumber
  | numberTooLarge
  | controlCharacter
  | keyNotString
  | unpairedSurrogate
  | surrogateCutOff
  | trailingComma
  | trailingCharacters
  | tooDeep
deriving DecidableEq, Repr

/-- The sentence that names a flaw. -/
def Flaw.message : Flaw → String
  | unfinishedArray => "EOF while parsing a list"
  | unfinishedObject => "EOF while parsing an object"
  | unfinishedString => "EOF while parsing a string"
  | unfinishedValue => "EOF while parsing a value"
  | colonExpected => "expected `:`"
  | arraySeparatorExpected => "expected `,` or `]`"
  | objectSeparatorExpected => "expected `,` or `\x7d`"
  | wordExpected => "expected ident"
  | valueExpected => "expected value"
  | badEscape => "invalid escape"
  | badNumber => "invalid number"
  | numberTooLarge => "number out of range"
  | controlCharacter => "control character (\\u0000-\\u001F) found while parsing a string"
  | keyNotString => "key must be a string"
  | unpairedSurrogate => "lone leading surrogate in hex escape"
  | surrogateCutOff => "unexpected end of hex escape"
  | trailingComma => "trailing comma"
  | trailingCharacters => "trailing characters"
  | tooDeep => "recursion limit exceeded"

/-- A flaw, noticed when `offset` bytes had been looked at. -/
structure Found where
  flaw : Flaw
  offset : Nat
deriving DecidableEq, Repr

/-! ## Places -/

/-- The line and the column of a byte offset, when `position` bytes are behind and the current line,
number `line`, started at byte `start`. -/
def placeFrom (offset position line start : Nat) : List Char → Nat × Nat
  | [] => (line, offset - start)
  | c :: rest =>
    if offset ≤ position then (line, offset - start)
    else if c = '\n' then
      placeFrom offset (position + c.utf8Size) (line + 1) (position + 1) rest
    else placeFrom offset (position + c.utf8Size) line start rest

/-- The line and the column of a byte offset in a text. -/
def place (text : List Char) (offset : Nat) : Nat × Nat := placeFrom offset 0 1 0 text

/-- A flaw and its place. -/
structure SyntaxError where
  flaw : Flaw
  line : Nat
  column : Nat
deriving DecidableEq, Repr

/-- Looks up the place of a flaw. -/
def Found.located (found : Found) (text : List Char) : SyntaxError :=
  let (line, column) := place text found.offset
  ⟨found.flaw, line, column⟩

/-- The flaw and its place in one sentence. -/
def SyntaxError.message (e : SyntaxError) : String :=
  s!"{e.flaw.message} at line {e.line} column {e.column}"

end Json
end Ambient
