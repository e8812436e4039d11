import Ambient.Character.Printable

/-!
# Texts quoted in a message

A message that complains about a text quotes it so that every character can be told: between
double quotes, with a backslash before a quote or a backslash, a letter for the usual control
characters, and the code point in hexadecimal for all else that cannot be seen on its own.

## What is here

* `quotedChar c` — one character within quotes.
* `quoted s` — a text with its quotes.
-/

set_option autoImplicit false

namespace Ambient
namespace Text

open Character

/-- The code point in hexadecimal, between braces. -/
def quotedCodePoint (c : Char) : String :=
  "\\u\x7b" ++ String.ofList (Nat.toDigits 16 c.toNat) ++ "\x7d"

/-- A character as it stands within quotes. -/
def quotedChar (c : Char) : String :=
  match c with
  | '\x00' => "\\0"
  | '\t' => "\\t"
  | '\n' => "\\n"
  | '\r' => "\\r"
  | '\\' => "\\\\"
  | '"' => "\\\""
  | c => if isExtending c || isHidden c then quotedCodePoint c else String.singleton c

/-- A text between double quotes. -/
def quoted (s : String) : String := "\"" ++ String.join (s.toList.map quotedChar) ++ "\""

end Text
end Ambient
