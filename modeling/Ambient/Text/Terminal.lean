/-!
# Control sequences

A terminal shows most characters and takes some as instructions: single control characters, and
sequences that start with an escape character.  A message is written with such sequences around the
parts that it marks; where there is no terminal it is written without them, and without those that
came into it from outside.

## What is here

* `marked s` — a text with the sequences around it that make a terminal show it in bold type.
* `Sequence` — what a terminal is in the middle of, and `Sequence.next` — where a character takes
  it.
* `Filter` — the sequence under way, and whether characters are shown in spite of it.
* `plain s` — the characters of a text that are shown.
-/

set_option autoImplicit false

namespace Ambient
namespace Text
namespace Terminal

/-- A text with the sequences around it that make a terminal show it in bold type. -/
def marked (s : String) : String := "\x1b[1m" ++ s ++ "\x1b[0m"

/-! ## Characters -/

/-- A control character that moves to another place: tabulator, line feed, form feed or carriage
return. -/
def isLayout (c : Char) : Bool := c == '\t' || c == '\n' || c == '\x0c' || c == '\r'

/-- A character that is shown outside sequences: none of the ASCII control characters, or one that
moves to another place. -/
def isShown (c : Char) : Bool := isLayout c || (decide (0x20 ≤ c.toNat) && c != '\x7f')

/-- The code point lies in a closed interval. -/
def isWithin (first last : Char) (c : Char) : Bool := decide (first ≤ c) && decide (c ≤ last)

/-- A byte of the character behind the first is `9C`, which on its own ends a string of a
sequence. -/
def holdsTerminator (c : Char) : Bool := ((String.singleton c).toUTF8.toList.drop 1).contains 0x9C

/-! ## Sequences -/

/-- What a terminal is in the middle of. -/
inductive Sequence where
  /-- No sequence at all. -/
  | none
  /-- Behind an escape character. -/
  | escape
  /-- Behind an escape character and characters that narrow down what follows. -/
  | narrowed
  /-- A control function with its parameters. -/
  | control
  /-- The start of a sequence for a device. -/
  | device
  /-- The parameters of a sequence for a device. -/
  | deviceParameters
  /-- Behind them, characters that narrow down what follows. -/
  | deviceNarrowed
  /-- A string that nothing is shown of, up to its terminator. -/
  | string
  /-- A command of the operating system, up to a bell. -/
  | command
deriving Repr, DecidableEq

namespace Sequence

/-- Control characters take effect within the sequence. -/
def executes : Sequence → Bool
  | none | escape | narrowed | control => true
  | _ => false

/-- Where a character takes the terminal that is no escape and calls nothing off. -/
def continued (s : Sequence) (c : Char) : Sequence :=
  match s with
  | none => none
  | escape =>
    if c = '[' then control
    else if c = ']' then command
    else if c = 'P' then device
    else if c = 'X' ∨ c = '^' ∨ c = '_' then string
    else if isWithin ' ' '/' c then narrowed
    else if isWithin '0' '~' c then none
    else escape
  | narrowed => if isWithin '0' '~' c then none else narrowed
  | control => if isWithin '@' '~' c then none else control
  | device =>
    if isWithin ' ' '/' c then deviceNarrowed
    else if isWithin '0' '?' c then deviceParameters
    else if isWithin '@' '~' c then string
    else device
  | deviceParameters =>
    if isWithin ' ' '/' c then deviceNarrowed
    else if isWithin '<' '~' c then string
    else deviceParameters
  | deviceNarrowed => if isWithin '0' '~' c then string else deviceNarrowed
  | string => if holdsTerminator c then none else string
  | command => if c = '\x07' then none else command

/-- Where a character takes the terminal.  An escape starts a new sequence, and two control
characters call it off. -/
def next (s : Sequence) (c : Char) : Sequence :=
  if c = '\x1b' then escape
  else if c = '\x18' ∨ c = '\x1a' then none
  else s.continued c

end Sequence

/-! ## Filtering -/

/-- The sequence under way, and whether characters are shown in spite of it: a move within a
sequence is shown, and so is what follows it up to the next control character. -/
structure Filter where
  sequence : Sequence
  resumed : Bool
deriving Repr, DecidableEq

namespace Filter

/-- Outside of sequences. -/
def initial : Filter := ⟨.none, false⟩

/-- Characters are shown as they are outside of sequences. -/
def isOpen (f : Filter) : Bool := f.resumed || f.sequence == .none

/-- The character is shown. -/
def shows (f : Filter) (c : Char) : Bool :=
  if f.isOpen then isShown c else f.sequence.executes && isLayout c

/-- The filter behind a character.  A shown character leaves the sequence as it is, but one outside
ASCII ends it. -/
def next (f : Filter) (c : Char) : Filter :=
  if f.shows c then ⟨if c.toNat < 0x80 then f.sequence else .none, true⟩
  else ⟨f.sequence.next c, false⟩

/-- The characters that are shown. -/
def keep (f : Filter) : List Char → List Char
  | [] => []
  | c :: rest => if f.shows c then c :: (f.next c).keep rest else (f.next c).keep rest

end Filter

/-- The characters of a text that are shown. -/
def plain (s : String) : String := String.ofList (Filter.initial.keep s.toList)

end Terminal
end Text
end Ambient
