import Ambient.Json.SyntaxError

/-!
# Strings in JSON

A string runs to the next quote.  It holds no control characters, and a backslash starts an escape:
a letter, or `u` and four hexadecimal digits for a unit of 16 bits, two of which in a row may stand
for one character.

## What is here

* `readUnit s` — the four hexadecimal digits at the start of `s`.
* `readEscape s` — the character of the escape at the start of `s`, after its backslash, with the
  number of characters it takes.
* `readString` — the characters up to the closing quote, and what follows it.
-/

set_option autoImplicit false

namespace Ambient
namespace Json

/-! ## Escapes -/

/-- The value of a hexadecimal digit. -/
def hexValue? (c : Char) : Option Nat :=
  if '0' ≤ c ∧ c ≤ '9' then some (c.toNat - 48)
  else if 'a' ≤ c ∧ c ≤ 'f' then some (c.toNat - 87)
  else if 'A' ≤ c ∧ c ≤ 'F' then some (c.toNat - 55)
  else none

/-- The number of bytes of a text. -/
def byteLength (s : List Char) : Nat := s.foldr (fun c n => c.utf8Size + n) 0

/-- The unit of 16 bits that four hexadecimal digits write.  A flaw is noticed after four bytes. -/
def readUnit (s : List Char) : Except Found Nat :=
  match s.take 4 |>.mapM hexValue? with
  | some [a, b, c, d] => .ok (((a * 16 + b) * 16 + c) * 16 + d)
  | _ =>
    if byteLength (s.take 4) < 4 then .error ⟨.unfinishedString, byteLength (s.take 4)⟩
    else .error ⟨.badEscape, 4⟩

/-- The unit is the second half of a pair. -/
def isLowSurrogate (n : Nat) : Bool := decide (0xDC00 ≤ n) && decide (n ≤ 0xDFFF)

/-- The unit is the first half of a pair. -/
def isHighSurrogate (n : Nat) : Bool := decide (0xD800 ≤ n) && decide (n ≤ 0xDBFF)

/-- A flaw that was noticed further on. -/
def Found.after (found : Found) (bytes : Nat) : Found :=
  { found with offset := found.offset + bytes }

/-- The second half of a pair, at the start of `s` with its backslash, completes `high`. -/
def readLowSurrogate (high : Nat) (s : List Char) : Except Found Char :=
  match s with
  | [] => .error ⟨.unfinishedString, 0⟩
  | '\\' :: [] => .error ⟨.unfinishedString, 1⟩
  | '\\' :: 'u' :: digits =>
    match readUnit digits with
    | .error found => .error (found.after 2)
    | .ok low =>
      if isLowSurrogate low then
        .ok (Char.ofNat ((high - 0xD800) * 0x400 + (low - 0xDC00) + 0x10000))
      else .error ⟨.unpairedSurrogate, 6⟩
  | '\\' :: _ => .error ⟨.surrogateCutOff, 2⟩
  | _ => .error ⟨.surrogateCutOff, 1⟩

/-- The character of an escape, after its backslash, and the number of characters it takes. -/
def readEscape (s : List Char) : Except Found (Char × Nat) :=
  match s with
  | [] => .error ⟨.unfinishedString, 0⟩
  | '"' :: _ => .ok ('"', 1)
  | '\\' :: _ => .ok ('\\', 1)
  | '/' :: _ => .ok ('/', 1)
  | 'b' :: _ => .ok ('\x08', 1)
  | 'f' :: _ => .ok ('\x0c', 1)
  | 'n' :: _ => .ok ('\n', 1)
  | 'r' :: _ => .ok ('\r', 1)
  | 't' :: _ => .ok ('\t', 1)
  | 'u' :: digits =>
    match readUnit digits with
    | .error found => .error (found.after 1)
    | .ok n =>
      if isLowSurrogate n then .error ⟨.unpairedSurrogate, 5⟩
      else if isHighSurrogate n then
        match readLowSurrogate n (digits.drop 4) with
        | .error found => .error (found.after 5)
        | .ok c => .ok (c, 11)
      else .ok (Char.ofNat n, 5)
  | _ => .error ⟨.badEscape, 1⟩

/-! ## Strings -/

/-- A string that has been read, the offset behind its closing quote, and what follows. -/
structure StringRead where
  value : String
  offset : Nat
  rest : List Char

/-- The rest of a string, when the characters of `done` have been read, which is kept backwards, and
the text goes on at byte `offset`. -/
def readString (done : List Char) (offset : Nat) (s : List Char) : Except Found StringRead :=
  match s with
  | [] => .error ⟨.unfinishedString, offset⟩
  | c :: rest =>
    if c = '"' then .ok ⟨String.ofList done.reverse, offset + 1, rest⟩
    else if c = '\\' then
      match readEscape rest with
      | .error found => .error (found.after (offset + 1))
      | .ok (e, read) => readString (e :: done) (offset + 1 + read) (rest.drop read)
    else if c < ' ' then .error ⟨.controlCharacter, offset + 1⟩
    else readString (c :: done) (offset + c.utf8Size) rest
termination_by s.length
decreasing_by
  all_goals simp only [List.length_drop, List.length_cons]; omega

/-- What follows a string is shorter than what its opening quote stood before. -/
theorem length_rest_readString {done : List Char} {offset : Nat} {s : List Char} {r : StringRead}
    (h : readString done offset s = .ok r) : r.rest.length < s.length := by
  fun_induction readString done offset s with
  | case1 => simp at h
  | case2 done offset rest =>
    simp only [Except.ok.injEq] at h
    subst h
    simp
  | case3 => simp at h
  | case4 done offset rest hq e read hr ih =>
    have h2 := ih h
    simp only [List.length_drop, List.length_cons] at *
    omega
  | case5 => simp at h
  | case6 done offset c rest h1 h2 h3 ih =>
    have h4 := ih h
    simp only [List.length_cons]
    omega

end Json
end Ambient
