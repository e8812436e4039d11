import Ambient.Json.SyntaxError

/-!
# Numbers in JSON

A number is an integer part, then optionally a fraction and an exponent.  Its digits are gathered
in a significand of 64 bits; from the first digit that does not fit, the digits of the part at hand
only count places.

## What is here

* `readDigits n ds` — the significand after more digits, and how many of them did not fit.
* `readExponent` — the digits of an exponent, which itself is limited to 31 bits.
* `readNumeral negative s` — the number at the start of `s`, after its sign, with the number of
  characters it takes; or the flaw, with the offset from the start of `s`.
-/

set_option autoImplicit false

namespace Ambient
namespace Json

/-! ## Digits -/

/-- The value of a digit. -/
def digitValue (c : Char) : Nat := c.toNat - 48

/-- The greatest significand. -/
def greatestSignificand : Nat := pow2 64 - 1

/-- The greatest exponent that can be written. -/
def greatestWrittenExponent : Nat := pow2 31 - 1

/-- Appends digits to a significand while they fit, and counts those that no longer do. -/
def readDigits (significand : Nat) : List Char → Nat × Nat
  | [] => (significand, 0)
  | d :: rest =>
    let next := significand * 10 + digitValue d
    if next ≤ greatestSignificand then readDigits next rest
    else (significand, rest.length + 1)

/-- The value of the digits of an exponent, or the number of digits up to the first that makes it
too large. -/
def readExponentDigits (value read : Nat) : List Char → Except Nat Nat
  | [] => .ok value
  | d :: rest =>
    let next := value * 10 + digitValue d
    if next ≤ greatestWrittenExponent then readExponentDigits next (read + 1) rest
    else .error (read + 1)

/-! ## Numbers -/

/-- The number `n · 10 ^ k` with its sign, when `read` characters have been read. -/
def numeralValue (negative : Bool) (n : Nat) (k : Int) (read : Nat) : Except Found (Number × Nat) :=
  match Binary64.ofDecimal? n k with
  | some x => .ok (.float negative x, read)
  | none => .error ⟨.numberTooLarge, read⟩

/-- An integer with its sign, if it fits 64 bits.  Zero with a minus sign is no integer. -/
def integerValue (negative : Bool) (n read : Nat) : Except Found (Number × Nat) :=
  if !negative then .ok (.integer n, read)
  else if n = 0 ∨ pow2 63 < n then numeralValue true n 0 read
  else .ok (.integer (-n), read)

/-- The rest of a number from its exponent sign on, when it stands for `n · 10 ^ k` so far and
`read` characters have been read, the letter `e` included. -/
def readExponent (negative : Bool) (n : Nat) (k : Int) (read : Nat) (s : List Char) :
    Except Found (Number × Nat) :=
  let (below, unsigned, read) := match s with
    | '+' :: rest => (false, rest, read + 1)
    | '-' :: rest => (true, rest, read + 1)
    | rest => (false, rest, read)
  match unsigned with
  | [] => .error ⟨.unfinishedValue, read⟩
  | c :: _ =>
    if !c.isDigit then .error ⟨.badNumber, read + 1⟩
    else
      let digits := unsigned.takeWhile Char.isDigit
      match readExponentDigits 0 0 digits with
      | .ok e => numeralValue negative n (if below then k - e else k + e) (read + digits.length)
      | .error tooMany =>
        if n ≠ 0 ∧ !below then .error ⟨.numberTooLarge, read + tooMany⟩
        else numeralValue negative 0 0 (read + digits.length)

/-- The rest of a number after its integer part, which stands for `n · 10 ^ k`. -/
def readFraction (negative : Bool) (n k read : Nat) (s : List Char) : Except Found (Number × Nat) :=
  match s with
  | '.' :: rest =>
    let digits := rest.takeWhile Char.isDigit
    let after := rest.dropWhile Char.isDigit
    if digits.isEmpty then
      if after.isEmpty then .error ⟨.unfinishedValue, read + 1⟩
      else .error ⟨.badNumber, read + 2⟩
    else
      let (m, dropped) := readDigits n digits
      let exponent : Int := k - ((digits.length - dropped : Nat) : Int)
      let read := read + 1 + digits.length
      match after with
      | 'e' :: more => readExponent negative m exponent (read + 1) more
      | 'E' :: more => readExponent negative m exponent (read + 1) more
      | _ => numeralValue negative m exponent read
  | 'e' :: more => readExponent negative n k (read + 1) more
  | 'E' :: more => readExponent negative n k (read + 1) more
  | _ => if k = 0 then integerValue negative n read else numeralValue negative n k read

/-- The number at the start of `s`, after its sign. -/
def readNumeral (negative : Bool) (s : List Char) : Except Found (Number × Nat) :=
  match s with
  | [] => .error ⟨.unfinishedValue, 0⟩
  | '0' :: rest =>
    if rest.head?.any Char.isDigit then .error ⟨.badNumber, 2⟩
    else readFraction negative 0 0 1 rest
  | c :: _ =>
    if !c.isDigit then .error ⟨.badNumber, 1⟩
    else
      let digits := s.takeWhile Char.isDigit
      let (n, dropped) := readDigits 0 digits
      readFraction negative n dropped digits.length (s.dropWhile Char.isDigit)

end Json
end Ambient
