import Ambient.Decimal.Binary64

/-!
# The shortest decimal that reads back

A binary number is shown with the fewest decimal digits that still tell it from its neighbours:
of all decimals that round to it, one with the least number of digits, and of those the nearest.

## What is here

* `Binary64.roundsTo x n k` — the decimal `n · 10 ^ k` lies in the interval of numbers that round
  to `x`.  The ends belong to it if the significand is even.
* `Binary64.shortest x` — the digits and the decimal exponent.
* `Decimal.Format` — from which to which exponent a number is written without an exponent part.
* `Decimal.Format.text` — the text of a number.
-/

set_option autoImplicit false

namespace Ambient

/-! ## Comparing decimals with binary numbers -/

/-- `n · 10 ^ k ≤ m · 2 ^ e`, both brought to natural numbers. -/
def decimalLe (n : Nat) (k : Int) (m : Nat) (e : Int) : Bool :=
  decide (n * pow10 k.toNat * pow2 (-e).toNat ≤ m * pow2 e.toNat * pow10 (-k).toNat)

/-- `m · 2 ^ e ≤ n · 10 ^ k`, both brought to natural numbers. -/
def binaryLe (m : Nat) (e : Int) (n : Nat) (k : Int) : Bool :=
  decide (m * pow2 e.toNat * pow10 (-k).toNat ≤ n * pow10 k.toNat * pow2 (-e).toNat)

namespace Binary64

/-- The lower end of the interval that rounds to `x`, in quarters of its last place.  Below a power
of two the neighbours lie half as far apart. -/
def lowerQuarters (x : Binary64) : Nat :=
  if x.significand = pow2 52 ∧ leastExponent < x.exponent then 4 * x.significand - 1
  else 4 * x.significand - 2

/-- The upper end of that interval, in quarters of the last place. -/
def upperQuarters (x : Binary64) : Nat := 4 * x.significand + 2

/-- The decimal `n · 10 ^ k` rounds to `x`. -/
def roundsTo (x : Binary64) (n : Nat) (k : Int) : Bool :=
  let e := x.exponent - 2
  if x.significand % 2 = 0 then
    binaryLe x.lowerQuarters e n k && decimalLe n k x.upperQuarters e
  else
    !decimalLe n k x.lowerQuarters e && !binaryLe x.upperQuarters e n k

/-! ## Digits -/

/-- The exponent of the leading decimal digit of `p / q`. -/
def leadingExponent (p q : Nat) : Int :=
  if q ≤ p then (Nat.toDigits 10 (p / q)).length - 1
  else
    let places := (Nat.toDigits 10 (q / p)).length
    if q = p * pow10 (places - 1) then 1 - (places : Int) else -(places : Int)

/-- The multiples of `10 ^ k` next to `x`, the nearer one first; of two equally near ones the even
one. -/
def neighbours (x : Binary64) (k : Int) : List Nat :=
  let (p, q) := scaled x.significand x.exponent
  let num := p * pow10 (-k).toNat
  let den := q * pow10 k.toNat
  let low := num / den
  if nearest num den = low then [low, low + 1] else [low + 1, low]

/-- Moves zeros at the end of the digits into the exponent. -/
def dropZeros (n : Nat) (k : Int) : Nat × Int :=
  if n ≠ 0 ∧ n % 10 = 0 then dropZeros (n / 10) (k + 1) else (n, k)
termination_by n
decreasing_by omega

/-- The digits and the exponent of the shortest decimal that rounds to `x`.  Seventeen digits tell
every number from its neighbours. -/
def shortest (x : Binary64) : Nat × Int :=
  let (p, q) := scaled x.significand x.exponent
  let lead := leadingExponent p q
  let found := (List.range 17).findSome? fun (places : Nat) =>
    let k := lead - (places : Int)
    ((x.neighbours k).find? fun n => x.roundsTo n k).map fun n => dropZeros n k
  found.getD (0, 0)

end Binary64

/-! ## Text -/

/-- Which numbers are written without an exponent part: those whose leading digit has an exponent
from `least` to `greatest`. -/
structure Decimal.Format where
  least : Int
  greatest : Int
deriving DecidableEq, Repr

namespace Decimal.Format

/-- A row of zeros. -/
def zeros (n : Nat) : List Char := List.replicate n '0'

/-- Digits around a decimal point, with at least one on either side. -/
def positional (digits : List Char) (lead : Int) : List Char :=
  if lead < 0 then '0' :: '.' :: zeros ((-lead).toNat - 1) ++ digits
  else
    let whole := lead.toNat + 1
    if digits.length ≤ whole then digits ++ zeros (whole - digits.length) ++ ['.', '0']
    else digits.take whole ++ '.' :: digits.drop whole

/-- One digit before the point, and the exponent with its sign. -/
def scientific (digits : List Char) (lead : Int) : List Char :=
  let fraction := if digits.length ≤ 1 then [] else '.' :: digits.drop 1
  let sign := if lead < 0 then '-' else '+'
  digits.take 1 ++ fraction ++ 'e' :: sign :: Nat.toDigits 10 lead.natAbs

/-- The text of a number. -/
def text (format : Format) (negative : Bool) (x : Binary64) : String :=
  let sign := if negative then ['-'] else []
  if x.significand = 0 then String.ofList (sign ++ ['0', '.', '0'])
  else
    let (n, k) := x.shortest
    let digits := Nat.toDigits 10 n
    let lead := k + digits.length - 1
    let body :=
      if format.least ≤ lead ∧ lead ≤ format.greatest then positional digits lead
      else scientific digits lead
    String.ofList (sign ++ body)

end Decimal.Format
end Ambient
