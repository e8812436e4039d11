/-!
# Binary numbers of double precision

A number in the metadata that is no integer is held in 64 bits: a significand of at most 53 bits
times a power of two.  Only the magnitude is kept here; whoever writes a number knows its sign.
All arithmetic is exact arithmetic on natural numbers followed by one rounding.

## What is here

* `Binary64` — a significand and a binary exponent.
* `Binary64.ofQuotient? p q` — the number nearest to `p / q`, of two equally near ones the one with
  the even significand; `none` if it would be too large to be finite.
* `Binary64.mul?`, `Binary64.div?` — product and quotient, rounded the same way.
* `Binary64.ofDecimal? n k` — the number written `n · 10 ^ k`: `n` is rounded first, and the result
  is multiplied or divided by the rounded power of ten.
-/

set_option autoImplicit false

namespace Ambient

/-- A power of two. -/
def pow2 (k : Nat) : Nat := Nat.pow 2 k

/-- A power of ten. -/
def pow10 (k : Nat) : Nat := Nat.pow 10 k

/-- The number `significand · 2 ^ exponent`. -/
structure Binary64 where
  significand : Nat
  exponent : Int
deriving DecidableEq, Repr, Inhabited

namespace Binary64

/-! ## Rounding -/

/-- The integer nearest to `p / q`; a half goes to the even neighbour. -/
def nearest (p q : Nat) : Nat :=
  let low := p / q
  let rest := 2 * (p % q)
  if rest < q ∨ (rest = q ∧ low % 2 = 0) then low else low + 1

/-- The least exponent, that of the numbers closest to zero. -/
def leastExponent : Int := -1074

/-- The greatest exponent of a finite number. -/
def greatestExponent : Int := 971

/-- `n · 2 ^ e` as a quotient of natural numbers. -/
def scaled (n : Nat) (e : Int) : Nat × Nat :=
  if 0 ≤ e then (n * pow2 e.toNat, 1) else (n, pow2 (-e).toNat)

/-- The exponent at which the significand of `p / q` has 53 bits, but no less than the least. -/
def exponentFor (p q : Nat) : Int :=
  let guess : Int := (p.log2 : Int) - q.log2 - 52
  let (num, den) := scaled q guess
  let exact := if p * den < num * pow2 52 then guess - 1 else guess
  max exact leastExponent

/-- The number nearest to `p / q`. -/
def ofQuotient? (p q : Nat) : Option Binary64 :=
  if p = 0 then some ⟨0, leastExponent⟩
  else
    let e := exponentFor p q
    let (num, den) := scaled q e
    let m := nearest (p * den) num
    let r : Binary64 := if m = pow2 53 then ⟨pow2 52, e + 1⟩ else ⟨m, e⟩
    if r.exponent ≤ greatestExponent then some r else none

/-! ## Arithmetic -/

/-- The product, rounded. -/
def mul? (a b : Binary64) : Option Binary64 :=
  let (num, den) := scaled (a.significand * b.significand) (a.exponent + b.exponent)
  ofQuotient? num den

/-- The quotient, rounded. -/
def div? (a b : Binary64) : Option Binary64 :=
  let (num, den) := scaled a.significand (a.exponent - b.exponent)
  ofQuotient? num (den * b.significand)

/-- The greatest power of ten that is finite. -/
def greatestPower : Nat := 308

/-- The number nearest to `10 ^ k`, for `k ≤ 308`. -/
def powerOfTen (k : Nat) : Binary64 := (ofQuotient? (pow10 k) 1).getD default

/-- Multiplies by `10 ^ k`.  A power too small to be held is divided off in steps. -/
def scaleByTen? (a : Binary64) (k : Int) : Option Binary64 :=
  if k.natAbs ≤ greatestPower then
    if 0 ≤ k then a.mul? (powerOfTen k.natAbs) else a.div? (powerOfTen k.natAbs)
  else if a.significand = 0 then some a
  else if 0 ≤ k then none
  else match a.div? (powerOfTen greatestPower) with
    | none => none
    | some b => scaleByTen? b (k + greatestPower)
termination_by k.natAbs
decreasing_by
  simp only [greatestPower] at *
  omega

/-- The number written `n · 10 ^ k`. -/
def ofDecimal? (n : Nat) (k : Int) : Option Binary64 :=
  match ofQuotient? n 1 with
  | none => none
  | some a => a.scaleByTen? k

end Binary64
end Ambient
