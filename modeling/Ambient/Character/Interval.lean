/-!
# Sets of characters

The classes of characters that the Unicode Character Database defines are unions of a few hundred
intervals of code points.  This file fixes the two ways in which the tables of this library write
such a union, and membership in each.

## What is here

* `covers t n` — `n` lies in one of the closed intervals of `t`, which are listed in increasing
  order, so that the scan ends at the first interval that starts above `n`.
* `Stride` — every `step`-th code point from `first` to `last`.  Scripts that interleave capital
  and small letters are short lists of strides with step two.
* `Stride.any t n` — `n` lies on one of the strides of `t`, in the same order.
-/

set_option autoImplicit false

namespace Ambient
namespace Character

/-! ## Intervals -/

/-- Membership in a union of closed intervals, listed in increasing order. -/
def covers : List (Nat × Nat) → Nat → Bool
  | [], _ => false
  | (first, last) :: rest, n => !decide (n < first) && (decide (n ≤ last) || covers rest n)

/-! ## Strides -/

/-- The code points `first`, `first + step`, … up to `last`. -/
structure Stride where
  first : Nat
  last : Nat
  step : Nat
deriving DecidableEq, Repr

namespace Stride

/-- Membership in one stride. -/
def contains (s : Stride) (n : Nat) : Bool :=
  decide (s.first ≤ n) && decide (n ≤ s.last) && (n - s.first) % s.step == 0

/-- Membership in a union of strides, listed by increasing first code point. -/
def any : List Stride → Nat → Bool
  | [], _ => false
  | s :: rest, n => !decide (n < s.first) && (s.contains n || any rest n)

end Stride

end Character
end Ambient
