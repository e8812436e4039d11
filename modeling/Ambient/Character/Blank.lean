import Ambient.Character.Interval

/-!
# Blank characters

The Unicode property `White_Space`: the blanks that separate the words of a description and that
surround a name.

## What is here

* `isBlank c` — membership.
-/

set_option autoImplicit false

namespace Ambient
namespace Character

/-- Code points with the property `White_Space`. -/
def blankTable : List (Nat × Nat) :=
  [(0x9, 0xD), (0x20, 0x20), (0x85, 0x85), (0xA0, 0xA0), (0x1680, 0x1680), (0x2000, 0x200A),
   (0x2028, 0x2029), (0x202F, 0x202F), (0x205F, 0x205F), (0x3000, 0x3000)]

/-- A blank of any script. -/
def isBlank (c : Char) : Bool := covers blankTable c.toNat

theorem isBlank_space : isBlank ' ' = true := by decide

end Character
end Ambient
