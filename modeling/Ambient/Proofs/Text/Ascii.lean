import Ambient.Character.Alphanumeric
import Ambient.Proofs.Composite.Property

/-!
# ASCII characters and letter case

Mappings of letter case keep ASCII characters ASCII, and map them as `Char.toLower` and
`Char.toUpper` do.  They make ASCII characters of some others as well, such as `SS` of `ß` and `k`
of the sign for Kelvin: small letters where small letters are asked for, and capital ones otherwise.

## What is here

* `of_ascii` — the classes and mappings of ASCII characters; `lower_of_ascii`, `upper_of_ascii`,
  `isAlphanumeric_of_ascii` — one by one.
* `isLower_of_mem_lower`, `isUpper_of_mem_upper` — what ASCII characters become of others.
* `upper_of_beyond`, `upper_ne_nil` — how long capital forms are.
* `IsTame` — a character that is a letter or digit if it is ASCII; `isTame_of_mem_lower`,
  `isTame_of_mem_upper` — letter case makes no others of such characters.
* `not_isLower_of_mem_upper` — no capital form has a small ASCII letter.
-/

set_option autoImplicit false

namespace Ambient
namespace Character

/-! ## ASCII characters -/

/-- What holds of the first 128 code points holds of all ASCII characters. -/
theorem forall_ascii {P : Char → Prop} (h : ∀ n < 128, P (Char.ofNat n)) {c : Char}
    (hc : c.toNat < 128) : P c := by
  have hofNat := h c.toNat hc
  rwa [Char.ofNat_toNat] at hofNat

/-- The letter case and the kind of an ASCII character are those of ASCII, and a small letter is no
capital. -/
theorem of_ascii {c : Char} (h : c.toNat < 128) :
    lower c = [c.toLower] ∧ upper c = [c.toUpper] ∧ isAlphanumeric c = c.isAlphanum ∧
      (c.isLower = true → c.isUpper = false) :=
  forall_ascii (P := fun c => lower c = [c.toLower] ∧ upper c = [c.toUpper] ∧
    isAlphanumeric c = c.isAlphanum ∧ (c.isLower = true → c.isUpper = false)) (by decide +kernel) h

theorem lower_of_ascii {c : Char} (h : c.toNat < 128) : lower c = [c.toLower] := (of_ascii h).1

theorem upper_of_ascii {c : Char} (h : c.toNat < 128) : upper c = [c.toUpper] := (of_ascii h).2.1

theorem isAlphanumeric_of_ascii {c : Char} (h : c.toNat < 128) :
    isAlphanumeric c = c.isAlphanum := (of_ascii h).2.2.1

/-- What the small form of an ASCII character is: an ASCII character, a letter or digit just in case
the character is one, and of the same small and capital forms. -/
theorem ascii_toLower {c : Char} (h : c.toNat < 128) :
    c.toLower.toNat < 128 ∧ c.toLower.isAlphanum = c.isAlphanum ∧
      c.toLower.toLower = c.toLower ∧ c.toLower.toUpper = c.toUpper :=
  forall_ascii (P := fun c => c.toLower.toNat < 128 ∧ c.toLower.isAlphanum = c.isAlphanum ∧
    c.toLower.toLower = c.toLower ∧ c.toLower.toUpper = c.toUpper) (by decide +kernel) h

/-- What the capital form of an ASCII character is; it is never a small letter. -/
theorem ascii_toUpper {c : Char} (h : c.toNat < 128) :
    c.toUpper.toNat < 128 ∧ c.toUpper.isAlphanum = c.isAlphanum ∧
      c.toUpper.toLower = c.toLower ∧ c.toUpper.isLower = false :=
  forall_ascii (P := fun c => c.toUpper.toNat < 128 ∧ c.toUpper.isAlphanum = c.isAlphanum ∧
    c.toUpper.toLower = c.toLower ∧ c.toUpper.isLower = false) (by decide +kernel) h

theorem toLower_toLower_of_ascii {c : Char} (h : c.toNat < 128) : c.toLower.toLower = c.toLower :=
  (ascii_toLower h).2.2.1

theorem toUpper_toLower_of_ascii {c : Char} (h : c.toNat < 128) : c.toLower.toUpper = c.toUpper :=
  (ascii_toLower h).2.2.2

theorem toLower_toUpper_of_ascii {c : Char} (h : c.toNat < 128) : c.toUpper.toLower = c.toLower :=
  (ascii_toUpper h).2.2.1

/-- Letters are small letters and capitals, and with the digits they are the letters and digits. -/
theorem isAlpha_iff {c : Char} : c.isAlpha = true ↔ c.isUpper = true ∨ c.isLower = true :=
  Bool.or_eq_true_iff

theorem isAlphanum_iff {c : Char} :
    c.isAlphanum = true ↔ c.isAlpha = true ∨ c.isDigit = true :=
  Bool.or_eq_true_iff

theorem ascii_of_isAlphanum {c : Char} (h : c.isAlphanum = true) : c.toNat < 128 := by
  -- Each kind is an interval of code points, and its last one is ASCII.
  have hbound (last : Char) (hlast : last.toNat < 128) (hc : c.val ≤ last.val) : c.toNat < 128 :=
    Nat.lt_of_le_of_lt (UInt32.le_iff_toNat_le.1 hc) hlast
  rcases isAlphanum_iff.1 h with halpha | hdigit
  · rcases isAlpha_iff.1 halpha with hupper | hlower
    · exact hbound 'Z' (by decide) (of_decide_eq_true hupper).2
    · exact hbound 'z' (by decide) (of_decide_eq_true (Bool.and_eq_true_iff.1 hlower).2)
  · exact hbound '9' (by decide) (of_decide_eq_true (Bool.and_eq_true_iff.1 hdigit).2)

theorem ascii_of_isAlpha {c : Char} (h : c.isAlpha = true) : c.toNat < 128 :=
  ascii_of_isAlphanum (isAlphanum_iff.2 (Or.inl h))

theorem ascii_of_isLower {c : Char} (h : c.isLower = true) : c.toNat < 128 :=
  ascii_of_isAlpha (isAlpha_iff.2 (Or.inr h))

/-- No capital is a small letter. -/
theorem isUpper_of_isLower {c : Char} (h : c.isLower = true) : c.isUpper = false :=
  (of_ascii (ascii_of_isLower h)).2.2.2 h

/-! ## What other characters become -/

/-- The shift is one of ASCII characters, or of others that stay beyond ASCII, or of one character
that becomes an ASCII character that satisfies `P`. -/
def Shift.Lands (P : Char → Bool) (s : Shift) : Prop :=
  s.domain.last < 128 ∨
    128 ≤ s.domain.first + s.distance ∧ (s.domain.last + s.distance < 0xD800 ∨
      0xE000 ≤ s.domain.first + s.distance ∧ s.domain.last + s.distance < 0x110000) ∨
    s.domain.first = s.domain.last ∧ P (Char.ofNat (s.domain.first + s.distance).toNat) = true

instance (P : Char → Bool) (s : Shift) : Decidable (s.Lands P) :=
  inferInstanceAs (Decidable (_ ∨ _))

/-- The code point is a character beyond ASCII, if it is not a surrogate. -/
theorem beyond_ofNat {n : Nat} (h : 128 ≤ n) (hvalid : n.isValidChar) :
    128 ≤ (Char.ofNat n).toNat := by
  rwa [toNat_ofNat hvalid]

/-- What a character beyond ASCII is shifted to is beyond ASCII, or satisfies `P`. -/
theorem beyond_of_shift {P : Char → Bool} {shifts : List Shift}
    (hshifts : ∀ s ∈ shifts, s.Lands P) {c : Char} {i : Nat} (hc : 128 ≤ c.toNat)
    (hi : Shift.apply? shifts c.toNat = some i) :
    128 ≤ (Char.ofNat i).toNat ∨ P (Char.ofNat i) = true := by
  obtain ⟨s, hs, hcontains, rfl⟩ := Shift.exists_of_image hi
  rw [Stride.contains, Bool.and_eq_true, Bool.and_eq_true] at hcontains
  have hfirst : s.domain.first ≤ c.toNat := of_decide_eq_true hcontains.1.1
  have hlast : c.toNat ≤ s.domain.last := of_decide_eq_true hcontains.1.2
  rcases hshifts s hs with hascii | ⟨hbeyond, hvalid⟩ | ⟨hsingle, hP⟩
  · omega
  · refine Or.inl (beyond_ofNat (by omega) ?_)
    rw [Nat.isValidChar]
    omega
  · have hcfirst : c.toNat = s.domain.first := by omega
    exact Or.inr (hcfirst ▸ hP)

/-- What a character beyond ASCII is mapped to is beyond ASCII, or satisfies `P`. -/
theorem beyond_of_mem_mapWith {P : Char → Bool} {several : List (Nat × List Nat)}
    {shifts : List Shift}
    (hseveral : ∀ entry ∈ several, ∀ n ∈ entry.2,
      128 ≤ (Char.ofNat n).toNat ∨ P (Char.ofNat n) = true)
    (hshifts : ∀ s ∈ shifts, s.Lands P) {c d : Char} (hc : 128 ≤ c.toNat)
    (hd : d ∈ mapWith several shifts c) : 128 ≤ d.toNat ∨ P d = true := by
  rw [mapWith] at hd
  split at hd
  · rename_i spelled hspelled
    obtain ⟨before, after, hentries, -⟩ := List.lookup_eq_some_iff.1 hspelled
    obtain ⟨n, hn, rfl⟩ := List.mem_map.1 hd
    exact hseveral (c.toNat, spelled) (hentries ▸ by simp) n hn
  · split at hd
    · rename_i i hi
      rw [List.mem_singleton.1 hd]
      exact beyond_of_shift hshifts hc hi
    · obtain rfl := List.mem_singleton.1 hd
      exact Or.inl hc

/-- The capital form of a character beyond ASCII has two characters at least, or is beyond ASCII as
well, or is one of the two letters whose small forms have variants. -/
theorem upper_of_beyond {c : Char} (hc : 128 ≤ c.toNat) :
    (∃ d e rest, upper c = d :: e :: rest) ∨
      ∃ d, upper c = [d] ∧ (128 ≤ d.toNat ∨ d = 'I' ∨ d = 'S') := by
  have hlong : ∀ entry ∈ severalUpper, 2 ≤ entry.2.length := by decide
  have hshifts : ∀ s ∈ upperShifts, s.Lands fun d => d == 'I' || d == 'S' := by decide +kernel
  rw [upper, mapWith]
  split
  · rename_i spelled hspelled
    obtain ⟨before, after, hentries, -⟩ := List.lookup_eq_some_iff.1 hspelled
    have hlength := hlong (c.toNat, spelled) (hentries ▸ by simp)
    rcases spelled with _ | ⟨d, _ | ⟨e, rest⟩⟩
    · simp at hlength
    · simp at hlength
    · exact Or.inl ⟨_, _, _, rfl⟩
  · refine Or.inr ?_
    split
    · rename_i i hi
      refine ⟨_, rfl, (beyond_of_shift hshifts hc hi).imp_right fun h => ?_⟩
      simpa using h
    · exact ⟨c, rfl, Or.inl hc⟩

/-- Every character has a capital form. -/
theorem upper_ne_nil (c : Char) : upper c ≠ [] := by
  by_cases hc : c.toNat < 128
  · rw [upper_of_ascii hc]
    exact List.cons_ne_nil _ _
  · rcases upper_of_beyond (Nat.le_of_not_lt hc) with ⟨d, e, rest, h⟩ | ⟨d, h, -⟩
    · exact h ▸ List.cons_ne_nil _ _
    · exact h ▸ List.cons_ne_nil _ _

/-- The only ASCII characters that others become as small letters are small letters. -/
theorem isLower_of_mem_lower {c d : Char} (hc : 128 ≤ c.toNat) (hd : d ∈ lower c) :
    128 ≤ d.toNat ∨ d.isLower = true :=
  beyond_of_mem_mapWith (by decide) (by decide +kernel) hc hd

/-- The only ASCII characters that others become as capitals are capitals. -/
theorem isUpper_of_mem_upper {c d : Char} (hc : 128 ≤ c.toNat) (hd : d ∈ upper c) :
    128 ≤ d.toNat ∨ d.isUpper = true :=
  beyond_of_mem_mapWith (by decide +kernel) (by decide +kernel) hc hd

/-! ## Tame characters -/

/-- The character is a letter or digit if it is ASCII. -/
def IsTame (c : Char) : Prop := c.toNat < 128 → c.isAlphanum = true

theorem isTame_of_isAlphanumeric {c : Char} (h : isAlphanumeric c = true) : IsTame c :=
  fun hascii => (isAlphanumeric_of_ascii hascii).symm.trans h

theorem isTame_of_mem_lower {c d : Char} (hc : IsTame c) (hd : d ∈ lower c) : IsTame d := by
  intro hascii
  by_cases hcascii : c.toNat < 128
  · rw [lower_of_ascii hcascii] at hd
    rw [List.mem_singleton.1 hd, (ascii_toLower hcascii).2.1]
    exact hc hcascii
  · have hlower := (isLower_of_mem_lower (Nat.le_of_not_lt hcascii) hd).resolve_left
      (Nat.not_le_of_lt hascii)
    exact isAlphanum_iff.2 (Or.inl (isAlpha_iff.2 (Or.inr hlower)))

theorem isTame_of_mem_upper {c d : Char} (hc : IsTame c) (hd : d ∈ upper c) : IsTame d := by
  intro hascii
  by_cases hcascii : c.toNat < 128
  · rw [upper_of_ascii hcascii] at hd
    rw [List.mem_singleton.1 hd, (ascii_toUpper hcascii).2.1]
    exact hc hcascii
  · have hupper := (isUpper_of_mem_upper (Nat.le_of_not_lt hcascii) hd).resolve_left
      (Nat.not_le_of_lt hascii)
    exact isAlphanum_iff.2 (Or.inl (isAlpha_iff.2 (Or.inl hupper)))

/-- **No capital form has a small ASCII letter.** -/
theorem not_isLower_of_mem_upper {c d : Char} (hd : d ∈ upper c) : d.isLower = false := by
  by_cases hc : c.toNat < 128
  · rw [upper_of_ascii hc] at hd
    rw [List.mem_singleton.1 hd]
    exact (ascii_toUpper hc).2.2.2
  · refine Bool.eq_false_iff.2 fun hlower => ?_
    have hupper := (isUpper_of_mem_upper (Nat.le_of_not_lt hc) hd).resolve_left
      (Nat.not_le_of_lt (ascii_of_isLower hlower))
    rw [isUpper_of_isLower hlower] at hupper
    cases hupper

end Character
end Ambient
