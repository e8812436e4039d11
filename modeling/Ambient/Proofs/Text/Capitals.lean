import Ambient.Proofs.Text.CamelCase

/-!
# Capitalised texts

What is capitalised once stays as it is when it is capitalised again.  This has to be read off the
tables of letter case, which have about three hundred entries for small letters and as many first
characters of their capital forms: none of these is a small letter itself.  Two sets of that size
are compared at once, as the bits of two numbers.

## What is here

* `Character.disjoint_of_bits` — sets of numbers are disjoint if their bits are.
* `upper_of_upper` — the first character of a capital form is a capital.
* `IsCapitalized`, `isCapitalized_upperFirst` — texts that stay as they are when they are
  capitalised.
-/

set_option autoImplicit false

namespace Ambient
namespace Character

/-! ## Sets as bits -/

/-- The numbers as the bits of one number. -/
def bits (points : List Nat) : Nat := points.foldr (fun n rest => 1 <<< n ||| rest) 0

theorem testBit_bits {points : List Nat} {n : Nat} (h : n ∈ points) :
    (bits points).testBit n = true := by
  induction points with
  | nil => cases h
  | cons m rest ih =>
    rw [bits, List.foldr_cons, Nat.testBit_or, Bool.or_eq_true]
    rcases List.mem_cons.1 h with rfl | hrest
    · exact .inl (by simp)
    · exact .inr (ih hrest)

/-- Numbers that have no bit in common are not members of both lists. -/
theorem disjoint_of_bits {s t : List Nat} (h : bits s &&& bits t = 0) :
    ∀ n ∈ s, n ∉ t := by
  intro n hs ht
  have hbit := Nat.testBit_and (bits s) (bits t) n
  rw [h, testBit_bits hs, testBit_bits ht, Nat.zero_testBit] at hbit
  cases hbit

/-! ## Small letters and capital forms -/

/-- The code points of a stride. -/
def Stride.points (s : Stride) : List Nat :=
  (List.range ((s.last - s.first) / s.step + 1)).map fun k => s.first + k * s.step

theorem Stride.mem_points {s : Stride} {n : Nat} (h : s.contains n = true) : n ∈ s.points := by
  rw [contains, Bool.and_eq_true, Bool.and_eq_true, decide_eq_true_iff, decide_eq_true_iff,
    beq_iff_eq] at h
  obtain ⟨⟨hfirst, hlast⟩, hstep⟩ := h
  refine List.mem_map.2 ⟨(n - s.first) / s.step, List.mem_range.2 ?_, ?_⟩
  · exact Nat.lt_succ_of_le (Nat.div_le_div_right (by omega))
  · rw [Nat.div_mul_cancel (Nat.dvd_of_mod_eq_zero hstep)]
    omega

/-- The characters that have a capital form. -/
def smallPoints : List Nat :=
  upperShifts.flatMap (fun s => s.domain.points) ++ severalUpper.map Prod.fst

/-- The characters with which capital forms begin.  What is no character is replaced by the null
character. -/
def capitalPoints : List Nat :=
  0 :: (upperShifts.flatMap fun s => s.domain.points.map fun n : Nat => (n + s.distance).toNat) ++
    severalUpper.map fun entry => entry.2.headD 0

theorem notMem_smallPoints : ∀ n ∈ capitalPoints, n ∉ smallPoints :=
  disjoint_of_bits (by decide +kernel)

/-- A character that has no capital form is its own. -/
theorem upper_of_notMem {c : Char} (h : c.toNat ∉ smallPoints) : upper c = [c] := by
  rw [smallPoints, List.mem_append, not_or] at h
  have hseveral : severalUpper.lookup c.toNat = none := by
    rw [List.lookup_eq_none_iff]
    intro entry hentry
    rw [bne_iff_ne]
    exact fun heq => h.2 (heq ▸ List.mem_map_of_mem hentry)
  have hshifts : Shift.apply? upperShifts c.toNat = none := by
    refine Option.eq_none_iff_forall_ne_some.2 fun i hi => h.1 ?_
    obtain ⟨s, hs, hcontains, -⟩ := Shift.exists_of_image hi
    exact List.mem_flatMap.2 ⟨s, hs, Stride.mem_points hcontains⟩
  rw [upper, mapWith, hseveral, hshifts]

/-- A character of a code point with which a capital form begins. -/
theorem upper_ofNat {n : Nat} (h : n ∈ capitalPoints) : upper (Char.ofNat n) = [Char.ofNat n] := by
  refine upper_of_notMem (notMem_smallPoints _ ?_)
  by_cases hvalid : n.isValidChar
  · rw [toNat_ofNat hvalid]
    exact h
  · rw [Char.ofNat, dif_neg hvalid]
    exact List.mem_cons_self

/-- **The first character of a capital form is a capital.** -/
theorem upper_of_upper {c d : Char} {rest : List Char} (h : upper c = d :: rest) :
    upper d = [d] := by
  have hupper := h
  rw [upper, mapWith] at h
  split at h
  · rename_i spelled hspelled
    obtain ⟨before, after, hentries, -⟩ := List.lookup_eq_some_iff.1 hspelled
    cases spelled with
    | nil => cases h
    | cons n others =>
      obtain ⟨rfl, -⟩ := List.cons.inj h
      refine upper_ofNat (List.mem_cons_of_mem _ (List.mem_append_right _ ?_))
      exact List.mem_map.2 ⟨(c.toNat, n :: others), hentries ▸ by simp, rfl⟩
  · split at h
    · rename_i i hi
      obtain ⟨rfl, -⟩ := List.cons.inj h
      obtain ⟨s, hs, hcontains, rfl⟩ := Shift.exists_of_image hi
      refine upper_ofNat (List.mem_cons_of_mem _ (List.mem_append_left _ ?_))
      exact List.mem_flatMap.2 ⟨s, hs, List.mem_map.2 ⟨_, Stride.mem_points hcontains, rfl⟩⟩
    · obtain ⟨rfl, rfl⟩ := List.cons.inj h
      exact hupper

end Character

namespace Text

open Character

/-! ## Texts -/

/-- The text stays as it is when it is capitalised. -/
def IsCapitalized (s : String) : Prop := upperFirst s = s

theorem isCapitalized_empty : IsCapitalized "" := upperFirst_empty

/-- **What is capitalised once** stays as it is. -/
theorem isCapitalized_upperFirst (s : String) : IsCapitalized (upperFirst s) := by
  cases hs : s.toList with
  | nil =>
    rw [String.toList_eq_nil_iff.1 hs]
    rfl
  | cons c rest =>
    obtain ⟨d, more, hupper⟩ := List.exists_cons_of_ne_nil (upper_ne_nil c)
    have htext : (upperFirst s).toList = d :: (more ++ rest) := by
      rw [toList_upperFirst hs, hupper]
      rfl
    refine String.toList_inj.1 ?_
    rw [toList_upperFirst htext, upper_of_upper hupper, htext]
    rfl

/-- Texts that are joined stay as they are if they would have done so by themselves. -/
theorem IsCapitalized.append {s t : String} (hs : IsCapitalized s) (ht : IsCapitalized t) :
    IsCapitalized (s ++ t) := by
  by_cases hempty : s = ""
  · rwa [hempty, String.empty_append]
  · rw [IsCapitalized, upperFirst_append hempty, hs]

/-- Whatever stands behind a text that stays as it is. -/
theorem IsCapitalized.append_of_ne {s : String} (hs : IsCapitalized s) (hne : s ≠ "") (t : String) :
    IsCapitalized (s ++ t) := by
  rw [IsCapitalized, upperFirst_append hne, hs]

end Text
end Ambient
