import Mathlib.Data.List.Nodup
import Mathlib.Tactic.ByContra
import Mathlib.Tactic.Push
import Ambient.Interner

/-!
# The name of a new shape is new

`Interner.choose` tries two names that are made of words, and then numbers the first of them.
Whatever names are taken already, and whichever are reserved, it ends with a name that is neither.

## What is here

* `exists_numbered` — the numbering stops at the least number from two on whose name is free.  One
  of the first numbers is free, since there are more of them than there are names.
* `isTaken_choose`, `choose_ne_empty` — the chosen name is free, and it is a name.
-/

set_option autoImplicit false

namespace Ambient
namespace Interner

/-! ## Numbers behind a name -/

theorem numeral_injective {m n : Nat} (h : toString m = toString n) : m = n := by
  have h2 := congrArg String.toList h
  simp only [Nat.toString_eq_ofList_toDigits, String.toList_ofList] at h2
  have h3 := congrArg (fun digits => Nat.ofDigitChars 10 digits 0) h2
  simpa using h3

/-- The names that are taken, with and without a body. -/
def takenNames (interner : Interner) : List String := interner.bodies.keys ++ interner.reserved

theorem mem_takenNames {interner : Interner} {name : String} :
    name ∈ interner.takenNames ↔ interner.isTaken name = true := by
  rw [takenNames, List.mem_append, isTaken_iff]

/-- Among as many numbered names as there are taken ones, and one more, some name is free. -/
theorem exists_free (interner : Interner) (primary : String) :
    ∃ i < interner.takenNames.length + 1,
      interner.isTaken (primary ++ toString (i + 2)) = false := by
  by_contra h
  push Not at h
  have hnodup : ((List.range (interner.takenNames.length + 1)).map
      fun i => primary ++ toString (i + 2)).Nodup := by
    refine List.Nodup.map ?_ List.nodup_range
    intro i j hij
    have h2 := numeral_injective ((String.append_right_inj primary).1 hij)
    omega
  have hsubset : ((List.range (interner.takenNames.length + 1)).map
      fun i => primary ++ toString (i + 2)) ⊆ interner.takenNames := by
    intro name hname
    obtain ⟨i, hi, rfl⟩ := List.mem_map.1 hname
    exact mem_takenNames.2 (by simpa using h i (List.mem_range.1 hi))
  have hle := hnodup.length_le_of_subset hsubset
  rw [List.length_map, List.length_range] at hle
  omega

/-- The numbering stops at the least number from two on whose name is free. -/
theorem exists_numbered (interner : Interner) (primary : String) :
    ∃ n, 2 ≤ n ∧ interner.numbered primary = primary ++ toString n ∧
      interner.isTaken (primary ++ toString n) = false ∧
      ∀ m, 2 ≤ m → m < n → interner.isTaken (primary ++ toString m) = true := by
  have hlength : interner.takenNames.length = interner.bodies.size + interner.reserved.length := by
    rw [takenNames, List.length_append, Dictionary.keys, List.length_map, Dictionary.size]
  rw [numbered, ← hlength, List.find?_map]
  cases hfind : (List.range (interner.takenNames.length + 1)).find?
      ((fun candidate => !interner.isTaken candidate) ∘ fun i => primary ++ toString (i + 2)) with
  | none =>
    obtain ⟨i, hi, hfree⟩ := interner.exists_free primary
    have h := List.find?_range_eq_none.1 hfind i hi
    rw [Function.comp_apply, hfree] at h
    exact absurd h (by decide)
  | some i =>
    obtain ⟨hfree, -, hleast⟩ := List.find?_range_eq_some.1 hfind
    refine ⟨i + 2, by omega, rfl, by simpa using hfree, fun m hm hlt => ?_⟩
    have h := hleast (m - 2) (by omega)
    rw [Function.comp_apply, Nat.sub_add_cancel hm] at h
    simpa using h

/-! ## The choice -/

theorem primaryName_ne_empty (seed suffix : String) : primaryName seed suffix ≠ "" := by
  rw [primaryName]
  split
  · decide
  · rename_i h
    simpa using h

/-- **The chosen name is free.** -/
theorem isTaken_choose (interner : Interner) (seed fallback suffix : String) :
    interner.isTaken (interner.choose seed fallback suffix) = false := by
  simp only [choose]
  split
  · rename_i h
    simpa using h
  · split
    · rename_i h
      rw [Bool.and_eq_true] at h
      simpa using h.2
    · obtain ⟨n, -, hn, hfree, -⟩ := interner.exists_numbered (primaryName seed suffix)
      rw [hn, hfree]

theorem choose_ne_empty (interner : Interner) (seed fallback suffix : String) :
    interner.choose seed fallback suffix ≠ "" := by
  simp only [choose]
  split
  · exact primaryName_ne_empty seed suffix
  · split
    · rename_i h
      rw [Bool.and_eq_true, Bool.not_eq_true', String.isEmpty_eq_false_iff] at h
      rw [Ne, String.append_eq_empty_iff]
      exact fun h2 => h.1 h2.1
    · obtain ⟨n, -, hn, -, -⟩ := interner.exists_numbered (primaryName seed suffix)
      rw [hn, Ne, String.append_eq_empty_iff]
      exact fun h2 => primaryName_ne_empty seed suffix h2.1

end Interner
end Ambient
