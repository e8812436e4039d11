import Ambient.Proofs.Interner.FreshName

/-!
# Which name is chosen

The choice of a name depends on which of its candidates are taken, and on nothing else: the first
choice is the name if it is free, the second if it is given and only the first is taken, and behind
both stand the numbers.  So the name of a new shape says which candidates were taken before.

## What is here

* `Chooses s seed fallback suffix name` — the name is one of the candidates, it is free, and those
  in front of it are not to be had.
* `chooses`, `Chooses.eq_choose` — the name that is chosen is the only one of which this holds.
* `choose_eq_of_isTaken` — other names may be taken without changing the choice.
* `isDigit_of_mem_numeral` — the characters of the numbers.
-/

set_option autoImplicit false

namespace Ambient
namespace Interner

/-- The name is the first of the candidates for a shape that is free. -/
inductive Chooses (s : Interner) (seed fallback suffix : String) : String → Prop
  | first (free : s.isTaken (primaryName seed suffix) = false) :
      Chooses s seed fallback suffix (primaryName seed suffix)
  | second (taken : s.isTaken (primaryName seed suffix) = true) (given : fallback ≠ "")
      (free : s.isTaken (fallback ++ suffix) = false) :
      Chooses s seed fallback suffix (fallback ++ suffix)
  | numbered (n : Nat) (taken : s.isTaken (primaryName seed suffix) = true)
      (noSecond : fallback = "" ∨ s.isTaken (fallback ++ suffix) = true) (two : 2 ≤ n)
      (free : s.isTaken (primaryName seed suffix ++ toString n) = false)
      (least : ∀ m, 2 ≤ m → m < n →
        s.isTaken (primaryName seed suffix ++ toString m) = true) :
      Chooses s seed fallback suffix (primaryName seed suffix ++ toString n)

variable {s t : Interner} {seed fallback suffix name : String}

/-- The name that is chosen is the first candidate that is free. -/
theorem chooses (s : Interner) (seed fallback suffix : String) :
    s.Chooses seed fallback suffix (s.choose seed fallback suffix) := by
  rw [choose]
  cases hfirst : s.isTaken (primaryName seed suffix) with
  | false => exact .first hfirst
  | true =>
    rw [Bool.not_true, if_neg Bool.false_ne_true]
    split
    · rename_i h
      rw [Bool.and_eq_true, Bool.not_eq_true', Bool.not_eq_true', String.isEmpty_eq_false_iff] at h
      exact .second hfirst h.1 h.2
    · rename_i h
      obtain ⟨n, htwo, hn, hfree, hleast⟩ := s.exists_numbered (primaryName seed suffix)
      rw [hn]
      refine .numbered n hfirst ?_ htwo hfree hleast
      by_cases hgiven : fallback = ""
      · exact Or.inl hgiven
      · refine Or.inr (by_contra fun htaken => h ?_)
        rw [Bool.and_eq_true, Bool.not_eq_true', Bool.not_eq_true', String.isEmpty_eq_false_iff]
        exact ⟨hgiven, Bool.eq_false_iff.2 htaken⟩

/-- **Only one name is the first candidate that is free.** -/
theorem Chooses.eq_choose (h : s.Chooses seed fallback suffix name) :
    s.choose seed fallback suffix = name := by
  rw [choose]
  cases h with
  | first free => rw [free, Bool.not_false, if_pos rfl]
  | second taken given free =>
    have hgiven : fallback.isEmpty = false := String.isEmpty_eq_false_iff.2 given
    rw [taken, Bool.not_true, if_neg Bool.false_ne_true, hgiven, free,
      if_pos (by rfl)]
  | numbered n taken noSecond two free least =>
    have hsecond : (!fallback.isEmpty && !s.isTaken (fallback ++ suffix)) = false := by
      rcases noSecond with rfl | htaken
      · rfl
      · rw [htaken, Bool.not_true, Bool.and_false]
    rw [taken, Bool.not_true, if_neg Bool.false_ne_true, hsecond, if_neg Bool.false_ne_true]
    obtain ⟨k, hk, hchosen, hkfree, hkleast⟩ := s.exists_numbered (primaryName seed suffix)
    -- Both numbers are the least one whose name is free.
    rcases Nat.lt_trichotomy k n with hlt | rfl | hlt
    · rw [least k hk hlt] at hkfree
      cases hkfree
    · exact hchosen
    · rw [hkleast n two hlt] at free
      cases free

/-- **Other names may be taken without changing the choice**, as long as the chosen one is free. -/
theorem choose_eq_of_isTaken (hmore : ∀ name, s.isTaken name = true → t.isTaken name = true)
    (hfree : t.isTaken (s.choose seed fallback suffix) = false) :
    t.choose seed fallback suffix = s.choose seed fallback suffix := by
  refine Chooses.eq_choose ?_
  generalize hname : s.choose seed fallback suffix = name at hfree
  have hchooses := s.chooses seed fallback suffix
  rw [hname] at hchooses
  cases hchooses with
  | first free => exact .first hfree
  | second taken given free => exact .second (hmore _ taken) given hfree
  | numbered n taken noSecond two free least =>
    exact .numbered n (hmore _ taken) (noSecond.imp_right (hmore _)) two hfree
      fun m hm hlt => hmore _ (least m hm hlt)

/-- The numbers behind a name are made of digits. -/
theorem isDigit_of_mem_numeral {k : Nat} {c : Char} (h : c ∈ (toString k).toList) :
    c.isDigit = true := by
  rw [Nat.toString_eq_ofList_toDigits, String.toList_ofList] at h
  exact Nat.isDigit_of_mem_toDigits (by decide) (by decide) h

end Interner
end Ambient
