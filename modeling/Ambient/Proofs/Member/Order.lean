import Ambient.Metadata.Basic

/-!
# The order of members

Members are sorted by name, and members of one name keep the order in which they are given.  So the
order in which the metadata lists them shows only among members of one name: two lists are sorted
alike just in case they have the same members, with those of each name in the same order.

## What is here

* `Reordered name xs ys` — the same members, those of each name in the same order.
* `pairwise_sortedByName`, `filter_sortedByName` — sorted members stand in the order of their names,
  and those of one name as they were given.
* `eq_of_filter_eq` — nothing else is needed to tell sorted lists apart.
* `sortedByName_eq_iff` — which lists are sorted alike.
-/

set_option autoImplicit false

namespace Ambient

variable {α : Type} {name : α → String} {xs ys : List α}

/-! ## What sorting keeps -/

/-- The order in which members are sorted, as the comparison that sorts them. -/
theorem not_decide_lt_iff {a b : String} : (!decide (b < a)) = true ↔ a ≤ b := by
  rw [Bool.not_eq_true', decide_eq_false_iff_not, String.not_lt]

theorem nameOrder_trans (name : α → String) (x y z : α)
    (hxy : (!decide (name y < name x)) = true) (hyz : (!decide (name z < name y)) = true) :
    (!decide (name z < name x)) = true := by
  rw [not_decide_lt_iff] at hxy hyz ⊢
  exact String.le_trans hxy hyz

theorem nameOrder_total (name : α → String) (x y : α) :
    (!decide (name y < name x) || !decide (name x < name y)) = true := by
  rw [Bool.or_eq_true, not_decide_lt_iff, not_decide_lt_iff]
  exact String.le_total _ _

/-- Sorted members stand in the order of their names. -/
theorem pairwise_sortedByName (name : α → String) (xs : List α) :
    (sortedByName name xs).Pairwise fun x y => name x ≤ name y :=
  (List.pairwise_mergeSort (nameOrder_trans name) (nameOrder_total name) xs).imp
    not_decide_lt_iff.1

/-- Members of one name stand as they were given. -/
theorem filter_sortedByName (name : α → String) (xs : List α) (n : String) :
    (sortedByName name xs).filter (name · == n) = xs.filter (name · == n) := by
  -- Members of one name are in order already, and sorting keeps what is in order.
  have hsorted : (xs.filter (name · == n)).Pairwise
      fun x y => (!decide (name y < name x)) = true := by
    refine List.pairwise_of_forall_mem_list fun x hx y hy => ?_
    have hxn : name x = n := by simpa using (List.mem_filter.1 hx).2
    have hyn : name y = n := by simpa using (List.mem_filter.1 hy).2
    simp [hxn, hyn]
  have hsub := List.sublist_mergeSort (nameOrder_trans name) (nameOrder_total name) hsorted
    (List.filter_sublist (l := xs))
  have hsub2 := hsub.filter (name · == n)
  rw [List.filter_filter] at hsub2
  simp only [Bool.and_self] at hsub2
  exact (hsub2.eq_of_length ((sortedByName_perm name xs).filter _).length_eq.symm).symm

/-! ## Telling sorted lists apart -/

theorem mem_of_filter_eq (h : ∀ n, xs.filter (name · == n) = ys.filter (name · == n)) {x : α}
    (hx : x ∈ xs) : x ∈ ys := by
  have hmem : x ∈ xs.filter (name · == name x) := List.mem_filter.2 ⟨hx, by simp⟩
  rw [h] at hmem
  exact (List.mem_filter.1 hmem).1

/-- Sorted lists are equal if they have the same members of each name, in the same order. -/
theorem eq_of_filter_eq (hxs : xs.Pairwise fun x y => name x ≤ name y)
    (hys : ys.Pairwise fun x y => name x ≤ name y)
    (h : ∀ n, xs.filter (name · == n) = ys.filter (name · == n)) : xs = ys := by
  induction xs generalizing ys with
  | nil =>
    cases ys with
    | nil => rfl
    | cons y ys => exact absurd (h (name y)) (by simp)
  | cons x xs ih =>
    cases ys with
    | nil => exact absurd (h (name x)) (by simp)
    | cons y ys =>
      rw [List.pairwise_cons] at hxs hys
      -- Each of the two first members is found in the other list, so they have one name.
      have hxy : name x ≤ name y := by
        rcases List.mem_cons.1 (mem_of_filter_eq (fun n => (h n).symm) (by simp : y ∈ y :: ys))
          with rfl | hmem
        · exact String.le_refl _
        · exact hxs.1 y hmem
      have hyx : name y ≤ name x := by
        rcases List.mem_cons.1 (mem_of_filter_eq h (by simp : x ∈ x :: xs)) with rfl | hmem
        · exact String.le_refl _
        · exact hys.1 x hmem
      have hname : name y = name x := String.le_antisymm hyx hxy
      obtain ⟨rfl, -⟩ : x = y ∧ _ := by simpa [hname] using h (name x)
      refine congrArg (x :: ·) (ih hxs.2 hys.2 fun n => ?_)
      have hn := h n
      rw [List.filter_cons, List.filter_cons] at hn
      split at hn
      · exact (List.cons.inj hn).2
      · exact hn

/-! ## Which lists are sorted alike -/

/-- The same members in any order, in which those of one name follow each other as before. -/
structure Reordered (name : α → String) (xs ys : List α) : Prop where
  perm : xs.Perm ys
  stable : ∀ n, xs.filter (name · == n) = ys.filter (name · == n)

/-- **Lists are sorted alike just in case they are reordered.** -/
theorem sortedByName_eq_iff :
    sortedByName name xs = sortedByName name ys ↔ Reordered name xs ys := by
  constructor
  · intro h
    refine ⟨?_, fun n => ?_⟩
    · exact (sortedByName_perm name xs).symm.trans (h ▸ sortedByName_perm name ys)
    · rw [← filter_sortedByName name xs, h, filter_sortedByName]
  · intro h
    refine eq_of_filter_eq (pairwise_sortedByName name xs) (pairwise_sortedByName name ys)
      fun n => ?_
    rw [filter_sortedByName, filter_sortedByName, h.stable]

end Ambient
