import Mathlib.Data.Finset.Card
import Ambient.Proofs.Interner.Choice
import Ambient.Proofs.Interner.Session

/-!
# Claims

A claim chooses a name for a new shape and binds a key to it.  The search for a number behind the
name ends: a number is passed over only if the name with it is taken, the name without a number is
taken as well, and all of these names are different.  So the number that is found is at most one
more than the names that are taken.

## What is here

* `Prefers s seed fallback suffix name` — the name is the first choice, or else the second, or else
  the first with the least number from two on that makes it free.
* `Binds s key name t` — `t` is `s` with the key bound to the name, and the name with an empty body
  behind all others.
* `numeral_le` — how far the search for a number goes.
* `claim_binds_preferred` — a claim binds the key to the preferred name, which is new.
-/

set_option autoImplicit false

namespace Ambient
namespace Interner

variable {s : Interner} {seed fallback suffix name : String}

/-! ## The choice -/

/-- Which name is to be chosen. -/
structure Prefers (s : Interner) (seed fallback suffix name : String) : Prop where
  /-- The first choice, if it is free. -/
  first : s.isTaken (primaryName seed suffix) = false → name = primaryName seed suffix
  /-- Else the second, if there is one and it is free. -/
  second : s.isTaken (primaryName seed suffix) = true → fallback ≠ "" →
    s.isTaken (fallback ++ suffix) = false → name = fallback ++ suffix
  /-- Else the first choice with the least number from two on that makes it free.  The number is at
  most one more than the names that are taken. -/
  numbered : s.isTaken (primaryName seed suffix) = true →
    fallback = "" ∨ s.isTaken (fallback ++ suffix) = true →
    ∃ n, 2 ≤ n ∧ name = primaryName seed suffix ++ toString n ∧
      s.isTaken (primaryName seed suffix ++ toString n) = false ∧
      (∀ m, 2 ≤ m → m < n → s.isTaken (primaryName seed suffix ++ toString m) = true) ∧
      n ≤ s.takenNames.toFinset.card + 1

theorem numeral_ne_empty (n : Nat) : toString n ≠ "" := by
  intro h
  have hdigits := congrArg String.toList h
  rw [Nat.toString_eq_ofList_toDigits, String.toList_ofList] at hdigits
  exact Nat.toDigits_ne_nil hdigits

/-- If a name is taken, and also with every number from two on up to `n`, at least `n` names are
taken. -/
theorem numeral_le {primary : String} {n : Nat} (htaken : s.isTaken primary = true)
    (hnumbers : ∀ m, 2 ≤ m → m < n → s.isTaken (primary ++ toString m) = true) :
    n ≤ s.takenNames.toFinset.card + 1 := by
  have hnodup :
      (primary :: (List.range (n - 2)).map fun i => primary ++ toString (i + 2)).Nodup := by
    refine List.nodup_cons.2 ⟨fun h => ?_, List.Nodup.map (fun i j hij => ?_) List.nodup_range⟩
    · obtain ⟨i, -, hi⟩ := List.mem_map.1 h
      exact numeral_ne_empty _ (String.append_eq_left_iff.1 hi)
    · have hnumbers := numeral_injective ((String.append_right_inj primary).1 hij)
      omega
  have hsubset : (primary :: (List.range (n - 2)).map fun i => primary ++ toString (i + 2)) ⊆
      s.takenNames := by
    refine List.cons_subset.2 ⟨mem_takenNames.2 htaken, fun name hname => ?_⟩
    obtain ⟨i, hi, rfl⟩ := List.mem_map.1 hname
    have hlt := List.mem_range.1 hi
    exact mem_takenNames.2 (hnumbers (i + 2) (by omega) (by omega))
  have hcard : _ ≤ s.takenNames.toFinset.card := Finset.card_le_card fun name hname =>
    List.mem_toFinset.2 (hsubset (List.mem_toFinset.1 hname))
  rw [List.toFinset_card_of_nodup hnodup, List.length_cons, List.length_map, List.length_range]
    at hcard
  omega

/-- The name that is chosen is the preferred one. -/
theorem prefers_choose (s : Interner) (seed fallback suffix : String) :
    s.Prefers seed fallback suffix (s.choose seed fallback suffix) := by
  generalize hname : s.choose seed fallback suffix = name
  have hchooses := s.chooses seed fallback suffix
  rw [hname] at hchooses
  -- In each of the three cases the conditions of the others fail.
  cases hchooses with
  | first free =>
    exact ⟨fun _ => rfl, fun taken => by simp [free] at taken, fun taken => by simp [free] at taken⟩
  | second taken given free =>
    refine ⟨fun hfree => by simp [taken] at hfree, fun _ _ _ => rfl, fun _ hnone => ?_⟩
    rcases hnone with hempty | htaken
    · exact absurd hempty given
    · rw [free] at htaken
      cases htaken
  | numbered n taken noSecond two free least =>
    refine ⟨fun hfree => by simp [taken] at hfree, fun _ given hfree => ?_,
      fun _ _ => ⟨n, two, rfl, free, least, numeral_le taken least⟩⟩
    rcases noSecond with hempty | htaken
    · exact absurd hempty given
    · rw [hfree] at htaken
      cases htaken

/-- A name that has been given away with a number is passed over like any other. -/
example : (Interner.empty.reserve ["Size", "Size2", "ResizeSize"]).choose "" "Resize" "Size"
    = "Size3" := by decide +kernel

/-! ## What a claim changes -/

/-- `t` is `s` with one more name, to which the key is bound. -/
structure Binds (s : Interner) (key name : String) (t : Interner) : Prop where
  /-- The key has the name. -/
  bound : t.lookup? key = some name
  /-- Other keys have the names that they had. -/
  others : ∀ other, other ≠ key → t.lookup? other = s.lookup? other
  /-- The interfaces keep their bodies and their order, and the new one stands behind them. -/
  interfaces : t.interfaces = s.interfaces ++ [⟨name, []⟩]
  /-- The same names are reserved. -/
  reserved : t.reserved = s.reserved
  /-- The new name is taken, and besides it those that were. -/
  taken : ∀ other, t.isTaken other = true ↔ other = name ∨ s.isTaken other = true

theorem binds_claim (s : Interner) (key seed fallback suffix : String) :
    s.Binds key (s.choose seed fallback suffix) (s.claim key seed fallback suffix).2 where
  bound := lookup?_claim s key seed fallback suffix
  others other h := Dictionary.get?_insert_of_ne _ h _
  interfaces := by
    rw [interfaces, entries_bodies_claim, List.map_append]
    rfl
  reserved := rfl
  taken other := by
    have hreserved : (s.claim key seed fallback suffix).2.reserved = s.reserved := rfl
    rw [isTaken_iff, isTaken_iff, keys_claim, hreserved, List.mem_append, List.mem_singleton,
      or_comm (a := other ∈ s.bodies.keys), or_assoc]

/-- **A claim ends with a new name, chosen by preference.**  In every state it binds its key to a
name that is a word and that nobody had before: the first choice if that is free, else the second if
there is one and it is free, else the first choice with the least number from two on that makes it
free.  Nothing else changes. -/
theorem claim_binds_preferred (s : Interner) (key seed fallback suffix : String) :
    ∃ name t, s.claim key seed fallback suffix = (name, t) ∧ name ≠ "" ∧
      name ∉ s.interfaces.map Interface.name ∧ name ∉ s.reserved ∧
      s.Prefers seed fallback suffix name ∧ s.Binds key name t := by
  refine ⟨_, _, rfl, s.choose_ne_empty seed fallback suffix, ?_,
    s.choose_notMem_reserved seed fallback suffix, s.prefers_choose seed fallback suffix,
    s.binds_claim key seed fallback suffix⟩
  rw [interfaces, List.map_map]
  exact s.choose_notMem_keys seed fallback suffix

end Interner
end Ambient
