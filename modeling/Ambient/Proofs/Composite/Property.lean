import Ambient.Composite

/-!
# A property decides its name

A property of a composite interface is a name, a colon, and what the name refers to.  A name may be
any text, with colons and all, so the end of the name cannot be seen from the left.  But the name
stands in the property twice: as it is, and capitalised at the end.  So the length of a property and
its first character decide how long the name is.

Three names are replaced by a fixed spelling.  They are as long as what they replace, because the
small letters that occur in them are the small form of one ASCII letter each and of nothing else.

## What is here

* `isLatin` — a small letter that only ASCII characters have in their small form.
* `length_of_lowercaseFrom` — a text whose small form is made of such letters is as long.
* `length_declarationName`, `length_propertyOf` — how long a capitalised name and a property are.
* `exposedName_eq_of_propertyOf_eq` — one property has one name.
-/

set_option autoImplicit false

namespace Ambient

open Character Text

/-! ## Letters that only ASCII characters become -/

namespace Character

/-- A small letter that only ASCII characters have in their small form.  The sign for Kelvin becomes
a `k`. -/
def isLatin (c : Char) : Bool := c.isLower && c != 'k'

theorem toNat_lt_of_isLatin {c : Char} (h : isLatin c = true) : c.toNat < 128 := by
  rw [isLatin, Bool.and_eq_true] at h
  have hlower : (decide ('a'.val ≤ c.val) && decide (c.val ≤ 'z'.val)) = true := h.1
  have hle : c.toNat ≤ 'z'.toNat := of_decide_eq_true (Bool.and_eq_true_iff.1 hlower).2
  exact Nat.lt_of_le_of_lt hle (by decide)

/-- An image under some shifts comes from one of them. -/
theorem Shift.exists_of_image {shifts : List Shift} {n i : Nat}
    (h : Shift.apply? shifts n = some i) :
    ∃ s ∈ shifts, s.domain.contains n = true ∧ i = (n + s.distance).toNat := by
  induction shifts with
  | nil => cases h
  | cons s rest ih =>
    unfold Shift.apply? at h
    split at h
    · cases h
    · split at h
      · rename_i hcontains
        exact ⟨s, List.mem_cons_self, hcontains, (Option.some.inj h).symm⟩
      · obtain ⟨s2, hs2, hrest⟩ := ih h
        exact ⟨s2, List.mem_cons_of_mem s hs2, hrest⟩

/-- Where the small form takes several characters, one of them is no such letter. -/
theorem severalLower_beyond : ∀ entry ∈ severalLower,
    (entry.2.map Char.ofNat).all isLatin = false := by
  decide +kernel

/-- Apart from the sign for Kelvin, letters beyond ASCII stay beyond ASCII. -/
theorem lowerShifts_beyond : ∀ s ∈ lowerShifts,
    s.domain.last < 128 ∨ 128 ≤ s.domain.first + s.distance ∨
      s.domain.first = 0x212A ∧ s.domain.last = 0x212A ∧ s.distance = -8383 := by
  decide +kernel

/-- A code point of a character is that of the character. -/
theorem toNat_ofNat {n : Nat} (h : n.isValidChar) : (Char.ofNat n).toNat = n := by
  rw [Char.ofNat, dif_pos h]
  rfl

/-- Such a letter does not stand for an invalid code point. -/
theorem lt_of_isLatin_ofNat {n : Nat} (h : isLatin (Char.ofNat n) = true) : n < 128 := by
  by_cases hn : n.isValidChar
  · exact toNat_ofNat hn ▸ toNat_lt_of_isLatin h
  · rw [Char.ofNat, dif_neg hn] at h
    exact absurd h (by decide)

/-- Only ASCII characters have such letters as their small form. -/
theorem toNat_lt_of_lower {c : Char} (h : ∀ d ∈ lower c, isLatin d = true) : c.toNat < 128 := by
  rw [lower, mapWith] at h
  split at h
  · rename_i spelled hspelled
    obtain ⟨before, after, hentries, -⟩ := List.lookup_eq_some_iff.1 hspelled
    have hbeyond := severalLower_beyond (c.toNat, spelled) (hentries ▸ by simp)
    rw [List.all_eq_true.2 h] at hbeyond
    cases hbeyond
  · split at h
    · rename_i i hi
      have hlatin : isLatin (Char.ofNat i) = true := h _ (List.mem_singleton.2 rfl)
      have himage := lt_of_isLatin_ofNat hlatin
      obtain ⟨s, hs, hcontains, rfl⟩ := Shift.exists_of_image hi
      rw [Stride.contains, Bool.and_eq_true, Bool.and_eq_true] at hcontains
      have hfirst : s.domain.first ≤ c.toNat := of_decide_eq_true hcontains.1.1
      have hlast : c.toNat ≤ s.domain.last := of_decide_eq_true hcontains.1.2
      rcases lowerShifts_beyond s hs with hascii | hbeyond | ⟨hkelvin, hkelvin2, hdistance⟩
      · omega
      · omega
      · have hc : c.toNat = 0x212A := by omega
        rw [hc, hdistance] at hlatin
        exact absurd hlatin (by decide)
    · exact toNat_lt_of_isLatin (h c (List.mem_singleton.2 rfl))

/-- The forms of an ASCII character are single characters. -/
theorem length_forms {c : Char} (h : c.toNat < 128) :
    (lower c).length = 1 ∧ (upper c).length = 1 := by
  have hall : ∀ n < 128,
      (lower (Char.ofNat n)).length = 1 ∧ (upper (Char.ofNat n)).length = 1 := by
    decide +kernel
  have hc := hall c.toNat h
  rwa [Char.ofNat_toNat] at hc

end Character

/-! ## Lengths of names -/

namespace Text

theorem isLatin_smallSigma (before after : List Char) :
    isLatin (smallSigma before after) = false := by
  rw [smallSigma]
  split <;> decide

/-- A text whose small form is made of such letters is as long, and is ASCII. -/
theorem length_of_lowercaseFrom {before s : List Char}
    (h : ∀ d ∈ lowercaseFrom before s, isLatin d = true) :
    (lowercaseFrom before s).length = s.length ∧ ∀ c ∈ s, c.toNat < 128 := by
  induction s generalizing before with
  | nil => exact ⟨rfl, by simp⟩
  | cons c rest ih =>
    rw [lowercaseFrom] at h ⊢
    obtain ⟨hlength, hrest⟩ := ih fun d hd => h d (List.mem_append_right _ hd)
    have hfirst := fun d hd => h d (List.mem_append_left _ hd)
    by_cases hsigma : c = 'Σ'
    · rw [if_pos hsigma] at hfirst
      have hlatin := hfirst _ (List.mem_singleton.2 rfl)
      rw [isLatin_smallSigma] at hlatin
      cases hlatin
    · rw [if_neg hsigma] at hfirst ⊢
      have hc := toNat_lt_of_lower hfirst
      refine ⟨?_, fun d hd => ?_⟩
      · rw [List.length_append, (length_forms hc).1, hlength, List.length_cons, Nat.add_comm]
      · rcases List.mem_cons.1 hd with rfl | hd
        · exact hc
        · exact hrest d hd

/-- How many characters the first character of a text becomes when it is capitalised, and one for
the empty text. -/
def capitalLength : List Char → Nat
  | [] => 1
  | c :: _ => (upper c).length

theorem length_upperFirst (s : String) :
    (upperFirst s).length + 1 = s.length + capitalLength s.toList := by
  have hlength : s.length = s.toList.length := String.length_toList.symm
  rw [upperFirst, hlength]
  cases s.toList with
  | nil => rfl
  | cons c rest =>
    simp only [String.length_ofList, List.length_append, List.length_cons, capitalLength]
    omega

/-- A text whose small form is made of such letters is as long when it is capitalised. -/
theorem length_upperFirst_of_lowercase {s small : String} (h : lowercase s = small)
    (hlatin : small.toList.all isLatin = true) : (upperFirst s).length = small.length := by
  have hsmall : lowercaseFrom [] s.toList = small.toList := by
    rw [← h, lowercase, String.toList_ofList]
  rw [← hsmall, List.all_eq_true] at hlatin
  obtain ⟨hlength, hascii⟩ := length_of_lowercaseFrom hlatin
  have hcapital : capitalLength s.toList = 1 := by
    cases hs : s.toList with
    | nil => rfl
    | cons c rest => exact (length_forms (hascii c (by simp [hs]))).2
  rw [hsmall, String.length_toList, String.length_toList] at hlength
  have hupper := length_upperFirst s
  omega

end Text

/-- A capitalised name is as long as the name of the property, but for what the first character of
the latter gains. -/
theorem length_declarationName (m : Module) :
    m.declarationName.length + 1
      = (exposedName m.name).length + capitalLength (exposedName m.name).toList := by
  rw [Module.declarationName, exposedName]
  split
  · rename_i h
    rw [length_upperFirst_of_lowercase h (by decide)]
    decide
  · rename_i h
    rw [length_upperFirst_of_lowercase h (by decide)]
    decide
  · rename_i h
    rw [length_upperFirst_of_lowercase h (by decide)]
    decide
  · exact length_upperFirst m.name

/-! ## Properties -/

section

variable {roster : Roster} {space : String} {m n : Module}

/-- What a property gains at its first character is what its name gains. -/
theorem capitalLength_append_colon (name rest : List Char) :
    capitalLength (name ++ ':' :: rest) = capitalLength name := by
  cases name with
  | nil => exact (length_forms (by decide)).2
  | cons c more => rfl

theorem exists_propertyOf (roster : Roster) (space : String) (m : Module) :
    ∃ rest, (propertyOf roster space m).toList = (exposedName m.name).toList ++ ':' :: rest := by
  rw [propertyOf]
  simp only [String.toList_append, List.append_assoc]
  exact ⟨_, rfl⟩

/-- The length of a property, by the length of its name. -/
theorem length_propertyOf (roster : Roster) (space : String) (m : Module) :
    (propertyOf roster space m).length = 2 * (exposedName m.name).length
      + capitalLength (propertyOf roster space m).toList
      + (if roster.isClassLike m then 7 else 0) + space.length + 2 := by
  obtain ⟨rest, hrest⟩ := exists_propertyOf roster space m
  have hcapital : capitalLength (propertyOf roster space m).toList
      = capitalLength (exposedName m.name).toList := by
    rw [hrest, capitalLength_append_colon]
  have hname := length_declarationName m
  rw [hcapital, propertyOf]
  simp only [String.length_append]
  cases roster.isClassLike m with
  | true =>
    have hqualifier : ": ".length = 2 ∧ "typeof ".length = 7 ∧ ".".length = 1 := by decide
    simp only [if_true]
    omega
  | false =>
    have hqualifier : ": ".length = 2 ∧ "".length = 0 ∧ ".".length = 1 := by decide
    simp only [Bool.false_eq_true, if_false]
    omega

/-- **A property decides its name.** -/
theorem exposedName_eq_of_propertyOf_eq
    (h : propertyOf roster space m = propertyOf roster space n) :
    exposedName m.name = exposedName n.name := by
  -- The two lengths differ by an even number and by seven or nothing.
  have hlength : (exposedName m.name).length = (exposedName n.name).length := by
    have hm := length_propertyOf roster space m
    have hn := length_propertyOf roster space n
    rw [h] at hm
    split at hm <;> split at hn <;> omega
  obtain ⟨rest, hm⟩ := exists_propertyOf roster space m
  obtain ⟨rest2, hn⟩ := exists_propertyOf roster space n
  rw [h, hn] at hm
  refine String.toList_inj.1 (List.append_inj_left hm.symm ?_)
  rw [String.length_toList, String.length_toList, hlength]

end

end Ambient
