import Ambient.Proofs.Text.Ascii
import Ambient.Text.CamelCase

/-!
# What capitalised and camel-cased texts are made of

A camel-cased name has the letters and digits of the name, in another case.  So it has no ASCII
characters but letters and digits, whatever the name has.  A name that begins with an ASCII letter
begins with that letter in capitals when it is camel-cased and capitalised.

## What is here

* `KeptByCase P` — mappings of letter case lead from characters that satisfy `P` to such characters;
  `keptByCase_isTame`, `keptByCase_ascii` — two conditions that are kept.
* `forall_mem_upperFirst`, `forall_mem_camelCase` — the characters of such texts.
* `startsCapital` — a text begins with a capital ASCII letter; `startsCapital_upperFirst`,
  `startsCapital_upperFirst_camelCase` — texts of which that holds.
* `startsSmall` — a text begins with a small ASCII letter, which no capitalised text does;
  `exists_of_upperFirst` — which texts become a given one when they are capitalised.
-/

set_option autoImplicit false

namespace Ambient
namespace Text

open Character

/-! ## Characters -/

/-- The other case of a character that satisfies the condition satisfies it too. -/
structure KeptByCase (P : Char → Prop) : Prop where
  lower : ∀ c d, P c → d ∈ lower c → P d
  upper : ∀ c d, P c → d ∈ upper c → P d
  sigma : P 'Σ' → P 'σ' ∧ P 'ς'

theorem keptByCase_isTame : KeptByCase IsTame where
  lower _ _ := isTame_of_mem_lower
  upper _ _ := isTame_of_mem_upper
  sigma _ := ⟨fun h => absurd h (by decide), fun h => absurd h (by decide)⟩

theorem keptByCase_ascii : KeptByCase fun c => c.toNat < 128 where
  lower c d hc hd := by
    rw [lower_of_ascii hc] at hd
    rw [List.mem_singleton.1 hd]
    exact (ascii_toLower hc).1
  upper c d hc hd := by
    rw [upper_of_ascii hc] at hd
    rw [List.mem_singleton.1 hd]
    exact (ascii_toUpper hc).1
  sigma h := absurd h (by decide)

section

variable {P : Char → Prop} (hP : KeptByCase P)

include hP

theorem forall_mem_lowercaseFrom {before s : List Char} (h : ∀ c ∈ s, P c) :
    ∀ d ∈ lowercaseFrom before s, P d := by
  induction s generalizing before with
  | nil => simp [lowercaseFrom]
  | cons c rest ih =>
    intro d hd
    rw [lowercaseFrom, List.mem_append] at hd
    have hc := h c List.mem_cons_self
    rcases hd with hd | hd
    · by_cases hsigma : c = 'Σ'
      · rw [if_pos hsigma, smallSigma, List.mem_singleton] at hd
        rw [hsigma] at hc
        rw [hd]
        split
        · exact (hP.sigma hc).2
        · exact (hP.sigma hc).1
      · rw [if_neg hsigma] at hd
        exact hP.lower c d hc hd
    · exact ih (fun e he => h e (List.mem_cons_of_mem c he)) d hd

theorem forall_mem_lowercase {s : String} (h : ∀ c ∈ s.toList, P c) :
    ∀ d ∈ (lowercase s).toList, P d := by
  rw [lowercase, String.toList_ofList]
  exact forall_mem_lowercaseFrom hP h

theorem forall_mem_upperFirst {s : String} (h : ∀ c ∈ s.toList, P c) :
    ∀ d ∈ (upperFirst s).toList, P d := by
  rw [upperFirst]
  split
  · simp
  · rename_i c rest hs
    rw [hs] at h
    rw [String.toList_ofList]
    intro d hd
    rcases List.mem_append.1 hd with hd | hd
    · exact hP.upper c d (h c List.mem_cons_self) hd
    · exact h d (List.mem_cons_of_mem c hd)

end

theorem forall_mem_finishWord {P : Char → Prop} {current w : List Char}
    (h : ∀ c ∈ current, P c) (hw : w ∈ finishWord current) : ∀ c ∈ w, P c := by
  rw [finishWord] at hw
  split at hw
  · cases hw
  · rw [List.mem_singleton.1 hw]
    exact fun c hc => h c (List.mem_reverse.1 hc)

/-- The words of a name are made of its letters and digits. -/
theorem forall_mem_splitWordsFrom {P : Char → Prop} {current s : List Char}
    (hcurrent : ∀ c ∈ current, P c) (hs : ∀ c ∈ s, isAlphanumeric c = true → P c) :
    ∀ w ∈ splitWordsFrom current s, ∀ c ∈ w, P c := by
  fun_induction splitWordsFrom current s with
  | case1 current => exact fun w => forall_mem_finishWord hcurrent
  | case2 current c rest hc ih =>
    have hrest := fun d hd => hs d (List.mem_cons_of_mem c hd)
    exact List.forall_mem_append.2
      ⟨fun w => forall_mem_finishWord hcurrent, ih (by simp) hrest⟩
  | case3 c rest hc ih =>
    rw [Bool.not_eq_true, Bool.not_eq_false'] at hc
    rw [List.forall_mem_cons] at hs
    exact ih (by simpa using hs.1 hc) hs.2
  | case4 c rest hc before earlier hstart ih =>
    rw [Bool.not_eq_true, Bool.not_eq_false'] at hc
    rw [List.forall_mem_cons] at hs
    exact List.forall_mem_append.2
      ⟨fun w => forall_mem_finishWord hcurrent, ih (by simpa using hs.1 hc) hs.2⟩
  | case5 c rest hc before earlier hstart ih =>
    rw [Bool.not_eq_true, Bool.not_eq_false'] at hc
    rw [List.forall_mem_cons] at hs
    exact ih (List.forall_mem_cons.2 ⟨hs.1 hc, hcurrent⟩) hs.2

/-- **The characters of a camel-cased name** are its letters and digits in another case. -/
theorem forall_mem_camelCase {P : Char → Prop} (hP : KeptByCase P) {s : String}
    (h : ∀ c ∈ s.toList, isAlphanumeric c = true → P c) :
    ∀ d ∈ (camelCase s).toList, P d := by
  have hwords : ∀ word ∈ splitWords s, ∀ c ∈ word.toList, P c := by
    intro word hword c hc
    obtain ⟨w, hw, rfl⟩ := List.mem_map.1 hword
    rw [String.toList_ofList] at hc
    exact forall_mem_splitWordsFrom (by simp) h w hw c hc
  rw [camelCase]
  split
  · simp
  · rename_i first rest hsplit
    rw [hsplit] at hwords
    intro d hd
    rw [String.toList_join, List.mem_flatMap] at hd
    obtain ⟨part, hpart, hd⟩ := hd
    rcases List.mem_cons.1 hpart with rfl | hpart
    · exact forall_mem_lowercase hP (hwords first List.mem_cons_self) d hd
    · obtain ⟨word, hword, rfl⟩ := List.mem_map.1 hpart
      exact forall_mem_upperFirst hP
        (forall_mem_lowercase hP (hwords word (List.mem_cons_of_mem first hword))) d hd

/-- ASCII characters of a camel-cased name are letters and digits. -/
theorem isTame_of_mem_camelCase {s : String} {d : Char}
    (hd : d ∈ (upperFirst (camelCase s)).toList) : IsTame d :=
  forall_mem_upperFirst keptByCase_isTame
    (forall_mem_camelCase keptByCase_isTame fun _ _ => isTame_of_isAlphanumeric) d hd

/-! ## First characters -/

/-- The text begins with a capital ASCII letter. -/
def startsCapital (s : String) : Bool := s.toList.head?.any Char.isUpper

theorem startsCapital_iff {s : String} :
    startsCapital s = true ↔ ∃ c rest, s.toList = c :: rest ∧ c.isUpper = true := by
  rw [startsCapital]
  cases s.toList <;> simp

theorem startsCapital_append {s t : String} (h : startsCapital s = true) :
    startsCapital (s ++ t) = true := by
  obtain ⟨c, rest, hs, hc⟩ := startsCapital_iff.1 h
  exact startsCapital_iff.2 ⟨c, rest ++ t.toList, by rw [String.toList_append, hs]; rfl, hc⟩

theorem ne_empty_of_startsCapital {s : String} (h : startsCapital s = true) : s ≠ "" := by
  rintro rfl
  exact absurd h (by decide)

theorem toList_upperFirst {s : String} {c : Char} {rest : List Char} (h : s.toList = c :: rest) :
    (upperFirst s).toList = upper c ++ rest := by
  rw [upperFirst, h, String.toList_ofList]

/-- Only the first of two texts is affected when they are joined and capitalised. -/
theorem upperFirst_append {s t : String} (h : s ≠ "") :
    upperFirst (s ++ t) = upperFirst s ++ t := by
  obtain ⟨c, rest, hs⟩ := List.exists_cons_of_ne_nil (mt String.toList_eq_nil_iff.1 h)
  have htext : (s ++ t).toList = c :: (rest ++ t.toList) := by
    rw [String.toList_append, hs]
    rfl
  refine String.toList_inj.1 ?_
  rw [toList_upperFirst htext, String.toList_append, toList_upperFirst hs, List.append_assoc]

/-- A text that begins with an ASCII letter begins with a capital when it is capitalised. -/
theorem startsCapital_upperFirst {s : String} {c : Char} {rest : List Char}
    (h : s.toList = c :: rest) (hc : c.isAlpha = true) : startsCapital (upperFirst s) = true := by
  have hupper : c.isAlpha = true → c.toUpper.isUpper = true :=
    forall_ascii (P := fun c => c.isAlpha = true → c.toUpper.isUpper = true) (by decide +kernel)
      (ascii_of_isAlpha hc)
  refine startsCapital_iff.2 ⟨c.toUpper, rest, ?_, hupper hc⟩
  rw [toList_upperFirst h, upper_of_ascii (ascii_of_isAlpha hc)]
  rfl

/-- A text that begins with a capital is capitalised. -/
theorem upperFirst_of_startsCapital {s : String} (h : startsCapital s = true) :
    upperFirst s = s := by
  obtain ⟨c, rest, hs, hc⟩ := startsCapital_iff.1 h
  have hascii : c.toNat < 128 := ascii_of_isAlpha (isAlpha_iff.2 (Or.inl hc))
  have hupper : c.isUpper = true → c.toUpper = c :=
    forall_ascii (P := fun c => c.isUpper = true → c.toUpper = c) (by decide +kernel) hascii
  refine String.toList_inj.1 ?_
  rw [toList_upperFirst hs, upper_of_ascii hascii, hupper hc, hs]
  rfl

/-- The word under way is the beginning of the first word. -/
theorem exists_splitWordsFrom {current : List Char} (s : List Char) (h : current ≠ []) :
    ∃ more others, splitWordsFrom current s = (current.reverse ++ more) :: others := by
  have hfinish {current : List Char} (h : current ≠ []) :
      finishWord current = [current.reverse] := by
    rw [finishWord, if_neg (by simpa using h)]
  induction s generalizing current with
  | nil => exact ⟨[], [], by rw [splitWordsFrom, hfinish h, List.append_nil]⟩
  | cons d rest ih =>
    obtain ⟨before, earlier, rfl⟩ := List.exists_cons_of_ne_nil h
    rw [splitWordsFrom]
    split
    · exact ⟨[], _, by rw [hfinish h, List.append_nil, List.singleton_append]⟩
    · split
      · exact ⟨[], _, by rw [hfinish h, List.append_nil, List.singleton_append]⟩
      · obtain ⟨more, others, hsplit⟩ := ih (List.cons_ne_nil d (before :: earlier))
        refine ⟨d :: more, others, ?_⟩
        rw [hsplit, List.reverse_cons, List.append_assoc, List.singleton_append]

/-- A name that begins with an ASCII letter begins with that letter, in the small form, when it is
camel-cased. -/
theorem exists_camelCase {s : String} {c : Char} {rest : List Char} (h : s.toList = c :: rest)
    (hc : c.isAlpha = true) : ∃ more, (camelCase s).toList = c.toLower :: more := by
  have hascii := ascii_of_isAlpha hc
  have halnum : isAlphanumeric c = true := by
    rw [isAlphanumeric_of_ascii hascii, isAlphanum_iff]
    exact Or.inl hc
  have hsigma : c ≠ 'Σ' := by
    rintro rfl
    exact absurd hascii (by decide)
  obtain ⟨more, others, hsplit⟩ := exists_splitWordsFrom rest (List.cons_ne_nil c [])
  have hwords : splitWords s = String.ofList (c :: more) :: others.map String.ofList := by
    rw [splitWords, h, splitWordsFrom, halnum, Bool.not_true, if_neg Bool.false_ne_true]
    exact congrArg _ hsplit
  rw [camelCase, hwords]
  dsimp only
  rw [String.toList_join, List.flatMap_cons, lowercase, String.toList_ofList,
    String.toList_ofList, lowercaseFrom, if_neg hsigma, lower_of_ascii hascii]
  exact ⟨_, rfl⟩

/-- **A name that begins with an ASCII letter begins with a capital** when it is camel-cased and
capitalised. -/
theorem startsCapital_upperFirst_camelCase {s : String} {c : Char} {rest : List Char}
    (h : s.toList = c :: rest) (hc : c.isAlpha = true) :
    startsCapital (upperFirst (camelCase s)) = true := by
  obtain ⟨more, hmore⟩ := exists_camelCase h hc
  have hlower : c.isAlpha = true → c.toLower.isAlpha = true :=
    forall_ascii (P := fun c => c.isAlpha = true → c.toLower.isAlpha = true) (by decide +kernel)
      (ascii_of_isAlpha hc)
  exact startsCapital_upperFirst hmore (hlower hc)

/-- The text begins with a small ASCII letter. -/
def startsSmall (s : String) : Bool := s.toList.head?.any Char.isLower

theorem startsSmall_of_toList {s : String} {c : Char} {rest : List Char}
    (h : s.toList = c :: rest) : startsSmall s = c.isLower := by
  rw [startsSmall, h]
  rfl

theorem startsSmall_append {s t : String} (hs : startsSmall s = false)
    (ht : startsSmall t = false) : startsSmall (s ++ t) = false := by
  cases hlist : s.toList with
  | nil => rwa [String.toList_eq_nil_iff.1 hlist, String.empty_append]
  | cons c rest =>
    have htext : (s ++ t).toList = c :: (rest ++ t.toList) := by
      rw [String.toList_append, hlist]
      rfl
    rw [startsSmall_of_toList hlist] at hs
    rwa [startsSmall_of_toList htext]

/-- **No capitalised text begins with a small letter.** -/
theorem startsSmall_upperFirst (s : String) : startsSmall (upperFirst s) = false := by
  cases hs : s.toList with
  | nil =>
    rw [String.toList_eq_nil_iff.1 hs]
    rfl
  | cons c rest =>
    obtain ⟨d, more, hupper⟩ := List.exists_cons_of_ne_nil (upper_ne_nil c)
    have htext : (upperFirst s).toList = d :: (more ++ rest) := by
      rw [toList_upperFirst hs, hupper]
      rfl
    rw [startsSmall_of_toList htext]
    exact not_isLower_of_mem_upper (hupper ▸ List.mem_cons_self)

/-- A text that becomes a capital and small letters when it is capitalised begins with an ASCII
letter, unless the capital is one of those that variants of small letters have. -/
theorem exists_of_upperFirst {s : String} {c d : Char} {rest : List Char}
    (h : (upperFirst s).toList = c :: d :: rest) (hc : c.toNat < 128) (hI : c ≠ 'I') (hS : c ≠ 'S')
    (hd : d.isLower = true) : ∃ b, s.toList = b :: d :: rest ∧ b.toNat < 128 ∧ b.toUpper = c := by
  cases hs : s.toList with
  | nil =>
    rw [String.toList_eq_nil_iff.1 hs] at h
    cases h
  | cons b more =>
    rw [toList_upperFirst hs] at h
    by_cases hb : b.toNat < 128
    · rw [upper_of_ascii hb] at h
      obtain ⟨hcapital, hrest⟩ : b.toUpper = c ∧ more = d :: rest := List.cons.inj h
      exact ⟨b, by rw [hrest], hb, hcapital⟩
    · rcases upper_of_beyond (Nat.le_of_not_lt hb) with ⟨e, f, others, hupper⟩ | ⟨e, hupper, he⟩
      · -- A second capital would have to be the small letter.
        rw [hupper] at h
        obtain ⟨-, hrest⟩ := List.cons.inj h
        have hf : f = d := (List.cons.inj hrest).1
        have hsmall : d.isLower = false :=
          not_isLower_of_mem_upper (c := b)
            (hupper ▸ hf ▸ List.mem_cons_of_mem _ List.mem_cons_self)
        rw [hd] at hsmall
        cases hsmall
      · rw [hupper] at h
        have hec : e = c := (List.cons.inj h).1
        rw [hec] at he
        rcases he with hbeyond | heI | heS
        · omega
        · exact absurd heI hI
        · exact absurd heS hS

end Text
end Ambient
