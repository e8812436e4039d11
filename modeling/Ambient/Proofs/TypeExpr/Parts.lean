import Ambient.Proofs.TypeExpr.Token

/-!
# Tokens of parts of a text

A token is read by looking at what follows, so what stands in front of some place is in general
read in another way if the text ends there.  It is not if a token ends there: then the tokens in
front are those of the text in front.  So a text can be taken apart at any of its signs, and the
blanks around it can be left out.

## What is here

* `firstToken_of_append` — the first token of a text, and of as much of it as the token needs.
* `Tokens.split` — **the tokens on either side of a sign** are those of the text on either side.
* `Tokens.trim` — the tokens of a text without the blanks around it.
-/

set_option autoImplicit false

namespace Ambient

open Character Literal Text

/-! ## The first token -/

section

variable {s t : List Char} {c : Char} {token : Option TypeToken} {taken : Nat}

theorem takeWhile_of_append {p : Char → Bool}
    (h : ((s ++ t).takeWhile p).length ≤ s.length) : (s ++ t).takeWhile p = s.takeWhile p := by
  rw [List.takeWhile_append] at h ⊢
  split at h
  · rename_i hall
    rw [List.length_append] at h
    have hnone : t.takeWhile p = [] := List.length_eq_zero_iff.1 (by omega)
    rw [if_pos hall, hnone, List.append_nil, (List.takeWhile_sublist p).eq_of_length hall]
  · rename_i hall
    rw [if_neg hall]

/-- A sign at the start of a text is one at the start of any part that it fits into. -/
theorem find?_signs_of_append {e : List Char × TypeToken}
    (h : TypeToken.signs.find? (fun e => e.1.isPrefixOf (s ++ t)) = some e)
    (hle : e.1.length ≤ s.length) :
    TypeToken.signs.find? (fun e => e.1.isPrefixOf s) = some e := by
  obtain ⟨-, front, back, hsigns, hnone⟩ := List.find?_eq_some_iff_append.1 h
  have hstarts := List.prefix_of_prefix_length_le (isPrefix_of_find? h) (List.prefix_append s t) hle
  refine List.find?_eq_some_iff_append.2
    ⟨List.isPrefixOf_iff_prefix.2 hstarts, front, back, hsigns, fun other hother => ?_⟩
  have hother := hnone other hother
  simp only [Bool.not_eq_true', Bool.eq_false_iff, ne_eq, List.isPrefixOf_iff_prefix] at hother ⊢
  exact fun hfits => hother (hfits.trans (List.prefix_append s t))

theorem find?_signs_of_append_eq_none
    (h : TypeToken.signs.find? (fun e => e.1.isPrefixOf (s ++ t)) = none) :
    TypeToken.signs.find? (fun e => e.1.isPrefixOf s) = none := by
  simp only [List.find?_eq_none, List.isPrefixOf_iff_prefix] at h ⊢
  exact fun e he hfits => h e he (hfits.trans (List.prefix_append s t))

/-- A literal at the start of a text is one at the start of any part that it fits into. -/
theorem exists_readString_of_append {us : List Nat} {r : List Char}
    (h : readString (s ++ t) = some (us, r)) (hle : (s ++ t).length - r.length ≤ s.length) :
    ∃ r', r = r' ++ t ∧ readString s = some (us, r') := by
  obtain ⟨body, hbody⟩ := exists_of_readString h
  have hlength := congrArg List.length hbody
  rw [List.length_append] at hle
  rw [List.length_append, List.length_append, List.length_cons] at hlength
  obtain ⟨r', rfl⟩ : t <:+ r :=
    List.suffix_of_suffix_length_le (List.suffix_append s t) ⟨body ++ ['\''], by simp [hbody]⟩
      (by omega)
  exact ⟨r', rfl, readString_of_append h⟩

/-- **The token at the start of a text** is that of any part that it fits into. -/
theorem firstToken_of_append (h : firstToken (s ++ t) = some (token, taken))
    (hle : taken ≤ s.length) : firstToken s = some (token, taken) := by
  cases s with
  | nil => exact absurd hle (Nat.not_le_of_lt (firstToken_bounds h).1)
  | cons d rest =>
    cases hd : isNameChar d with
    | true =>
      rw [List.cons_append, firstToken_of_isNameChar hd] at h
      cases h
      rw [← List.cons_append] at hle ⊢
      rw [takeWhile_of_append hle]
      exact firstToken_of_isNameChar hd rest
    | false =>
      by_cases hquote : d = '\''
      · subst hquote
        rw [List.cons_append, firstToken_quote] at h
        obtain ⟨⟨us, r⟩, hread, heq⟩ := Option.map_eq_some_iff.1 h
        cases heq
        rw [List.length_cons] at hle
        dsimp only at hle
        obtain ⟨r', rfl, hshort⟩ := exists_readString_of_append hread (by omega)
        have htaken : (rest ++ t).length + 1 - (r' ++ t).length = rest.length + 1 - r'.length := by
          rw [List.length_append, List.length_append]
          omega
        rw [firstToken_quote, hshort, Option.map_some, htaken]
      · rw [List.cons_append, firstToken_of_not hd hquote] at h
        rw [firstToken_of_not hd hquote]
        cases hfind : TypeToken.signs.find? (fun e => e.1.isPrefixOf (d :: (rest ++ t))) with
        | some e =>
          rw [hfind] at h
          cases h
          rw [find?_signs_of_append (s := d :: rest) hfind hle]
        | none =>
          rw [hfind] at h
          rw [find?_signs_of_append_eq_none (s := d :: rest) hfind]
          exact h

end

/-! ## On either side of a sign -/

/-- **The tokens on either side of a sign** are those of the text on either side. -/
theorem Tokens.split {s : List Char} {us vs : List TypeToken} {sign : TypeToken}
    (h : Tokens s (us ++ sign :: vs)) (hname : ∀ word, sign ≠ .name word)
    (hliteral : ∀ units, sign ≠ .literal units) :
    ∃ x part y, s = x ++ (part ++ y) ∧ (part, sign) ∈ TypeToken.signs ∧ Tokens x us ∧
      Tokens y vs := by
  generalize htokens : us ++ sign :: vs = ts at h
  induction h generalizing us with
  | nil => simp at htokens
  | @more s token taken ts hfirst hrest ih =>
    -- The first token does not see that the text in front of the sign ends there.
    have hbehind {us : List TypeToken} (h : us ++ sign :: vs = ts) :
        ∃ x part y, s = x ++ (part ++ y) ∧ (part, sign) ∈ TypeToken.signs ∧
          Tokens x (token.toList ++ us) ∧ Tokens y vs := by
      obtain ⟨x, part, y, hdrop, hpart, hx, hy⟩ := ih h
      have hs : s = (s.take taken ++ x) ++ (part ++ y) := by
        rw [List.append_assoc, ← hdrop, List.take_append_drop]
      have htake : (s.take taken).length = taken :=
        List.length_take_of_le (firstToken_bounds hfirst).2
      refine ⟨s.take taken ++ x, part, y, hs, hpart, @Tokens.more _ token taken _ ?_ ?_, hy⟩
      · rw [hs] at hfirst
        exact firstToken_of_append hfirst (by rw [List.length_append, htake]; omega)
      · rw [List.drop_left' htake]
        exact hx
    cases token with
    | none => exact hbehind htokens
    | some first =>
      cases us with
      | nil =>
        obtain ⟨rfl, rfl⟩ := List.cons.inj htokens
        rcases firstToken_cases hfirst with ⟨_, _, -, -, heq, -⟩ | ⟨_, _, _, -, -, heq, -⟩ |
          ⟨e, he, ⟨y, rfl⟩, heq, rfl⟩ | ⟨_, -, heq, -⟩
        · exact absurd (Option.some.inj heq) (hname _)
        · exact absurd (Option.some.inj heq) (hliteral _)
        · cases heq
          rw [List.drop_left] at hrest
          exact ⟨[], e.1, y, rfl, he, .nil, hrest⟩
        · cases heq
      | cons other us =>
        obtain ⟨rfl, hts⟩ := List.cons.inj htokens
        exact hbehind hts

/-! ## Without the blanks around it -/

section

variable {s : List Char} {c : Char} {token : Option TypeToken} {ts : List TypeToken}

/-- Only the bar has blanks at its ends. -/
theorem isBlank_of_sign {e : List Char × TypeToken} (he : e ∈ TypeToken.signs)
    (hbar : e.2 ≠ .bar) :
    (∀ c ∈ e.1.head?, isBlank c = false) ∧ ∀ c ∈ e.1.getLast?, isBlank c = false := by
  have hall : ∀ e ∈ TypeToken.signs, e.2 ≠ .bar →
      (e.1.head?.all fun c => !isBlank c) && e.1.getLast?.all fun c => !isBlank c := by decide
  have h := hall e he hbar
  rw [Bool.and_eq_true, Option.all_eq_true, Option.all_eq_true] at h
  exact ⟨fun c hc => by simpa using h.1 c hc, fun c hc => by simpa using h.2 c hc⟩

theorem Tokens.of_cons_blank (h : Tokens (c :: s) ts) (hc : isBlank c = true)
    (hbar : ts.head? ≠ some .bar) : Tokens s ts := by
  generalize htext : c :: s = text at h
  cases h with
  | nil => cases htext
  | more hfirst hrest =>
    subst htext
    rcases firstToken_cases hfirst with ⟨d, _, heq, hd, -, -⟩ | ⟨_, _, _, heq, -, -, -⟩ |
      ⟨e, he, hstarts, rfl, -⟩ | ⟨_, -, rfl, rfl⟩
    · obtain ⟨rfl, -⟩ := List.cons.inj heq
      rw [isBlank_of_isNameChar hd] at hc
      cases hc
    · obtain ⟨rfl, -⟩ := List.cons.inj heq
      exact absurd hc (by decide)
    · have hall : ∀ e ∈ TypeToken.signs, e.1 ≠ [] := by decide
      obtain ⟨d, more, hpart⟩ := List.exists_cons_of_ne_nil (hall e he)
      have hblank :=
        (isBlank_of_sign he fun heq => hbar (by rw [heq]; rfl)).1 d (by rw [hpart]; rfl)
      rw [hpart, List.cons_prefix_cons] at hstarts
      rw [hstarts.1, hc] at hblank
      cases hblank
    · exact hrest

/-- Only a bar takes a blank at the end of a text, unless the text is a single blank. -/
theorem firstToken_append_blank (hc : isBlank c = true)
    (h : firstToken (s ++ [c]) = some (token, (s ++ [c]).length)) :
    token = some .bar ∨ s = [] ∧ token = none := by
  rcases firstToken_cases h with ⟨_, _, -, -, -, hall⟩ | ⟨rest, us, r, heq, hread, -, hall⟩ |
    ⟨e, he, hstarts, rfl, hall⟩ | ⟨_, -, rfl, hall⟩
  · have hself := (List.takeWhile_sublist isNameChar).eq_of_length hall.symm
    have hname := List.takeWhile_eq_self_iff.1 hself c (by simp)
    rw [isBlank_of_isNameChar hname] at hc
    cases hc
  · obtain ⟨body, rfl⟩ := exists_of_readString hread
    have hr : r = [] := by
      have hlength := congrArg List.length heq
      simp only [List.length_append, List.length_cons] at hall hlength
      exact List.length_eq_zero_iff.1 (by omega)
    rw [hr, ← List.cons_append] at heq
    obtain ⟨-, hquote⟩ := List.append_inj' heq rfl
    obtain rfl : c = '\'' := by simpa using hquote
    exact absurd hc (by decide)
  · by_cases hbar : e.2 = .bar
    · exact .inl (by rw [hbar])
    · have hblank := (isBlank_of_sign he hbar).2 c (by
        rw [hstarts.eq_of_length hall.symm]
        simp)
      rw [hblank] at hc
      cases hc
  · exact .inr ⟨by simpa using hall, rfl⟩

theorem Tokens.of_append_blank (h : Tokens (s ++ [c]) ts) (hc : isBlank c = true)
    (hbar : ts.getLast? ≠ some .bar) : Tokens s ts := by
  generalize htext : s ++ [c] = text at h
  induction h generalizing s with
  | nil => simp at htext
  | @more text token taken ts hfirst hrest ih =>
    subst htext
    have hle := (firstToken_bounds hfirst).2
    rw [List.length_append, List.length_singleton] at hle
    rcases Nat.lt_or_ge s.length taken with hall | hle
    · obtain rfl : taken = (s ++ [c]).length := by
        rw [List.length_append, List.length_singleton]
        omega
      rw [List.drop_length] at hrest
      rcases firstToken_append_blank hc hfirst with rfl | ⟨rfl, rfl⟩
      · cases hrest with
        | nil => exact absurd rfl hbar
        | more hnothing _ => cases hnothing
      · exact hrest
    · have hmore : ts.getLast? ≠ some .bar := fun hlast => hbar (by
        rw [List.getLast?_append, hlast]
        rfl)
      exact .more (firstToken_of_append hfirst hle)
        (ih hmore (List.drop_append_of_le_length hle).symm)

/-- **The blanks around a text have no part in its tokens**, unless there is a bar at either end. -/
theorem Tokens.trim (h : Tokens s ts) (hfirst : ts.head? ≠ some .bar)
    (hlast : ts.getLast? ≠ some .bar) : Tokens (trim s) ts :=
  trim_induction (P := fun t => Tokens t ts) (fun _ _ hc h => h.of_cons_blank hc hfirst)
    (fun _ _ hc h => h.of_append_blank hc hlast) h

end

end Ambient
