import Mathlib.Data.List.Find
import Ambient.Proofs.Literal.Reading
import Ambient.Proofs.Shape.Spelling
import Ambient.Proofs.Text.Words

/-!
# Tokens of type expressions

A type expression is read as names, string literals and signs, with blanks between them.  The bar of
a choice has a blank on either side.  A name and a sign are told apart by their first character, so
what stands in front of a parenthesis or a bracket is read without regard to what follows.

## What is here

* `TypeToken` — names, literals and signs; `TypeToken.signs` — how the signs are written.
* `firstToken s` — the token or blank at the start of a text, and how many characters it takes.
* `tokens s` — the tokens of a text; `Tokens` — how they are read, one after the other.
* `tokens_append` — the tokens of a text in front of a parenthesis or bracket.
* `occursIn_of_mem_tokens` — a sign is a token only where it is written.
-/

set_option autoImplicit false

namespace Ambient

open Text Literal

/-- What type expressions are made of. -/
inductive TypeToken where
  | name (word : List Char)
  | literal (units : List Nat)
  | openParen
  | closeParen
  | openBracket
  | closeBracket
  | openAngle
  | closeAngle
  | bar
  | arrow
  | dots
  | comma
  | colon
  | question
deriving Repr, DecidableEq

namespace TypeToken

/-- How the signs are written.  None of them starts like another. -/
def signs : List (List Char × TypeToken) := [
  ([' ', '|', ' '], .bar),
  (['=', '>'], .arrow),
  (['.', '.', '.'], .dots),
  (['('], .openParen),
  ([')'], .closeParen),
  (['['], .openBracket),
  ([']'], .closeBracket),
  (['<'], .openAngle),
  (['>'], .closeAngle),
  ([','], .comma),
  ([':'], .colon),
  (['?'], .question)]

end TypeToken

/-- The token at the start, or nothing if there is a blank, and how many characters it takes. -/
def firstToken : List Char → Option (Option TypeToken × Nat)
  | [] => none
  | c :: rest =>
    if isNameChar c then
      some (some (.name ((c :: rest).takeWhile isNameChar)),
        ((c :: rest).takeWhile isNameChar).length)
    else if c = '\'' then
      (readString rest).map fun r => (some (.literal r.1), rest.length + 1 - r.2.length)
    else match TypeToken.signs.find? fun e => e.1.isPrefixOf (c :: rest) with
      | some e => some (some e.2, e.1.length)
      | none => if c = ' ' then some (none, 1) else none

/-- The tokens of a text of which so many characters have been taken already. -/
def tokensFrom : Nat → List Char → Option (List TypeToken)
  | _, [] => some []
  | taken + 1, _ :: rest => tokensFrom taken rest
  | 0, c :: rest =>
    (firstToken (c :: rest)).bind fun e => (tokensFrom (e.2 - 1) rest).map (e.1.toList ++ ·)

/-- The tokens of a text. -/
def tokens (s : List Char) : Option (List TypeToken) := tokensFrom 0 s

example : tokens "(a?: B<string>) => 'x | y'[] | c".toList =
    some [.openParen, .name ['a'], .question, .colon, .name ['B'], .openAngle,
      .name "string".toList, .closeAngle, .closeParen, .arrow, .literal (unitsOf "x | y".toList),
      .openBracket, .closeBracket, .bar, .name ['c']] := by
  decide +kernel

/-! ## One token -/

section

variable {s t : List Char} {c : Char} {token : Option TypeToken} {taken : Nat}

theorem firstToken_of_isNameChar (hc : isNameChar c = true) (rest : List Char) :
    firstToken (c :: rest) = some (some (.name ((c :: rest).takeWhile isNameChar)),
      ((c :: rest).takeWhile isNameChar).length) := by
  rw [firstToken, if_pos hc]

theorem firstToken_quote (rest : List Char) :
    firstToken ('\'' :: rest) = (readString rest).map fun r =>
      (some (.literal r.1), rest.length + 1 - r.2.length) := by
  rw [firstToken, if_neg (by decide), if_pos rfl]

/-- Every other token is a sign. -/
theorem firstToken_of_not (hc : isNameChar c = false) (hquote : c ≠ '\'') (rest : List Char) :
    firstToken (c :: rest) = match TypeToken.signs.find? fun e => e.1.isPrefixOf (c :: rest) with
      | some e => some (some e.2, e.1.length)
      | none => if c = ' ' then some (none, 1) else none := by
  rw [firstToken, if_neg (by simp [hc]), if_neg hquote]

theorem isPrefix_of_find? {e : List Char × TypeToken}
    (h : TypeToken.signs.find? (fun e => e.1.isPrefixOf s) = some e) : e.1 <+: s := by
  have hstarts := List.find?_some h
  exact List.isPrefixOf_iff_prefix.1 hstarts

/-- **What stands at the start**: a name, a literal, a sign or a blank. -/
theorem firstToken_cases (h : firstToken s = some (token, taken)) :
    (∃ c rest, s = c :: rest ∧ isNameChar c = true ∧
      token = some (.name (s.takeWhile isNameChar)) ∧ taken = (s.takeWhile isNameChar).length) ∨
    (∃ rest us r, s = '\'' :: rest ∧ readString rest = some (us, r) ∧
      token = some (.literal us) ∧ taken = rest.length + 1 - r.length) ∨
    (∃ e ∈ TypeToken.signs, e.1 <+: s ∧ token = some e.2 ∧ taken = e.1.length) ∨
    ∃ rest, s = ' ' :: rest ∧ token = none ∧ taken = 1 := by
  cases s with
  | nil => cases h
  | cons c rest =>
    cases hc : isNameChar c with
    | true =>
      rw [firstToken_of_isNameChar hc] at h
      cases h
      exact .inl ⟨c, rest, rfl, hc, rfl, rfl⟩
    | false =>
      by_cases hquote : c = '\''
      · subst hquote
        rw [firstToken_quote] at h
        obtain ⟨⟨us, r⟩, hread, heq⟩ := Option.map_eq_some_iff.1 h
        cases heq
        exact .inr (.inl ⟨rest, us, r, rfl, hread, rfl, rfl⟩)
      · rw [firstToken_of_not hc hquote] at h
        split at h
        · rename_i e hfind
          cases h
          exact .inr (.inr (.inl ⟨e, List.mem_of_find?_eq_some hfind, isPrefix_of_find? hfind,
            rfl, rfl⟩))
        · split at h
          · rename_i hblank
            cases h
            exact .inr (.inr (.inr ⟨rest, by rw [hblank], rfl, rfl⟩))
          · cases h

/-- A token takes at least one character, and no more than there are. -/
theorem firstToken_bounds (h : firstToken s = some (token, taken)) :
    0 < taken ∧ taken ≤ s.length := by
  rcases firstToken_cases h with ⟨c, rest, rfl, hc, -, rfl⟩ | ⟨rest, us, r, rfl, hread, -, rfl⟩ |
    ⟨e, he, hstarts, -, rfl⟩ | ⟨rest, rfl, -, rfl⟩
  · refine ⟨?_, (List.takeWhile_sublist _).length_le⟩
    rw [List.takeWhile_cons_of_pos hc, List.length_cons]
    exact Nat.succ_pos _
  · obtain ⟨body, rfl⟩ := exists_of_readString hread
    rw [List.length_cons, List.length_append, List.length_cons]
    omega
  · have hall : ∀ e ∈ TypeToken.signs, 0 < e.1.length := by decide
    exact ⟨hall e he, hstarts.length_le⟩
  · exact ⟨Nat.one_pos, by simp⟩

/-- A sign is a token where it is written. -/
theorem exists_sign_of_firstToken {sign : TypeToken} (h : firstToken s = some (some sign, taken))
    (hname : ∀ word, sign ≠ .name word) (hliteral : ∀ units, sign ≠ .literal units) :
    ∃ part, (part, sign) ∈ TypeToken.signs ∧ part <+: s := by
  rcases firstToken_cases h with ⟨_, _, -, -, heq, -⟩ | ⟨_, _, _, -, -, heq, -⟩ |
    ⟨e, he, hstarts, heq, -⟩ | ⟨_, -, heq, -⟩
  · exact absurd (Option.some.inj heq) (hname _)
  · exact absurd (Option.some.inj heq) (hliteral _)
  · cases heq
    exact ⟨e.1, he, hstarts⟩
  · cases heq

/-- The character puts an end to what stands in front of it: a parenthesis or bracket. -/
def isStop (c : Char) : Bool := c == ')' || c == '['

theorem isNameChar_of_isStop (h : isStop c = true) : isNameChar c = false := by
  rw [isStop, Bool.or_eq_true, beq_iff_eq, beq_iff_eq] at h
  rcases h with rfl | rfl <;> decide

/-- No sign stands across a stop. -/
theorem isPrefixOf_append_stop (hc : isStop c = true) {e : List Char × TypeToken}
    (he : e ∈ TypeToken.signs) (hs : s ≠ []) :
    e.1.isPrefixOf (s ++ c :: t) = e.1.isPrefixOf s := by
  have hall : ∀ e ∈ TypeToken.signs, e.1.length = 1 ∨ e.1.any isStop = false := by decide
  rw [Bool.eq_iff_iff, List.isPrefixOf_iff_prefix, List.isPrefixOf_iff_prefix]
  rcases hall e he with hlength | hstop
  · have hle : e.1.length ≤ s.length := hlength ▸ List.length_pos_iff.2 hs
    exact ⟨fun h => List.prefix_of_prefix_length_le h (List.prefix_append _ _) hle,
      fun h => h.trans (List.prefix_append _ _)⟩
  · refine isPrefix_append_cons_iff fun hmem => ?_
    rw [List.any_eq_false] at hstop
    exact hstop c hmem hc

/-- **The token in front of a stop** is read without regard to it. -/
theorem firstToken_append (hc : isStop c = true) (h : firstToken s = some (token, taken))
    (t : List Char) : firstToken (s ++ c :: t) = some (token, taken) := by
  cases s with
  | nil => cases h
  | cons d rest =>
    rw [List.cons_append]
    cases hd : isNameChar d with
    | true =>
      have htake : (d :: (rest ++ c :: t)).takeWhile isNameChar
          = (d :: rest).takeWhile isNameChar := by
        have hstop : (c :: t).takeWhile isNameChar = [] :=
          List.takeWhile_cons_of_neg (by simp [isNameChar_of_isStop hc])
        rw [← List.cons_append, List.takeWhile_append, hstop, List.append_nil]
        split
        · rename_i hall
          exact ((List.takeWhile_sublist _).eq_of_length hall).symm
        · rfl
      rw [firstToken_of_isNameChar hd] at h
      rw [firstToken_of_isNameChar hd, htake, h]
    | false =>
      by_cases hquote : d = '\''
      · subst hquote
        rw [firstToken_quote] at h
        obtain ⟨⟨us, r⟩, hread, heq⟩ := Option.map_eq_some_iff.1 h
        cases heq
        rw [firstToken_quote, readString_append hread, Option.map_some]
        obtain ⟨body, rfl⟩ := exists_of_readString hread
        simp
        omega
      · rw [firstToken_of_not hd hquote] at h
        rw [firstToken_of_not hd hquote]
        have hfind : TypeToken.signs.find? (fun e => e.1.isPrefixOf (d :: (rest ++ c :: t)))
            = TypeToken.signs.find? (fun e => e.1.isPrefixOf (d :: rest)) :=
          List.find?_congr fun e he =>
            isPrefixOf_append_stop (s := d :: rest) hc he (List.cons_ne_nil _ _)
        rw [hfind]
        exact h

end

/-! ## All tokens -/

/-- How the tokens of a text are read. -/
inductive Tokens : List Char → List TypeToken → Prop
  | nil : Tokens [] []
  | more {s : List Char} {token : Option TypeToken} {taken : Nat} {ts : List TypeToken}
      (hfirst : firstToken s = some (token, taken)) (hrest : Tokens (s.drop taken) ts) :
      Tokens s (token.toList ++ ts)

section

variable {s t part : List Char} {c : Char} {ts us : List TypeToken}

theorem tokensFrom_eq_tokens (taken : Nat) (s : List Char) :
    tokensFrom taken s = tokens (s.drop taken) := by
  induction s generalizing taken with
  | nil => rw [List.drop_nil, tokens, tokensFrom, tokensFrom]
  | cons c rest ih =>
    cases taken with
    | zero => rfl
    | succ taken => rw [tokensFrom, ih, List.drop_succ_cons]

theorem tokens_cons (c : Char) (rest : List Char) :
    tokens (c :: rest) = (firstToken (c :: rest)).bind fun e =>
      (tokens ((c :: rest).drop e.2)).map (e.1.toList ++ ·) := by
  rw [tokens, tokensFrom]
  cases hfirst : firstToken (c :: rest) with
  | none => rfl
  | some e =>
    have hpos := (firstToken_bounds hfirst).1
    obtain ⟨taken, htaken⟩ := Nat.exists_eq_succ_of_ne_zero hpos.ne'
    rw [Option.bind_some, Option.bind_some, htaken, List.drop_succ_cons, tokensFrom_eq_tokens]
    rfl

theorem Tokens.tokens_eq (h : Tokens s ts) : tokens s = some ts := by
  induction h with
  | nil => rfl
  | @more s token taken ts hfirst _ ih =>
    cases s with
    | nil => cases hfirst
    | cons c rest =>
      rw [tokens_cons, hfirst, Option.bind_some, ih, Option.map_some]

theorem tokens_iff : tokens s = some ts ↔ Tokens s ts := by
  refine ⟨fun h => ?_, Tokens.tokens_eq⟩
  induction hn : s.length using Nat.strong_induction_on generalizing s ts with
  | _ n ih =>
    cases s with
    | nil =>
      cases h
      exact .nil
    | cons c rest =>
      rw [tokens_cons] at h
      obtain ⟨⟨token, taken⟩, hfirst, h⟩ := Option.bind_eq_some_iff.1 h
      obtain ⟨us, hus, rfl⟩ := Option.map_eq_some_iff.1 h
      have hpos := (firstToken_bounds hfirst).1
      refine .more hfirst (ih _ ?_ hus rfl)
      rw [List.length_drop]
      rw [List.length_cons] at hn ⊢
      omega

/-- **The tokens of a text in front of a stop** are those of the text and of what follows. -/
theorem tokens_append (hc : isStop c = true) (hs : tokens s = some ts)
    (ht : tokens (c :: t) = some us) : tokens (s ++ c :: t) = some (ts ++ us) := by
  rw [tokens_iff] at hs ht ⊢
  induction hs with
  | nil => exact ht
  | @more s token taken ts hfirst _ ih =>
    rw [List.append_assoc]
    refine .more (firstToken_append hc hfirst t) ?_
    rw [List.drop_append_of_le_length (firstToken_bounds hfirst).2]
    exact ih

/-- A parenthesis in front of a text. -/
theorem tokens_openParen (h : tokens s = some ts) : tokens ('(' :: s) = some (.openParen :: ts) :=
  have hfirst : firstToken ('(' :: s) = some (some .openParen, 1) := rfl
  tokens_iff.2 (.more hfirst (tokens_iff.1 h))

/-- A text without the spelling of a sign does not have it among its tokens. -/
theorem occursIn_of_mem_tokens (hs : tokens s = some ts) {sign : TypeToken} (hmem : sign ∈ ts)
    (hname : ∀ word, sign ≠ .name word) (hliteral : ∀ units, sign ≠ .literal units) :
    ∃ part, (part, sign) ∈ TypeToken.signs ∧ occursIn part s = true := by
  rw [tokens_iff] at hs
  induction hs with
  | nil => cases hmem
  | @more s token taken ts hfirst _ ih =>
    rcases List.mem_append.1 hmem with hmem | hmem
    · rw [Option.mem_toList] at hmem
      cases hmem
      obtain ⟨part, hpart, hstarts⟩ := exists_sign_of_firstToken hfirst hname hliteral
      exact ⟨part, hpart, occursIn_iff.2 hstarts.isInfix⟩
    · obtain ⟨part, hpart, hoccurs⟩ := ih hmem
      exact ⟨part, hpart, occursIn_iff.2
        ((occursIn_iff.1 hoccurs).trans (List.drop_suffix taken s).isInfix)⟩

end

end Ambient
