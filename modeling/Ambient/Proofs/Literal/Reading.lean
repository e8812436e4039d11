import Mathlib.Data.List.TakeWhile
import Ambient.Json.StringLiteral

/-!
# Reading string literals of declarations

Between single quotes a declaration has a string, in units of 16 bits.  A character stands for
itself, but a backslash starts an escape, and no line ends within a literal unless a backslash
stands in front of its end.  This is how those who read declarations take literals; nothing here
depends on how they are written.

## What is here

* `unitsOf s` — the units of 16 bits of a text, which determine it (`unitsOf_injective`).
* `escape`, `element` — one escape, and one element of a literal, with the number of characters that
  it takes; `escape_cases` — what holds of every escape.
* `readString s` — the units up to the closing quote, and what follows it; `ReadsTo` — how they are
  read, element by element.
* `readString_of_isPlain`, `isPlain_of_readString` — just the texts without quotes, backslashes and
  line ends are read as they are written.
* `readString_append`, `readString_of_append` — what stands behind a literal has no part in it.
-/

set_option autoImplicit false

namespace Ambient
namespace Literal

/-! ## Units -/

/-- The units of 16 bits of a code point, two if one is too small. -/
def codeUnits (n : Nat) : List Nat :=
  if n < 0x10000 then [n]
  else [0xD800 + (n - 0x10000) / 0x400, 0xDC00 + (n - 0x10000) % 0x400]

/-- The units of 16 bits of a text. -/
def unitsOf (s : List Char) : List Nat := s.flatMap fun c => codeUnits c.toNat

theorem length_codeUnits (n : Nat) : 1 ≤ (codeUnits n).length ∧ (codeUnits n).length ≤ 2 := by
  rw [codeUnits]
  split <;> simp

theorem unitsOf_cons (c : Char) (s : List Char) :
    unitsOf (c :: s) = codeUnits c.toNat ++ unitsOf s := List.flatMap_cons

theorem unitsOf_append (s t : List Char) : unitsOf (s ++ t) = unitsOf s ++ unitsOf t :=
  List.flatMap_append

theorem length_le_length_unitsOf (s : List Char) : s.length ≤ (unitsOf s).length := by
  induction s with
  | nil => exact Nat.zero_le _
  | cons c rest ih =>
    have hc := (length_codeUnits c.toNat).1
    rw [unitsOf_cons, List.length_append, List.length_cons]
    omega

/-- The unit of a quote is that of no other character. -/
theorem quote_mem_unitsOf_iff {s : List Char} : 39 ∈ unitsOf s ↔ '\'' ∈ s := by
  have hunit (c : Char) : 39 ∈ codeUnits c.toNat ↔ c = '\'' := by
    rw [← Char.toNat_inj, codeUnits]
    split
    · rw [List.mem_singleton, eq_comm]
      rfl
    · rw [List.mem_cons, List.mem_singleton]
      change _ ↔ c.toNat = 39
      omega
  rw [unitsOf, List.mem_flatMap]
  exact ⟨fun ⟨c, hc, hunits⟩ => (hunit c).1 hunits ▸ hc, fun h => ⟨_, h, (hunit _).2 rfl⟩⟩

theorem toNat_lt (c : Char) : c.toNat < 0x110000 := by
  rcases c.valid with h | h
  · exact h.trans (by decide)
  · exact h.2

/-- The first unit of a large code point is that of no character. -/
theorem ne_surrogate (c : Char) {n : Nat} (hn : n < 0x110000) :
    c.toNat ≠ 0xD800 + (n - 0x10000) / 0x400 := by
  intro heq
  rcases c.valid with h | h
  · change c.toNat < 0xD800 at h
    omega
  · change 0xDFFF < c.toNat ∧ _ at h
    omega

/-- The units of a text in front of others start with those of its first character. -/
theorem codeUnits_append_inj {c d : Char} {us vs : List Nat}
    (h : codeUnits c.toNat ++ us = codeUnits d.toNat ++ vs) : c = d ∧ us = vs := by
  have hc := toNat_lt c
  have hd := toNat_lt d
  rw [codeUnits, codeUnits] at h
  rw [← Char.toNat_inj]
  split at h <;> split at h
  · simpa using h
  · exact absurd (List.cons.inj h).1 (ne_surrogate c hd)
  · exact absurd (List.cons.inj h).1.symm (ne_surrogate d hc)
  · simp only [List.cons_append, List.nil_append, List.cons.injEq] at h
    obtain ⟨hfirst, hsecond, hrest⟩ := h
    exact ⟨by omega, hrest⟩

/-- Texts with the same units are the same. -/
theorem unitsOf_injective {s t : List Char} (h : unitsOf s = unitsOf t) : s = t := by
  have hempty {c : Char} {rest : List Char} : unitsOf (c :: rest) ≠ [] := fun hnil => by
    have hlength := length_le_length_unitsOf (c :: rest)
    rw [hnil] at hlength
    exact absurd hlength (by simp)
  induction s generalizing t with
  | nil =>
    cases t with
    | nil => rfl
    | cons d more => exact absurd h.symm hempty
  | cons c rest ih =>
    cases t with
    | nil => exact absurd h hempty
    | cons d more =>
      rw [unitsOf_cons, unitsOf_cons] at h
      obtain ⟨rfl, hrest⟩ := codeUnits_append_inj h
      rw [ih hrest]

/-! ## Escapes -/

/-- The character is a hexadecimal digit. -/
def isHexDigit (c : Char) : Bool := (Json.hexValue? c).isSome

/-- The number that hexadecimal digits write. -/
def hexNumber (digits : List Char) : Nat :=
  digits.foldl (fun n d => 16 * n + (Json.hexValue? d).getD 0) 0

/-- The number that just so many hexadecimal digits at the start write. -/
def fixedNumber? (places : Nat) (s : List Char) : Option Nat :=
  if places ≤ s.length ∧ (s.take places).all isHexDigit then some (hexNumber (s.take places))
  else none

/-- The number up to a closing brace, if it is a code point, and how many digits it has. -/
def bracedNumber? (s : List Char) : Option (Nat × Nat) :=
  let digits := s.takeWhile isHexDigit
  if digits ≠ [] ∧ digits ++ ['}'] <+: s ∧ hexNumber digits ≤ 0x10FFFF then
    some (hexNumber digits, digits.length)
  else none

/-- The units of a number behind a `u`, of four digits or between braces, and how many characters it
takes. -/
def numberedUnits (s : List Char) : Option (List Nat × Nat) :=
  if s.head? = some '{' then (bracedNumber? s.tail).map fun n => (codeUnits n.1, n.2 + 2)
  else (fixedNumber? 4 s).map fun n => ([n], 4)

/-- Characters that a letter behind a backslash stands for. -/
def namedUnits : List (Char × Nat) :=
  [('b', 8), ('t', 9), ('n', 10), ('v', 11), ('f', 12), ('r', 13)]

/-- The character ends a line. -/
def isLineEnd (c : Char) : Bool := c == '\n' || c == '\r' || c == '\u2028' || c == '\u2029'

/-- The units of the escape behind a backslash, and how many characters it takes.  A line end
stands for nothing; digits may not be escaped, but a zero may that no digit follows. -/
def escape : List Char → Option (List Nat × Nat)
  | [] => none
  | c :: rest =>
    if c = 'x' then (fixedNumber? 2 rest).map fun n => ([n], 3)
    else if c = 'u' then (numberedUnits rest).map fun e => (e.1, e.2 + 1)
    else if c = '\r' ∧ rest.head? = some '\n' then some ([], 2)
    else if isLineEnd c then some ([], 1)
    else if c.isDigit then
      if c = '0' ∧ rest.head?.all (!·.isDigit) then some ([0], 1) else none
    else some (((namedUnits.lookup c).map ([·])).getD (codeUnits c.toNat), 1)

/-- The units of the element of a literal at the start, and how many characters it takes. -/
def element : List Char → Option (List Nat × Nat)
  | [] => none
  | c :: rest =>
    if c = '\\' then (escape rest).map fun e => (e.1, e.2 + 1)
    else if c = '\n' ∨ c = '\r' then none
    else some (codeUnits c.toNat, 1)

/-! ## Strings -/

/-- Reads up to the closing quote, where so many characters have been read already. -/
def readFrom : Nat → List Char → Option (List Nat × List Char)
  | _, [] => none
  | read + 1, _ :: rest => readFrom read rest
  | 0, c :: rest =>
    if c = '\'' then some ([], rest)
    else match element (c :: rest) with
      | none => none
      | some (us, taken) => (readFrom (taken - 1) rest).map fun r => (us ++ r.1, r.2)

/-- The units up to the closing quote, and what follows it. -/
def readString (s : List Char) : Option (List Nat × List Char) := readFrom 0 s

/-- A literal: its units, and what follows it. -/
def read : List Char → Option (List Nat × List Char)
  | '\'' :: rest => readString rest
  | _ => none

example : read "'it\\'s \\x41\\u{1F600}'.".toList = some (unitsOf "it's A😀".toList, ['.']) := by
  decide +kernel

example : read "'it's'".toList = some (unitsOf "it".toList, "s'".toList) := by decide +kernel

/-! ## What holds of every element -/

theorem fixedNumber?_eq_some {places n : Nat} {s : List Char} (h : fixedNumber? places s = some n) :
    places ≤ s.length ∧ ∀ c ∈ s.take places, isHexDigit c = true := by
  rw [fixedNumber?] at h
  split at h
  · rename_i hdigits
    exact ⟨hdigits.1, List.all_eq_true.1 hdigits.2⟩
  · cases h

theorem bracedNumber?_eq_some {s : List Char} {n : Nat × Nat} (h : bracedNumber? s = some n) :
    ∃ digits rest, s = digits ++ '}' :: rest ∧ n.2 = digits.length ∧
      ∀ c ∈ digits, isHexDigit c = true := by
  rw [bracedNumber?] at h
  split at h
  · rename_i hdigits
    obtain ⟨-, ⟨rest, hrest⟩, -⟩ := hdigits
    cases h
    refine ⟨s.takeWhile isHexDigit, rest, ?_, rfl, fun c hc => List.mem_takeWhile_imp hc⟩
    rw [List.append_cons, hrest]
  · cases h

/-- The character ends a literal, or starts an escape. -/
def isMark (c : Char) : Bool := c == '\'' || c == '\\'

theorem not_isMark_of_isHexDigit {s : List Char} (h : ∀ c ∈ s, isHexDigit c = true) :
    ∀ c ∈ s, isMark c = false := by
  intro c hc
  rw [isMark, Bool.or_eq_false_iff, beq_eq_false_iff_ne, beq_eq_false_iff_ne]
  constructor
  · rintro rfl
    exact absurd (h _ hc) (by decide)
  · rintro rfl
    exact absurd (h _ hc) (by decide)

/-- What holds of an escape without marks in it: it has no more units than characters. -/
structure Markless (s : List Char) (us : List Nat) (taken : Nat) : Prop where
  pos : 0 < taken
  le : taken ≤ s.length
  size : us.length ≤ taken
  marks : ∀ c ∈ s.take taken, isMark c = false

theorem Markless.cons {s : List Char} {us : List Nat} {taken : Nat} {c : Char}
    (hc : isMark c = false) (h : Markless s us taken) : Markless (c :: s) us (taken + 1) := by
  refine ⟨Nat.succ_pos _, Nat.succ_le_succ h.le, h.size.trans (Nat.le_succ _), ?_⟩
  rw [List.take_succ_cons, List.forall_mem_cons]
  exact ⟨hc, h.marks⟩

theorem markless_singleton {c : Char} {us : List Nat} (hc : isMark c = false)
    (hus : us.length ≤ 1) (rest : List Char) : Markless (c :: rest) us 1 :=
  ⟨Nat.one_pos, by simp, hus, by simpa using hc⟩

theorem Markless.quote {s : List Char} {us : List Nat} {taken : Nat} (h : Markless s us taken) :
    '\'' ∉ s.take taken := fun hmem => absurd (h.marks _ hmem) (by decide)

theorem markless_of_fixedNumber? {places n : Nat} {s : List Char} (hpos : 0 < places)
    (h : fixedNumber? places s = some n) : Markless s [n] places := by
  obtain ⟨hlength, hdigits⟩ := fixedNumber?_eq_some h
  exact ⟨hpos, hlength, hpos, not_isMark_of_isHexDigit hdigits⟩

theorem markless_of_numberedUnits {s : List Char} {us : List Nat} {taken : Nat}
    (h : numberedUnits s = some (us, taken)) : Markless s us taken := by
  rw [numberedUnits] at h
  split at h
  · rename_i hbrace
    obtain ⟨more, rfl⟩ := List.head?_eq_some_iff.1 hbrace
    obtain ⟨n, hn, heq⟩ := Option.map_eq_some_iff.1 h
    cases heq
    obtain ⟨digits, behind, rfl, hlength, hdigits⟩ := bracedNumber?_eq_some hn
    refine ⟨by omega, by simp [hlength], (length_codeUnits _).2.trans (by omega), ?_⟩
    rw [hlength, List.take_succ_cons, List.take_length_add_append, List.forall_mem_cons,
      List.forall_mem_append]
    exact ⟨rfl, not_isMark_of_isHexDigit hdigits, List.forall_mem_singleton.2 rfl⟩
  · obtain ⟨n, hn, heq⟩ := Option.map_eq_some_iff.1 h
    cases heq
    exact markless_of_fixedNumber? (by decide) hn

/-- **An escape without marks in it has no more units than characters**; any other is a character
that stands for itself. -/
theorem escape_cases {s : List Char} {us : List Nat} {taken : Nat}
    (h : escape s = some (us, taken)) :
    Markless s us taken ∨ ∃ c rest, s = c :: rest ∧ us = codeUnits c.toNat ∧ taken = 1 := by
  cases s with
  | nil => cases h
  | cons c rest =>
    cases hc : isMark c with
    | true =>
      rw [isMark, Bool.or_eq_true, beq_iff_eq, beq_iff_eq] at hc
      rcases hc with rfl | rfl <;> cases h <;> exact .inr ⟨_, rest, rfl, rfl, rfl⟩
    | false =>
      rw [escape] at h
      split at h
      · -- Two digits behind an `x`.
        obtain ⟨n, hn, heq⟩ := Option.map_eq_some_iff.1 h
        cases heq
        exact .inl ((markless_of_fixedNumber? (by decide) hn).cons hc)
      split at h
      · obtain ⟨n, hn, heq⟩ := Option.map_eq_some_iff.1 h
        cases heq
        exact .inl ((markless_of_numberedUnits hn).cons hc)
      split at h
      · -- Both characters of a line end.
        rename_i hend
        cases h
        obtain ⟨behind, rfl⟩ := List.head?_eq_some_iff.1 hend.2
        exact .inl ((markless_singleton (by decide) (by decide) behind).cons hc)
      split at h
      · cases h
        exact .inl (markless_singleton hc (by decide) rest)
      split at h
      · split at h
        · cases h
          exact .inl (markless_singleton hc (by decide) rest)
        · cases h
      · cases h
        cases hnamed : namedUnits.lookup c with
        | none => exact .inr ⟨c, rest, rfl, rfl, rfl⟩
        | some n => exact .inl (markless_singleton hc (by simp) rest)

/-! ## What stands behind an element -/

theorem fixedNumber?_append_of_le {places : Nat} {s : List Char} (h : places ≤ s.length)
    (t : List Char) : fixedNumber? places (s ++ t) = fixedNumber? places s := by
  have hlong : places ≤ (s ++ t).length := h.trans (List.prefix_append s t).length_le
  simp only [fixedNumber?, List.take_append_of_le_length h, hlong, h, true_and]

theorem fixedNumber?_append {places n : Nat} {s : List Char} (h : fixedNumber? places s = some n)
    (t : List Char) : fixedNumber? places (s ++ t) = some n := by
  rw [fixedNumber?_append_of_le (fixedNumber?_eq_some h).1, h]

/-- What stands behind the closing brace has no part in the number. -/
theorem bracedNumber?_congr {digits : List Char} (h : ∀ c ∈ digits, isHexDigit c = true)
    (rest behind : List Char) :
    bracedNumber? (digits ++ '}' :: rest) = bracedNumber? (digits ++ '}' :: behind) := by
  have htake (rest : List Char) : (digits ++ '}' :: rest).takeWhile isHexDigit = digits := by
    rw [List.takeWhile_append_of_pos h, List.takeWhile_cons_of_neg (by decide), List.append_nil]
  have hstarts (rest : List Char) : digits ++ ['}'] <+: digits ++ '}' :: rest := ⟨rest, by simp⟩
  simp only [bracedNumber?, htake, hstarts, true_and]

theorem bracedNumber?_append {s : List Char} {n : Nat × Nat} (h : bracedNumber? s = some n)
    (t : List Char) : bracedNumber? (s ++ t) = some n := by
  obtain ⟨digits, rest, rfl, -, hdigits⟩ := bracedNumber?_eq_some h
  rw [List.append_assoc, List.cons_append, bracedNumber?_congr hdigits (rest ++ t) rest, h]

theorem numberedUnits_append {s : List Char} {e : List Nat × Nat} (h : numberedUnits s = some e)
    (t : List Char) : numberedUnits (s ++ t) = some e := by
  cases s with
  | nil => cases h
  | cons c rest =>
    rw [List.cons_append]
    rw [numberedUnits, List.head?_cons, List.tail_cons] at h ⊢
    split at h
    · rename_i hbrace
      obtain ⟨n, hn, rfl⟩ := Option.map_eq_some_iff.1 h
      rw [if_pos hbrace, bracedNumber?_append hn]
      rfl
    · rename_i hbrace
      obtain ⟨n, hn, rfl⟩ := Option.map_eq_some_iff.1 h
      rw [if_neg hbrace, ← List.cons_append, fixedNumber?_append hn]
      rfl

/-- An escape does not depend on what stands behind it, but for the character right behind it. -/
theorem escape_append {s : List Char} {e : List Nat × Nat} (h : escape s = some e)
    (hbehind : e.2 < s.length) (t : List Char) : escape (s ++ t) = some e := by
  cases s with
  | nil => cases h
  | cons c rest =>
    have hpos : 0 < e.2 := by
      rcases escape_cases h with hmarkless | ⟨_, _, -, -, htaken⟩
      · exact hmarkless.pos
      · rw [htaken]
        exact Nat.one_pos
    have hhead : (rest ++ t).head? = rest.head? := by
      cases rest with
      | nil => simp at hbehind; omega
      | cons d more => rfl
    rw [List.cons_append]
    rw [escape] at h ⊢
    rw [hhead]
    split at h
    · rename_i hx
      obtain ⟨n, hn, rfl⟩ := Option.map_eq_some_iff.1 h
      rw [if_pos hx, fixedNumber?_append hn]
      rfl
    rename_i hx
    rw [if_neg hx]
    split at h
    · rename_i hu
      obtain ⟨n, hn, rfl⟩ := Option.map_eq_some_iff.1 h
      rw [if_pos hu, numberedUnits_append hn]
      rfl
    · rename_i hu
      rwa [if_neg hu]

theorem numberedUnits_of_append {s t : List Char} {e : List Nat × Nat}
    (h : numberedUnits (s ++ t) = some e) (hle : e.2 ≤ s.length) : numberedUnits s = some e := by
  have hpos : 0 < e.2 := (markless_of_numberedUnits h).pos
  cases s with
  | nil => exact absurd hle (Nat.not_le_of_lt hpos)
  | cons c rest =>
    rw [List.cons_append] at h
    rw [numberedUnits, List.head?_cons, List.tail_cons] at h ⊢
    split at h
    · rename_i hbrace
      obtain ⟨n, hn, rfl⟩ := Option.map_eq_some_iff.1 h
      obtain ⟨digits, behind, heq, hlength, hdigits⟩ := bracedNumber?_eq_some hn
      obtain ⟨rest2, rfl⟩ : digits ++ ['}'] <+: rest :=
        List.prefix_of_prefix_length_le ⟨behind, by rw [heq]; simp⟩ (List.prefix_append rest t)
          (by simp at hle ⊢; omega)
      rw [heq, bracedNumber?_congr hdigits behind rest2] at hn
      rw [if_pos hbrace, List.append_assoc, List.singleton_append, hn]
      rfl
    · rename_i hbrace
      obtain ⟨n, hn, rfl⟩ := Option.map_eq_some_iff.1 h
      rw [← List.cons_append, fixedNumber?_append_of_le hle] at hn
      rw [if_neg hbrace, hn]
      rfl

/-- An escape is one without what stands behind it, but for the character right behind it. -/
theorem escape_of_append {s t : List Char} {e : List Nat × Nat} (h : escape (s ++ t) = some e)
    (hbehind : e.2 < s.length) : escape s = some e := by
  cases s with
  | nil => cases hbehind
  | cons c rest =>
    have hpos : 0 < e.2 := by
      rcases escape_cases h with hmarkless | ⟨_, _, -, -, htaken⟩
      · exact hmarkless.pos
      · rw [htaken]
        exact Nat.one_pos
    have hhead : (rest ++ t).head? = rest.head? := by
      cases rest with
      | nil => simp at hbehind; omega
      | cons d more => rfl
    rw [List.cons_append] at h
    rw [escape] at h ⊢
    rw [hhead] at h
    split at h
    · rename_i hx
      obtain ⟨n, hn, rfl⟩ := Option.map_eq_some_iff.1 h
      rw [fixedNumber?_append_of_le (by simp at hbehind; omega)] at hn
      rw [if_pos hx, hn]
      rfl
    rename_i hx
    rw [if_neg hx]
    split at h
    · rename_i hu
      obtain ⟨n, hn, rfl⟩ := Option.map_eq_some_iff.1 h
      rw [if_pos hu, numberedUnits_of_append (t := t) hn (by simp at hbehind; omega)]
      rfl
    · rename_i hu
      rwa [if_neg hu]

/-! ## Reading on -/

theorem readFrom_eq_readString (n : Nat) (s : List Char) :
    readFrom n s = readString (s.drop n) := by
  induction s generalizing n with
  | nil => rw [List.drop_nil, readString, readFrom, readFrom]
  | cons c rest ih =>
    cases n with
    | zero => rfl
    | succ n => rw [readFrom, ih, List.drop_succ_cons]

/-- The characters that have a meaning of their own between quotes. -/
def specials : List Char := ['\'', '\\', '\n', '\r']

/-- The text has no quotes, no backslashes and no line ends. -/
def IsPlain (v : List Char) : Prop := ∀ c ∈ v, c ∉ specials

instance (v : List Char) : Decidable (IsPlain v) := List.decidableBAll _ v

section

variable {c : Char} {s t rest r v : List Char} {us : List Nat}

theorem readString_of_notMem (hc : c ∉ specials) (rest : List Char) :
    readString (c :: rest) = (readString rest).map fun r => (codeUnits c.toNat ++ r.1, r.2) := by
  simp only [specials, List.mem_cons, List.not_mem_nil, or_false, not_or] at hc
  rw [readString, readFrom, if_neg hc.1, element, if_neg hc.2.1, if_neg (by simp [hc])]
  rfl

theorem readString_backslash (rest : List Char) :
    readString ('\\' :: rest) = (escape rest).bind fun e =>
      (readString (rest.drop e.2)).map fun r => (e.1 ++ r.1, r.2) := by
  rw [readString, readFrom, if_neg (by decide), element, if_pos rfl]
  cases escape rest with
  | none => rfl
  | some e =>
    change (readFrom e.2 rest).map _ = (readString (rest.drop e.2)).map _
    rw [readFrom_eq_readString]

theorem readString_lineEnd (hc : c = '\n' ∨ c = '\r') (rest : List Char) :
    readString (c :: rest) = none := by
  rcases hc with rfl | rfl <;> rfl

/-- How a text is read up to the closing quote. -/
inductive ReadsTo : List Char → List Nat → List Char → Prop
  | quote (rest : List Char) : ReadsTo ('\'' :: rest) [] rest
  | plain {c : Char} {rest r : List Char} {us : List Nat} (hc : c ∉ specials)
      (later : ReadsTo rest us r) : ReadsTo (c :: rest) (codeUnits c.toNat ++ us) r
  | escaped {rest r : List Char} {u us : List Nat} {taken : Nat}
      (hescape : escape rest = some (u, taken)) (later : ReadsTo (rest.drop taken) us r) :
      ReadsTo ('\\' :: rest) (u ++ us) r

theorem readString_of_readsTo (h : ReadsTo s us r) : readString s = some (us, r) := by
  induction h with
  | quote rest => rfl
  | plain hc _ ih => rw [readString_of_notMem hc, ih, Option.map_some]
  | escaped hescape _ ih =>
    rw [readString_backslash, hescape, Option.bind_some, ih, Option.map_some]

theorem readsTo_of_readString (h : readString s = some (us, r)) : ReadsTo s us r := by
  induction hn : s.length using Nat.strong_induction_on generalizing s us with
  | _ n ih =>
    cases s with
    | nil => cases h
    | cons c rest =>
      rw [List.length_cons] at hn
      by_cases hc : c ∈ specials
      · have hcases : c = '\'' ∨ c = '\\' ∨ c = '\n' ∨ c = '\r' := by simpa [specials] using hc
        rcases hcases with rfl | rfl | hend
        · cases h
          exact .quote _
        · rw [readString_backslash] at h
          obtain ⟨⟨u, taken⟩, hescape, h⟩ := Option.bind_eq_some_iff.1 h
          obtain ⟨⟨later, r⟩, hlater, heq⟩ := Option.map_eq_some_iff.1 h
          cases heq
          exact .escaped hescape (ih _ (by rw [List.length_drop]; omega) hlater rfl)
        · rw [readString_lineEnd hend] at h
          cases h
      · rw [readString_of_notMem hc] at h
        obtain ⟨⟨later, r⟩, hlater, heq⟩ := Option.map_eq_some_iff.1 h
        cases heq
        exact .plain hc (ih _ (by omega) hlater rfl)

/-- A text without special characters is read as it is written. -/
theorem readString_of_isPlain (hv : IsPlain v) (rest : List Char) :
    readString (v ++ '\'' :: rest) = some (unitsOf v, rest) := by
  induction v with
  | nil => rfl
  | cons c more ih =>
    rw [IsPlain, List.forall_mem_cons] at hv
    rw [List.cons_append, readString_of_notMem hv.1, ih hv.2, unitsOf_cons]
    rfl

/-- An escape in front of the first quote takes at least as much as it stands for, or it is that of
the quote. -/
theorem escape_up_to_quote {taken : Nat} (hv : '\'' ∉ v)
    (h : escape (v ++ '\'' :: rest) = some (us, taken)) :
    us = [39] ∨ taken ≤ v.length ∧ us.length ≤ (unitsOf (v.take taken)).length := by
  rcases escape_cases h with hmarkless | ⟨c, more, hcons, rfl, rfl⟩
  · have htaken : taken ≤ v.length := by
      by_contra hlonger
      refine hmarkless.quote ?_
      rw [List.take_append, List.mem_append]
      refine .inr ?_
      obtain ⟨k, hk⟩ := Nat.exists_eq_add_of_lt (Nat.lt_of_not_le hlonger)
      rw [show taken - v.length = k + 1 by omega, List.take_succ_cons]
      exact List.mem_cons_self
    have hunits := length_le_length_unitsOf (v.take taken)
    rw [List.length_take, Nat.min_eq_left htaken] at hunits
    exact .inr ⟨htaken, hmarkless.size.trans hunits⟩
  · cases v with
    | nil =>
      cases hcons
      exact .inl rfl
    | cons d behind =>
      cases hcons
      refine .inr ⟨by simp, ?_⟩
      simp [unitsOf]

/-- What has been read is not what a text without quotes says: there is less of it, or a quote is
read where the text has something else. -/
def Astray (us : List Nat) (v : List Char) : Prop :=
  us.length < (unitsOf v).length ∨
    ∃ before behind, us = before ++ 39 :: behind ∧ before.length < (unitsOf v).length

theorem Astray.append {later : List Nat} {w : List Char} (h : Astray later w)
    (hus : us.length + (unitsOf w).length ≤ (unitsOf v).length) : Astray (us ++ later) v := by
  rcases h with hshort | ⟨before, behind, rfl, hbefore⟩
  · refine .inl ?_
    rw [List.length_append]
    omega
  · refine .inr ⟨us ++ before, behind, (List.append_assoc _ _ _).symm, ?_⟩
    rw [List.length_append]
    omega

theorem Astray.ne_unitsOf_append (h : Astray us v) (hv : '\'' ∉ v) (w : List Char) :
    us ≠ unitsOf v ++ unitsOf w := by
  rintro rfl
  rcases h with hshort | ⟨before, behind, heq, hbefore⟩
  · rw [List.length_append] at hshort
    omega
  · refine hv (quote_mem_unitsOf_iff.1 ?_)
    have hstarts : before ++ [39] <+: unitsOf v := by
      refine List.prefix_of_prefix_length_le ⟨behind, ?_⟩ (List.prefix_append _ (unitsOf w)) ?_
      · rw [heq, List.append_assoc, List.singleton_append]
      · rwa [List.length_append, List.length_singleton]
    exact hstarts.subset (by simp)

/-- **Up to the first quote** a text is read as it is written if it is plain, and astray if not. -/
theorem readString_up_to_quote (hv : '\'' ∉ v) (h : readString (v ++ '\'' :: rest) = some (us, r)) :
    (us = unitsOf v ∧ IsPlain v ∧ r = rest) ∨ Astray us v := by
  have hread := readsTo_of_readString h
  clear h
  generalize htext : v ++ '\'' :: rest = text at hread
  induction hread generalizing v with
  | quote behind =>
    cases v with
    | nil =>
      cases htext
      exact .inl ⟨rfl, by simp [IsPlain], rfl⟩
    | cons c more =>
      cases htext
      exact absurd List.mem_cons_self hv
  | @plain c behind r us hc _ ih =>
    cases v with
    | nil =>
      cases htext
      exact absurd (by decide) hc
    | cons d more =>
      cases htext
      rw [List.mem_cons, not_or] at hv
      rcases ih hv.2 rfl with ⟨rfl, hplain, hr⟩ | hastray
      · exact .inl ⟨rfl, List.forall_mem_cons.2 ⟨hc, hplain⟩, hr⟩
      · refine .inr (hastray.append ?_)
        rw [unitsOf_cons, List.length_append]
  | @escaped behind r u us taken hescape _ ih =>
    cases v with
    | nil => cases htext
    | cons d more =>
      cases htext
      rw [List.mem_cons, not_or] at hv
      -- The backslash itself stands for nothing.
      have hunits : (unitsOf more).length < (unitsOf ('\\' :: more)).length := by
        rw [unitsOf_cons, List.length_append]
        exact Nat.lt_add_of_pos_left (length_codeUnits _).1
      refine .inr ?_
      rcases escape_up_to_quote hv.2 hescape with rfl | ⟨htaken, hu⟩
      · exact .inr ⟨[], us, rfl, Nat.zero_lt_of_lt hunits⟩
      · have hsplit : (unitsOf more).length
            = (unitsOf (more.take taken)).length + (unitsOf (more.drop taken)).length := by
          rw [← List.length_append, ← unitsOf_append, List.take_append_drop]
        have hquote : '\'' ∉ more.drop taken := fun hmem => hv.2 (List.mem_of_mem_drop hmem)
        rcases ih hquote (List.drop_append_of_le_length htaken).symm with ⟨rfl, -, -⟩ | hastray
        · refine .inl ?_
          rw [List.length_append]
          omega
        · exact hastray.append (by omega)

/-- **Only a text without special characters is read back** when it stands between quotes as it
is. -/
theorem isPlain_of_readString (h : readString (v ++ '\'' :: rest) = some (unitsOf v, r)) :
    IsPlain v ∧ r = rest := by
  by_cases hquote : '\'' ∈ v
  · obtain ⟨front, back, rfl, hfront⟩ := List.eq_append_cons_of_mem hquote
    rw [unitsOf_append, List.append_assoc, List.cons_append] at h
    rcases readString_up_to_quote hfront h with ⟨heq, -, -⟩ | hastray
    · rw [List.append_right_eq_self] at heq
      cases heq
    · exact absurd rfl (hastray.ne_unitsOf_append hfront ('\'' :: back))
  · rcases readString_up_to_quote hquote h with ⟨-, hplain, hr⟩ | hastray
    · exact ⟨hplain, hr⟩
    · exact absurd (List.append_nil _).symm (hastray.ne_unitsOf_append hquote [])

/-! ## What stands behind a literal -/

/-- A literal ends with a quote. -/
theorem exists_of_readString (h : readString s = some (us, r)) :
    ∃ body, s = body ++ '\'' :: r := by
  have hread := readsTo_of_readString h
  clear h
  induction hread with
  | quote rest => exact ⟨[], rfl⟩
  | @plain c _ _ _ _ _ ih =>
    obtain ⟨body, rfl⟩ := ih
    exact ⟨c :: body, rfl⟩
  | @escaped rest _ _ _ taken _ _ ih =>
    obtain ⟨body, hbody⟩ := ih
    refine ⟨'\\' :: (rest.take taken ++ body), ?_⟩
    rw [List.cons_append, List.append_assoc, ← hbody, List.take_append_drop]

/-- **What stands behind a literal has no part in it.** -/
theorem readString_append (h : readString s = some (us, r)) (t : List Char) :
    readString (s ++ t) = some (us, r ++ t) := by
  have hread := readsTo_of_readString h
  clear h
  refine readString_of_readsTo ?_
  induction hread with
  | quote rest => exact .quote _
  | plain hc _ ih => exact .plain hc ih
  | @escaped rest _ _ _ taken hescape later ih =>
    have hbehind : taken < rest.length := by
      by_contra hlong
      rw [List.drop_eq_nil_of_le (Nat.le_of_not_lt hlong)] at later
      cases later
    have hdrop : (rest ++ t).drop taken = rest.drop taken ++ t :=
      List.drop_append_of_le_length hbehind.le
    exact .escaped (escape_append hescape hbehind t) (hdrop ▸ ih)

end

/-- What is read as a literal is more than what still stands behind it. -/
theorem ReadsTo.exists_cons {text rest s t r : List Char} {us : List Nat}
    (h : ReadsTo text us rest) (htext : s ++ t = text) (hrest : r ++ t = rest) :
    ∃ c more, s = c :: more := by
  refine List.exists_cons_of_ne_nil ?_
  rintro rfl
  obtain ⟨body, hbody⟩ := exists_of_readString (readString_of_readsTo h)
  have hlength := congrArg List.length hbody
  rw [← htext, ← hrest, List.nil_append, List.length_append, List.length_cons,
    List.length_append] at hlength
  omega

/-- **A literal is one without what stands behind it.** -/
theorem readString_of_append {s t r : List Char} {us : List Nat}
    (h : readString (s ++ t) = some (us, r ++ t)) : readString s = some (us, r) := by
  have hread := readsTo_of_readString h
  clear h
  refine readString_of_readsTo ?_
  generalize htext : s ++ t = text at hread
  generalize hrest : r ++ t = rest at hread
  induction hread generalizing s with
  | quote rest =>
    obtain ⟨c, more, rfl⟩ := (ReadsTo.quote rest).exists_cons htext hrest
    obtain ⟨rfl, hmore⟩ := List.cons.inj htext
    rw [List.append_cancel_right (hmore.trans hrest.symm)]
    exact .quote r
  | plain hc later ih =>
    obtain ⟨c, more, rfl⟩ := (ReadsTo.plain hc later).exists_cons htext hrest
    obtain ⟨rfl, hmore⟩ := List.cons.inj htext
    exact .plain hc (ih hmore hrest)
  | @escaped behind _ u us taken hescape later ih =>
    obtain ⟨c, more, rfl⟩ := (ReadsTo.escaped hescape later).exists_cons htext hrest
    rw [List.cons_append] at htext
    obtain ⟨rfl, rfl⟩ := List.cons.inj htext
    -- The escape ends in front of what is still to be read.
    have htaken : taken < more.length := by
      obtain ⟨body, hbody⟩ := exists_of_readString (readString_of_readsTo later)
      have hlength := congrArg List.length hbody
      rw [← hrest, List.length_drop] at hlength
      simp only [List.length_append, List.length_cons] at hlength
      omega
    exact .escaped (escape_of_append hescape htaken)
      (ih (List.drop_append_of_le_length htaken.le).symm hrest)

end Literal
end Ambient
