import Ambient.Proofs.TypeExpr.Bars
import Ambient.Proofs.TypeExpr.Grammar

/-!
# Brackets of type expressions

An expression closes what it opens, and no more, so what is open in front of it is open behind it.
A bar or an arrow in it stands within brackets, unless it joins the parts of the whole expression.

This is a matter of tokens, and is proved along the grammar.  Where bars are looked for there are
characters only; but those of a sign open and close what the sign does, and those of names and
literals nothing that stays.

## What is here

* `TypeToken.nest` — what is open behind a token; `sheltered` — no bar and no arrow among the tokens
  is bare.
* `Keeps` — tokens that close what they open; `Derives.keeps` — **those of an expression do.**
* `Nesting.sheltered` — no bar and no arrow in the text is bare; `barParts_of_sheltered` — then it
  has one part only.
* `Tokens.follows` — **a text opens and closes what its tokens do**, and the same is bare in it.
-/

set_option autoImplicit false

namespace Ambient

open Character Literal Text

/-! ## Tokens -/

namespace TypeToken

/-- What is open behind a token. -/
def nest (closers : List Char) : TypeToken → List Char
  | .openParen => ')' :: closers
  | .openBracket => ']' :: closers
  | .openAngle => '>' :: closers
  | .closeParen => if closers.head? = some ')' then closers.tail else closers
  | .closeBracket => if closers.head? = some ']' then closers.tail else closers
  | .closeAngle => if closers.head? = some '>' then closers.tail else closers
  | _ => closers

/-- The token joins what stands on either side. -/
def isJoint : TypeToken → Bool
  | .bar | .arrow => true
  | _ => false

end TypeToken

/-- Bars and arrows stand only where something is open. -/
def sheltered (closers : List Char) : List TypeToken → Bool
  | [] => true
  | token :: rest => !(closers.isEmpty && token.isJoint) && sheltered (token.nest closers) rest

/-- The tokens close what they open, and no more; and if `P`, bars and arrows among them stand only
where something is open. -/
structure Keeps (P : Prop) (closers : List Char) (ts : List TypeToken) : Prop where
  nest : ts.foldl TypeToken.nest closers = closers
  sheltered : P → sheltered closers ts = true

section

variable {P Q : Prop} {closers : List Char} {ts us : List TypeToken} {token : TypeToken}

theorem sheltered_append (closers : List Char) (ts us : List TypeToken) :
    sheltered closers (ts ++ us)
      = (sheltered closers ts && sheltered (ts.foldl TypeToken.nest closers) us) := by
  induction ts generalizing closers with
  | nil => rfl
  | cons token rest ih => rw [List.cons_append, sheltered, sheltered, ih, Bool.and_assoc]; rfl

theorem sheltered_of_not_isJoint (hjoint : token.isJoint = false) (closers : List Char) :
    sheltered closers [token] = true := by
  rw [sheltered, hjoint, Bool.and_false]
  rfl

theorem Keeps.mono (h : Keeps P closers ts) (hQ : Q → P) : Keeps Q closers ts :=
  ⟨h.nest, fun hq => h.sheltered (hQ hq)⟩

theorem keeps_nil : Keeps P closers [] := ⟨rfl, fun _ => rfl⟩

theorem Keeps.append (hts : Keeps P closers ts) (hus : Keeps P closers us) :
    Keeps P closers (ts ++ us) := by
  refine ⟨by rw [List.foldl_append, hts.nest, hus.nest], fun hP => ?_⟩
  rw [sheltered_append, hts.sheltered hP, hts.nest, hus.sheltered hP]
  rfl

/-- A token that opens and closes nothing. -/
theorem Keeps.cons (hnest : token.nest closers = closers)
    (hjoint : P → token.isJoint = false ∨ closers ≠ []) (h : Keeps P closers ts) :
    Keeps P closers (token :: ts) := by
  refine ⟨by rw [List.foldl_cons, hnest, h.nest], fun hP => ?_⟩
  rw [Ambient.sheltered, hnest, h.sheltered hP, Bool.and_true]
  rcases hjoint hP with hjoint | hne
  · rw [hjoint, Bool.and_false]
    rfl
  · rw [Bool.eq_false_iff.2 (fun hempty => hne (List.isEmpty_iff.1 hempty)), Bool.false_and]
    rfl

/-- Tokens between brackets. -/
theorem Keeps.enclosed {opening closing : TypeToken} {closer : Char}
    (hopens : opening.nest closers = closer :: closers)
    (hcloses : closing.nest (closer :: closers) = closers)
    (hopening : opening.isJoint = false) (h : Keeps True (closer :: closers) ts) :
    Keeps P closers (opening :: (ts ++ [closing])) := by
  constructor
  · rw [List.foldl_cons, List.foldl_append, hopens, h.nest, List.foldl_cons, hcloses]
    rfl
  · intro _
    rw [Ambient.sheltered, hopens, sheltered_append, h.nest, h.sheltered trivial, hopening]
    rw [Ambient.sheltered]
    simp [Ambient.sheltered]

/-- Parts that are joined. -/
theorem Keeps.intercalate {α : Type} {text : α → List TypeToken} {sep : TypeToken} {as : List α}
    (hnest : sep.nest closers = closers) (hjoint : P → sep.isJoint = false ∨ closers ≠ [])
    (h : ∀ a ∈ as, Keeps P closers (text a)) :
    Keeps P closers ([sep].intercalate (as.map text)) := by
  cases as with
  | nil => exact keeps_nil
  | cons a rest =>
    rw [List.forall_mem_cons] at h
    rw [List.map_cons, Reading.intercalate_cons_eq]
    refine h.1.append ?_
    have hrest := h.2
    clear h
    induction rest with
    | nil => exact keeps_nil
    | cons b more ih =>
      rw [List.forall_mem_cons] at hrest
      rw [List.map_cons, List.flatMap_cons]
      exact ((hrest.1.cons hnest hjoint)).append (ih hrest.2)

end

/-! ## Expressions -/

section

variable {P : Prop} {level : TypeLevel} {closers : List Char} {ts : List TypeToken} {t : TypeExpr}

theorem keeps_brackets (depth : Nat) : Keeps P closers (bracketTokens depth) := by
  induction depth with
  | zero => exact keeps_nil
  | succ depth ih => exact ih.append (keeps_nil.enclosed rfl rfl rfl)

theorem TypeParam.keeps {p : TypeParam}
    (h : ∀ part, p.type = some part → Keeps True closers part.1) : Keeps True closers p.tokens := by
  have hplain {token : TypeToken} {ts : List TypeToken} (hnest : token.nest closers = closers)
      (hjoint : token.isJoint = false) (h : Keeps True closers ts) :
      Keeps True closers (token :: ts) := h.cons hnest fun _ => .inl hjoint
  obtain ⟨spread, word, optional, type⟩ := p
  have htype : Keeps True closers ((type.map fun part => .colon :: part.1).getD []) := by
    cases type with
    | none => exact keeps_nil
    | some part => exact hplain rfl rfl (h part rfl)
  have hannotation : Keeps True closers <| TypeParam.annotation optional type := by
    cases optional with
    | false => exact htype
    | true => exact hplain rfl rfl htype
  cases spread with
  | false => exact hplain rfl rfl hannotation
  | true => exact hplain rfl rfl (hplain rfl rfl hannotation)

/-- The parameters of a function, with the parentheses around them. -/
theorem keeps_parameters {parameters : List TypeParam}
    (h : ∀ p ∈ parameters, ∀ part, p.type = some part → Keeps True (')' :: closers) part.1) :
    Keeps P closers (.openParen ::
      ([.comma].intercalate (parameters.map TypeParam.tokens) ++ [.closeParen])) :=
  Keeps.enclosed rfl rfl rfl
    (.intercalate rfl (fun _ => .inl rfl) fun p hp => TypeParam.keeps (h p hp))

/-- **An expression closes what it opens**, and no more.  Bars and arrows in it stand within
brackets, unless they are those of the whole expression, and there are no brackets around it. -/
theorem Derives.keeps (h : Derives level ts t) (closers : List Char) :
    Keeps (level ≠ .whole ∨ closers ≠ []) closers ts := by
  have hwithin {closer : Char} {closers : List Char} {level : TypeLevel} {ts : List TypeToken}
      (h : Keeps (level ≠ .whole ∨ closer :: closers ≠ []) (closer :: closers) ts) :
      Keeps True (closer :: closers) ts := h.mono fun _ => .inr (List.cons_ne_nil _ _)
  induction h generalizing closers with
  | name _ => exact keeps_nil.cons rfl fun _ => .inl rfl
  | generic _ _ _ ih =>
    refine Keeps.cons rfl (fun _ => .inl rfl) (Keeps.enclosed rfl rfl rfl ?_)
    exact .intercalate rfl (fun _ => .inl rfl) fun a ha => hwithin (ih a ha _)
  | literal _ => exact keeps_nil.cons rfl fun _ => .inl rfl
  | parenthesized _ ih => exact Keeps.enclosed rfl rfl rfl (hwithin (ih _))
  | suffixed depth _ ih =>
    exact ((ih closers).mono fun _ => .inl nofun).append (keeps_brackets depth)
  | choice _ _ ih =>
    refine .intercalate rfl (fun h => .inr (h.resolve_left fun hne => hne rfl)) fun m hm => ?_
    exact (ih m hm closers).mono fun _ => .inl nofun
  | function _ _ ihparameters ih =>
    have hparameters := keeps_parameters (P := TypeLevel.whole ≠ .whole ∨ closers ≠ [])
      fun p hp part hpart => hwithin (ihparameters p hp part hpart (')' :: closers))
    have harrow := @Keeps.cons _ closers _ .arrow rfl
      (fun h => .inr (h.resolve_left fun hne => hne rfl)) (ih closers)
    have hall := hparameters.append harrow
    rwa [List.cons_append, List.append_assoc] at hall

end

/-! ## Texts -/

/-- The characters that close the brackets of expressions. -/
def bracketClosers : List Char := [')', ']', '>']

/-- The character opens and closes nothing, and has no part in bars and arrows. -/
def isInert (c : Char) : Bool :=
  (Nesting.closer? c).isNone && !bracketClosers.contains c && c != '|' && c != '='

theorem mem_bracketClosers {c : Char} : c ∈ bracketClosers ↔ c = ')' ∨ c = ']' ∨ c = '>' := by
  simp [bracketClosers]

namespace Nesting

/-- Only brackets are open, and no arrow is under way. -/
structure IsIdle (n : Nesting) : Prop where
  closers : n.closers ⊆ bracketClosers
  before : n.before ≠ '='

/-- Bars and arrows of the text stand only where something is open. -/
def sheltered : Nesting → List Char → Bool
  | _, [] => true
  | n, c :: rest =>
    !(n.closers.isEmpty && (c == '|' || n.before == '=' && c == '>')) && (n.step c).sheltered rest

/-- The text opens and closes what the tokens do, and bars and arrows are bare in both or in
neither. -/
structure Follows (n : Nesting) (s : List Char) (ts : List TypeToken) : Prop where
  idle : (s.foldl step n).IsIdle
  closers : (s.foldl step n).closers = ts.foldl TypeToken.nest n.closers
  sheltered : n.sheltered s = Ambient.sheltered n.closers ts

section

variable {n : Nesting} {s t : List Char} {c closer : Char} {ts us : List TypeToken}
  {token : TypeToken}

theorem isIdle_bare : bare.IsIdle := ⟨List.nil_subset _, by decide⟩

theorem sheltered_append (n : Nesting) (s t : List Char) :
    n.sheltered (s ++ t) = (n.sheltered s && (s.foldl step n).sheltered t) := by
  induction s generalizing n with
  | nil => rfl
  | cons c rest ih => rw [List.cons_append, sheltered, sheltered, ih, Bool.and_assoc]; rfl

/-- Within brackets and strings nothing is bare. -/
theorem sheltered_cons (h : n.closers ≠ []) (c : Char) (s : List Char) :
    n.sheltered (c :: s) = (n.step c).sheltered s := by
  rw [sheltered, Bool.eq_false_iff.2 fun hempty => h (List.isEmpty_iff.1 hempty), Bool.false_and]
  rfl

/-- A character that is no bar and ends no arrow may be bare. -/
theorem sheltered_singleton (hbar : c ≠ '|') (harrow : n.before ≠ '=' ∨ c ≠ '>') :
    n.sheltered [c] = true := by
  have hbare : (c == '|' || n.before == '=' && c == '>') = false := by
    rw [beq_false_of_ne hbar, Bool.false_or, Bool.and_eq_false_iff]
    exact harrow.imp beq_false_of_ne beq_false_of_ne
  rw [sheltered, hbare, Bool.and_false]
  rfl

theorem follows_nil (h : n.IsIdle) : n.Follows [] [] := ⟨h, rfl, rfl⟩

theorem Follows.append (h : n.Follows s ts) (h2 : (s.foldl step n).Follows t us) :
    n.Follows (s ++ t) (ts ++ us) := by
  refine ⟨by rw [List.foldl_append]; exact h2.idle, ?_, ?_⟩
  · rw [List.foldl_append, List.foldl_append, h2.closers, h.closers]
  · rw [sheltered_append, Ambient.sheltered_append, h.sheltered, h2.sheltered, h.closers]

/-- Where only brackets are open, no string goes on. -/
theorem step_of_subset (h : n.closers ⊆ bracketClosers) (c : Char) :
    n.step c = stepPlain n.closers n.before c := by
  obtain ⟨closers, before⟩ := n
  cases closers with
  | nil => rfl
  | cons closer outer =>
    refine if_neg ?_
    rcases mem_bracketClosers.1 (h List.mem_cons_self) with rfl | rfl | rfl <;> decide

theorem IsIdle.step_eq (h : n.IsIdle) (c : Char) :
    n.step c = if n.closers.head? = some c then ⟨n.closers.tail, c⟩
      else ⟨(closer? c).toList ++ n.closers, c⟩ := by
  rw [step_of_subset h.closers, stepPlain]
  simp [h.before]

/-- What closes no bracket is put on top of what is open. -/
theorem IsIdle.step_of_notMem (h : n.IsIdle) (hc : c ∉ bracketClosers) :
    n.step c = ⟨(closer? c).toList ++ n.closers, c⟩ := by
  rw [h.step_eq, if_neg fun hhead => hc (h.closers (List.mem_of_head? hhead))]

/-- A token that is no joint and opens and closes nothing. -/
theorem Follows.of_inert (h : n.Follows s []) (hnest : token.nest n.closers = n.closers)
    (hjoint : token.isJoint = false) : n.Follows s [token] := by
  refine ⟨h.idle, ?_, ?_⟩
  · rw [h.closers, List.foldl_cons, hnest]
  · rw [h.sheltered, sheltered_of_not_isJoint hjoint]
    rfl

theorem follows_inert (h : n.IsIdle) (hs : s.all isInert = true) : n.Follows s [] := by
  induction s generalizing n with
  | nil => exact follows_nil h
  | cons c rest ih =>
    rw [List.all_cons, Bool.and_eq_true] at hs
    obtain ⟨⟨⟨hcloser, hc⟩, hbar⟩, hequals⟩ := by simpa [isInert] using hs.1
    have hstep : n.step c = ⟨n.closers, c⟩ := by
      rw [h.step_of_notMem hc, hcloser]
      rfl
    have hangle : c ≠ '>' := by
      rintro rfl
      exact hc (by decide)
    have hfirst : n.Follows [c] [] := by
      refine ⟨?_, ?_, sheltered_singleton hbar (.inr hangle)⟩
      · rw [List.foldl_cons, hstep]
        exact ⟨h.closers, hequals⟩
      · rw [List.foldl_cons, hstep]
        rfl
    exact hfirst.append (ih hfirst.idle hs.2)

theorem follows_opening (h : n.IsIdle) (hopens : closer? c = some closer)
    (hcloser : closer ∈ bracketClosers) (hc : c ∉ '|' :: '=' :: bracketClosers)
    (hnest : token.nest n.closers = closer :: n.closers) (hjoint : token.isJoint = false) :
    n.Follows [c] [token] := by
  rw [List.mem_cons, List.mem_cons, not_or, not_or] at hc
  have hstep : n.step c = ⟨closer :: n.closers, c⟩ := by
    rw [h.step_of_notMem hc.2.2, hopens]
    rfl
  refine ⟨?_, ?_, ?_⟩
  · rw [List.foldl_cons, hstep]
    exact ⟨List.cons_subset.2 ⟨hcloser, h.closers⟩, hc.2.1⟩
  · rw [List.foldl_cons, hstep, List.foldl_cons, hnest]
    rfl
  · rw [sheltered_singleton hc.1 (.inl h.before), sheltered_of_not_isJoint hjoint]

theorem follows_closing (h : n.IsIdle) (hc : c ∈ bracketClosers)
    (hnest : token.nest n.closers
      = if n.closers.head? = some c then n.closers.tail else n.closers)
    (hjoint : token.isJoint = false) : n.Follows [c] [token] := by
  obtain ⟨hcloser, hbar, hequals⟩ : closer? c = none ∧ c ≠ '|' ∧ c ≠ '=' := by
    rcases mem_bracketClosers.1 hc with rfl | rfl | rfl <;> decide
  have hstep : n.step c = ⟨token.nest n.closers, c⟩ := by
    rw [h.step_eq, hnest, hcloser]
    split <;> rfl
  have hsubset : token.nest n.closers ⊆ bracketClosers := by
    rw [hnest]
    split
    · exact fun d hd => h.closers (List.mem_of_mem_tail hd)
    · exact h.closers
  refine ⟨?_, ?_, ?_⟩
  · rw [List.foldl_cons, hstep]
    exact ⟨hsubset, hequals⟩
  · rw [List.foldl_cons, hstep]
    rfl
  · rw [sheltered_singleton hbar (.inl h.before), sheltered_of_not_isJoint hjoint]

theorem follows_bar (h : n.IsIdle) : n.Follows [' ', '|', ' '] [.bar] := by
  have hblank {n : Nesting} (h : n.IsIdle) : n.Follows [' '] [] := follows_inert h (by decide)
  have hbar {n : Nesting} (h : n.IsIdle) : n.Follows ['|'] [.bar] := by
    have hstep : n.step '|' = ⟨n.closers, '|'⟩ := h.step_of_notMem (by decide)
    refine ⟨?_, ?_, ?_⟩
    · rw [List.foldl_cons, hstep]
      exact ⟨h.closers, (by decide : '|' ≠ '=')⟩
    · rw [List.foldl_cons, hstep]
      rfl
    · rw [sheltered, Ambient.sheltered, beq_self_eq_true, Bool.true_or]
      rfl
  have hfirst := hblank h
  have hsecond := hbar hfirst.idle
  exact hfirst.append (hsecond.append (hblank hsecond.idle))

theorem follows_arrow (h : n.IsIdle) : n.Follows ['=', '>'] [.arrow] := by
  have hequals : n.step '=' = ⟨n.closers, '='⟩ := h.step_of_notMem (by decide)
  -- The arrow closes no bracket.
  have hangle : (⟨n.closers, '='⟩ : Nesting).step '>' = ⟨n.closers, '>'⟩ := by
    rw [step_of_subset (n := ⟨n.closers, '='⟩) h.closers]
    exact if_neg fun h => h.2 ⟨rfl, rfl⟩
  refine ⟨?_, ?_, ?_⟩
  · rw [List.foldl_cons, hequals, List.foldl_cons, hangle]
    exact ⟨h.closers, (by decide : '>' ≠ '=')⟩
  · rw [List.foldl_cons, hequals, List.foldl_cons, hangle]
    rfl
  · rw [sheltered, hequals, sheltered, beq_false_of_ne h.before, Ambient.sheltered]
    simp [sheltered, Ambient.sheltered, TypeToken.isJoint]

/-- **A sign** opens and closes what its token does. -/
theorem follows_sign (h : n.IsIdle) {e : List Char × TypeToken} (he : e ∈ TypeToken.signs) :
    n.Follows e.1 [e.2] := by
  have hinert {part : List Char} {sign : TypeToken} (hpart : part.all isInert = true)
      (hnest : sign.nest n.closers = n.closers) (hjoint : sign.isJoint = false) :
      n.Follows part [sign] := (follows_inert h hpart).of_inert hnest hjoint
  simp only [TypeToken.signs, List.mem_cons, List.not_mem_nil, or_false] at he
  rcases he with rfl | rfl | rfl | rfl | rfl | rfl | rfl | rfl | rfl | rfl | rfl | rfl
  · exact follows_bar h
  · exact follows_arrow h
  · exact hinert (by decide) rfl rfl
  · exact follows_opening h rfl (by decide) (by decide) rfl rfl
  · exact follows_closing h (by decide) rfl rfl
  · exact follows_opening h rfl (by decide) (by decide) rfl rfl
  · exact follows_closing h (by decide) rfl rfl
  · exact follows_opening h rfl (by decide) (by decide) rfl rfl
  · exact follows_closing h (by decide) rfl rfl
  · exact hinert (by decide) rfl rfl
  · exact hinert (by decide) rfl rfl
  · exact hinert (by decide) rfl rfl

theorem isInert_of_isNameChar (hc : isNameChar c = true) : isInert c = true := by
  have hcloser : closer? c = none := by
    unfold closer?
    split <;> first | rfl | exact absurd hc (by decide)
  have hbracket : c ∉ bracketClosers := by
    intro hmem
    rcases mem_bracketClosers.1 hmem with rfl | rfl | rfl <;> exact absurd hc (by decide)
  have hbar : c ≠ '|' := ne_of_isNameChar hc (by decide)
  have hequals : c ≠ '=' := ne_of_isNameChar hc (by decide)
  simp [isInert, hcloser, hbracket, hbar, hequals]

end

/-! ### Literals -/

section

variable {s r : List Char} {c before : Char} {outer : List Char} {us : List Nat} {taken : Nat}

theorem step_quoted (hbefore : before ≠ '\\') (hc : c ≠ '\'') :
    (⟨'\'' :: outer, before⟩ : Nesting).step c = ⟨'\'' :: outer, c⟩ := by
  change stepQuoted '\'' outer before c = _
  rw [stepQuoted, if_neg hbefore, if_neg hc, if_neg (by simp)]

/-- What stands behind a backslash is no backslash and no quote. -/
theorem step_backslash (c : Char) :
    (⟨'\'' :: outer, '\\'⟩ : Nesting).step c = ⟨'\'' :: outer, ' '⟩ := rfl

theorem step_quote (hbefore : before ≠ '\\') :
    (⟨'\'' :: outer, before⟩ : Nesting).step '\'' = ⟨outer, '\''⟩ := by
  change stepQuoted '\'' outer before '\'' = _
  rw [stepQuoted, if_neg hbefore, if_pos rfl]

/-- A text without marks goes on with a string. -/
theorem foldl_step_quoted (hbefore : before ≠ '\\') (hs : ∀ c ∈ s, isMark c = false) :
    ∃ last, last ≠ '\\' ∧ s.foldl step ⟨'\'' :: outer, before⟩ = ⟨'\'' :: outer, last⟩ ∧
      (⟨'\'' :: outer, before⟩ : Nesting).sheltered s = true := by
  induction s generalizing before with
  | nil => exact ⟨before, hbefore, rfl, rfl⟩
  | cons c rest ih =>
    rw [List.forall_mem_cons] at hs
    obtain ⟨hquote, hbackslash⟩ := by simpa [isMark] using hs.1
    obtain ⟨last, hlast, hfold, hsheltered⟩ := ih hbackslash hs.2
    refine ⟨last, hlast, ?_, ?_⟩
    · rw [List.foldl_cons, step_quoted hbefore hquote, hfold]
    · rw [sheltered_cons (List.cons_ne_nil _ _), step_quoted hbefore hquote, hsheltered]

/-- So does an escape behind its backslash. -/
theorem foldl_step_escape (outer : List Char) (h : escape s = some (us, taken)) :
    ∃ last, last ≠ '\\' ∧
      (s.take taken).foldl step ⟨'\'' :: outer, '\\'⟩ = ⟨'\'' :: outer, last⟩ ∧
      (⟨'\'' :: outer, '\\'⟩ : Nesting).sheltered (s.take taken) = true := by
  have hfirst {c : Char} {rest : List Char} (hrest : ∀ c ∈ rest, isMark c = false) :
      ∃ last, last ≠ '\\' ∧
        (c :: rest).foldl step ⟨'\'' :: outer, '\\'⟩ = ⟨'\'' :: outer, last⟩ ∧
        (⟨'\'' :: outer, '\\'⟩ : Nesting).sheltered (c :: rest) = true := by
    rw [List.foldl_cons, sheltered_cons (List.cons_ne_nil _ _), step_backslash]
    exact foldl_step_quoted (by decide) hrest
  rcases escape_cases h with hmarkless | ⟨c, rest, rfl, -, rfl⟩
  · have hne : s.take taken ≠ [] := by
      have hpos := hmarkless.pos
      have hle := hmarkless.le
      rw [← List.length_pos_iff, List.length_take_of_le hle]
      exact hpos
    obtain ⟨c, rest, hcons⟩ := List.exists_cons_of_ne_nil hne
    have hmarks := hmarkless.marks
    rw [hcons, List.forall_mem_cons] at hmarks
    rw [hcons]
    exact hfirst hmarks.2
  · exact @hfirst c [] (by simp)

/-- **A string is closed where its literal ends.** -/
theorem foldl_step_of_readsTo (outer : List Char) (h : ReadsTo s us r) (hbefore : before ≠ '\\') :
    ∃ body, s = body ++ r ∧ body.foldl step ⟨'\'' :: outer, before⟩ = ⟨outer, '\''⟩ ∧
      (⟨'\'' :: outer, before⟩ : Nesting).sheltered body = true := by
  induction h generalizing before with
  | quote rest =>
    refine ⟨['\''], rfl, step_quote hbefore, ?_⟩
    rw [sheltered_cons (List.cons_ne_nil _ _), sheltered]
  | @plain c rest _ _ hc _ ih =>
    obtain ⟨hquote, hbackslash, -⟩ := by simpa [specials] using hc
    obtain ⟨body, rfl, hfold, hsheltered⟩ := ih hbackslash
    refine ⟨c :: body, rfl, ?_, ?_⟩
    · rw [List.foldl_cons, step_quoted hbefore hquote, hfold]
    · rw [sheltered_cons (List.cons_ne_nil _ _), step_quoted hbefore hquote, hsheltered]
  | @escaped rest _ _ _ taken hescape _ ih =>
    obtain ⟨last, hlast, hfold, hsheltered⟩ := foldl_step_escape outer hescape
    obtain ⟨body, hbody, hfold2, hsheltered2⟩ := ih hlast
    have hstep : (⟨'\'' :: outer, before⟩ : Nesting).step '\\' = ⟨'\'' :: outer, '\\'⟩ :=
      step_quoted hbefore (by decide)
    refine ⟨'\\' :: (rest.take taken ++ body), ?_, ?_, ?_⟩
    · rw [List.cons_append, List.append_assoc, ← hbody, List.take_append_drop]
    · rw [List.foldl_cons, hstep, List.foldl_append, hfold, hfold2]
    · rw [sheltered_cons (List.cons_ne_nil _ _), hstep, sheltered_append, hsheltered, hfold,
        hsheltered2]
      rfl

end

/-! ### Tokens -/

section

variable {n : Nesting} {s : List Char} {token : Option TypeToken} {taken : Nat}

/-- A literal is closed at its end, and nothing is bare in it. -/
theorem follows_literal (h : n.IsIdle) {us : List Nat} {r : List Char}
    (hread : readString s = some (us, r)) :
    ∃ body, s = body ++ r ∧ n.Follows ('\'' :: body) [.literal us] := by
  have hstep : n.step '\'' = ⟨'\'' :: n.closers, '\''⟩ := h.step_of_notMem (by decide)
  obtain ⟨body, rfl, hfold, hsheltered⟩ :=
    foldl_step_of_readsTo n.closers (readsTo_of_readString hread)
      (by decide : '\'' ≠ '\\')
  have hinert : n.Follows ('\'' :: body) [] := by
    refine ⟨?_, ?_, ?_⟩
    · rw [List.foldl_cons, hstep, hfold]
      exact ⟨h.closers, (by decide : '\'' ≠ '=')⟩
    · rw [List.foldl_cons, hstep, hfold]
      rfl
    · rw [← List.singleton_append, sheltered_append,
        sheltered_singleton (by decide) (.inr (by decide)), List.foldl_cons, hstep, List.foldl_nil,
        hsheltered]
      rfl
  exact ⟨body, rfl, hinert.of_inert rfl rfl⟩

/-- **What stands at the start** opens and closes what its token does. -/
theorem follows_firstToken (h : n.IsIdle) (hfirst : firstToken s = some (token, taken)) :
    n.Follows (s.take taken) token.toList := by
  rcases firstToken_cases hfirst with ⟨_, _, -, -, rfl, rfl⟩ | ⟨rest, us, r, rfl, hread, rfl, rfl⟩ |
    ⟨e, he, hstarts, rfl, rfl⟩ | ⟨rest, rfl, rfl, rfl⟩
  · rw [← List.prefix_iff_eq_take.1 (List.takeWhile_prefix isNameChar)]
    refine (follows_inert h (List.all_eq_true.2 fun c hc => ?_)).of_inert rfl rfl
    exact isInert_of_isNameChar (List.mem_takeWhile_imp hc)
  · obtain ⟨body, rfl, hfollows⟩ := follows_literal h hread
    have htaken : (body ++ r).length + 1 - r.length = body.length + 1 := by
      rw [List.length_append]
      omega
    rw [htaken, List.take_succ_cons, List.take_left]
    exact hfollows
  · rw [← List.prefix_iff_eq_take.1 hstarts]
    exact follows_sign h he
  · exact follows_inert (s := [' ']) h (by decide)

end

end Nesting

section

variable {n : Nesting} {s : List Char} {ts : List TypeToken} {t : TypeExpr} {level : TypeLevel}

/-- **A text opens and closes what its tokens do.** -/
theorem Tokens.follows (h : Tokens s ts) (hn : n.IsIdle) : n.Follows s ts := by
  induction h generalizing n with
  | nil => exact Nesting.follows_nil hn
  | @more s token taken ts hfirst _ ih =>
    have htoken := Nesting.follows_firstToken hn hfirst
    have hall := htoken.append (ih htoken.idle)
    rwa [List.take_append_drop] at hall

/-- An expression is closed at its end. -/
theorem Derives.isClosed (h : Derives level ts t) (hs : Tokens s ts) : IsClosed s := by
  have hclosers := (hs.follows Nesting.isIdle_bare).closers
  exact hclosers.trans (h.keeps []).nest

/-- Nothing is bare in what may stand between bars. -/
theorem Derives.sheltered (h : Derives .suffixed ts t) (hs : Tokens s ts) :
    Nesting.bare.sheltered s = true :=
  (hs.follows Nesting.isIdle_bare).sheltered.trans ((h.keeps []).sheltered (.inl nofun))

/-- Without a bare bar there is one part only. -/
theorem barPartsFrom_of_sheltered (h : n.sheltered s = true) (current : List Char) :
    barPartsFrom n current s = [trim (current.reverse ++ s)] := by
  induction s generalizing n current with
  | nil => rw [barPartsFrom, List.append_nil]
  | cons c rest ih =>
    rw [Nesting.sheltered, Bool.and_eq_true] at h
    have hbar : ¬ (n.closers = [] ∧ c = '|') := by
      rintro ⟨hclosers, rfl⟩
      simp [hclosers] at h
    rw [barPartsFrom, if_neg hbar, ih h.2, List.reverse_cons, List.append_assoc,
      List.singleton_append]

theorem barParts_of_sheltered (h : Nesting.bare.sheltered s = true) : barParts s = [trim s] :=
  barPartsFrom_of_sheltered h []

end

end Ambient
