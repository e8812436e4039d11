import Ambient.Proofs.TypeExpr.Token

/-!
# The grammar of type expressions

A `[]` belongs to what stands right in front of it, a bar joins what stands on either side, and an
arrow reaches as far as it can.  So there are three levels: names, literals and what stands between
parentheses; these with `[]` behind them; and choices of the latter, or function types.

## What is here

* `TypeExpr` — what a type expression says; parentheses have no part in it.
* `Derives level ts t` — the tokens are an expression of the level, which says `t`.
* `flatMap_unique`, `intercalate_unique` — parts with separators between them.
* `behind_parenthesis` — parentheses around a type are not those of parameters.
* `derives_unique` — **tokens say one thing only**, and it is known where they end.
* `Derives.suffixed_of_whole`, `Derives.array` — without bars and arrows, a `[]` behind an
  expression belongs to all of it.
-/

set_option autoImplicit false

namespace Ambient

open TypeToken

/-- What a type expression says.  A parameter of a function may stand for all further arguments, and
it may be optional; its type need not be given. -/
inductive TypeExpr where
  | name (word : List Char)
  | generic (word : List Char) (arguments : List TypeExpr)
  | literal (units : List Nat)
  | array (element : TypeExpr)
  | union (members : List TypeExpr)
  | function (parameters : List (Bool × List Char × Bool × Option TypeExpr)) (result : TypeExpr)

namespace TypeExpr

/-- An array of arrays, to some depth. -/
def arrays : Nat → TypeExpr → TypeExpr
  | 0, t => t
  | depth + 1, t => .array (arrays depth t)

/-- A choice of types.  A single one is no choice. -/
def choice : List TypeExpr → TypeExpr
  | [t] => t
  | members => .union members

end TypeExpr

/-- How tightly the parts of an expression belong together. -/
inductive TypeLevel where
  /-- A name, a literal, or what stands between parentheses. -/
  | primary
  /-- One of these with `[]` behind it. -/
  | suffixed
  /-- A choice of the latter, or a function type. -/
  | whole

/-- So many `[]`. -/
def bracketTokens : Nat → List TypeToken
  | 0 => []
  | depth + 1 => bracketTokens depth ++ [.openBracket, .closeBracket]

/-- A part of an expression: its tokens, and what they say. -/
abbrev TypePart := List TypeToken × TypeExpr

/-- A parameter of a function type, with the part that is its type. -/
structure TypeParam where
  spread : Bool
  word : List Char
  optional : Bool
  type : Option TypePart

namespace TypeParam

/-- The tokens of what stands behind the name of a parameter. -/
def annotation (optional : Bool) (type : Option TypePart) : List TypeToken :=
  (if optional then [.question] else []) ++ (type.map fun part => .colon :: part.1).getD []

/-- The tokens of a parameter. -/
def tokens (p : TypeParam) : List TypeToken :=
  (if p.spread then [.dots] else []) ++ .name p.word :: annotation p.optional p.type

/-- What a parameter says. -/
def meaning (p : TypeParam) : Bool × List Char × Bool × Option TypeExpr :=
  (p.spread, p.word, p.optional, p.type.map Prod.snd)

end TypeParam

/-- The tokens are an expression of the level, and this is what it says. -/
inductive Derives : TypeLevel → List TypeToken → TypeExpr → Prop
  | name (word : List Char) : Derives .primary [.name word] (.name word)
  | generic (word : List Char) {arguments : List TypePart} (hne : arguments ≠ [])
      (h : ∀ a ∈ arguments, Derives .whole a.1 a.2) :
      Derives .primary
        (.name word :: .openAngle ::
          ([.comma].intercalate (arguments.map Prod.fst) ++ [.closeAngle]))
        (.generic word (arguments.map Prod.snd))
  | literal (units : List Nat) : Derives .primary [.literal units] (.literal units)
  | parenthesized {ts : List TypeToken} {t : TypeExpr} (h : Derives .whole ts t) :
      Derives .primary (.openParen :: (ts ++ [.closeParen])) t
  | suffixed {ts : List TypeToken} {t : TypeExpr} (depth : Nat) (h : Derives .primary ts t) :
      Derives .suffixed (ts ++ bracketTokens depth) (t.arrays depth)
  | choice {members : List TypePart} (hne : members ≠ [])
      (h : ∀ m ∈ members, Derives .suffixed m.1 m.2) :
      Derives .whole ([.bar].intercalate (members.map Prod.fst)) (.choice (members.map Prod.snd))
  | function {parameters : List TypeParam} {ts : List TypeToken} {t : TypeExpr}
      (hparameters : ∀ p ∈ parameters, ∀ part, p.type = some part → Derives .whole part.1 part.2)
      (h : Derives .whole ts t) :
      Derives .whole
        (.openParen :: ([.comma].intercalate (parameters.map TypeParam.tokens) ++
          .closeParen :: .arrow :: ts))
        (.function (parameters.map TypeParam.meaning) t)

/-! ## Where expressions start and end -/

/-- Tokens with which an expression may start. -/
def TypeToken.isOpening : TypeToken → Bool
  | .name _ | .literal _ | .openParen => true
  | _ => false

/-- Tokens that go on with an expression of the level. -/
def TypeLevel.continuing : TypeLevel → List TypeToken
  | .primary => [.openAngle, .arrow]
  | .suffixed => [.openAngle, .arrow, .openBracket]
  | .whole => [.openAngle, .arrow, .openBracket, .bar]

/-- An expression of the level may end in front of these tokens. -/
def Ends (level : TypeLevel) (ts : List TypeToken) : Prop :=
  ∀ c ∈ ts.head?, c ∉ level.continuing

section

variable {level : TypeLevel} {ts us r q : List TypeToken} {t u : TypeExpr} {c : TypeToken}

theorem ends_nil (level : TypeLevel) : Ends level [] := fun _ h => by cases h

theorem ends_cons (h : c ∉ level.continuing) (ts : List TypeToken) : Ends level (c :: ts) := by
  intro d hd
  cases hd
  exact h

theorem Ends.ne_cons (h : Ends level r) (hc : c ∈ level.continuing) : r ≠ c :: q := by
  rintro rfl
  exact h c rfl hc

theorem Ends.suffixed (h : Ends .whole r) : Ends .suffixed r := fun c hc hmem =>
  h c hc (by simp only [TypeLevel.continuing, List.mem_cons] at hmem ⊢; tauto)

theorem Ends.primary (h : Ends .suffixed r) : Ends .primary r := fun c hc hmem =>
  h c hc (by simp only [TypeLevel.continuing, List.mem_cons] at hmem ⊢; tauto)

theorem bracketTokens_cons (depth : Nat) :
    bracketTokens (depth + 1) = .openBracket :: .closeBracket :: bracketTokens depth := by
  induction depth with
  | zero => rfl
  | succ depth ih => exact congrArg (· ++ [openBracket, closeBracket]) ih

theorem ends_brackets (h : Ends .suffixed r) (depth : Nat) :
    Ends .primary (bracketTokens depth ++ r) := by
  cases depth with
  | zero => exact h.primary
  | succ depth =>
    rw [bracketTokens_cons]
    exact ends_cons (by decide) _

/-- Brackets are counted where something else follows. -/
theorem brackets_unique {m n : Nat} (hr : Ends .suffixed r) (hq : Ends .suffixed q)
    (h : bracketTokens m ++ r = bracketTokens n ++ q) : m = n ∧ r = q := by
  induction m generalizing n with
  | zero =>
    cases n with
    | zero => exact ⟨rfl, h⟩
    | succ n =>
      rw [bracketTokens_cons] at h
      exact absurd h (hr.ne_cons (by decide))
  | succ m ih =>
    cases n with
    | zero =>
      rw [bracketTokens_cons] at h
      exact absurd h.symm (hq.ne_cons (by decide))
    | succ n =>
      rw [bracketTokens_cons, bracketTokens_cons] at h
      obtain ⟨hmn, hrest⟩ := ih (List.cons.inj (List.cons.inj h).2).2
      exact ⟨congrArg _ hmn, hrest⟩

/-- An expression starts with a name, a literal or a parenthesis. -/
theorem Derives.exists_cons (h : Derives level ts t) :
    ∃ c more, ts = c :: more ∧ c.isOpening = true := by
  induction h with
  | name word => exact ⟨_, _, rfl, rfl⟩
  | generic word _ _ _ => exact ⟨_, _, rfl, rfl⟩
  | literal units => exact ⟨_, _, rfl, rfl⟩
  | parenthesized _ _ => exact ⟨_, _, rfl, rfl⟩
  | suffixed depth _ ih =>
    obtain ⟨c, more, rfl, hc⟩ := ih
    exact ⟨c, _, List.cons_append, hc⟩
  | @choice members hne _ ih =>
    obtain ⟨m, rest, rfl⟩ := List.exists_cons_of_ne_nil hne
    obtain ⟨c, more, hm, hc⟩ := ih m List.mem_cons_self
    exact ⟨c, _, by rw [List.map_cons, Reading.intercalate_cons_eq, hm, List.cons_append], hc⟩
  | function _ _ _ _ => exact ⟨_, _, rfl, rfl⟩

/-- Joined parts end with one of them. -/
theorem exists_intercalate_concat {α : Type} (text : α → List TypeToken) {sep : TypeToken}
    {as : List α} (hne : as ≠ []) :
    ∃ front, ∃ a ∈ as, [sep].intercalate (as.map text) = front ++ text a := by
  induction as with
  | nil => exact absurd rfl hne
  | cons a rest ih =>
    cases rest with
    | nil => exact ⟨[], a, List.mem_cons_self, List.intercalate_singleton⟩
    | cons b more =>
      obtain ⟨front, c, hc, heq⟩ := ih (List.cons_ne_nil _ _)
      rw [List.map_cons] at heq
      refine ⟨text a ++ ([sep] ++ front), c, List.mem_cons_of_mem _ hc, ?_⟩
      rw [List.map_cons, List.map_cons, List.intercalate_cons_cons, heq]
      simp only [List.append_assoc]

/-- An expression does not end with a bar. -/
theorem Derives.exists_concat (h : Derives level ts t) :
    ∃ front c, ts = front ++ [c] ∧ c ≠ .bar := by
  induction h with
  | name word => exact ⟨[], _, rfl, nofun⟩
  | @generic word arguments _ _ _ =>
    exact ⟨.name word :: .openAngle :: [.comma].intercalate (arguments.map Prod.fst), _, rfl, nofun⟩
  | literal units => exact ⟨[], _, rfl, nofun⟩
  | @parenthesized ts _ _ _ => exact ⟨.openParen :: ts, _, rfl, nofun⟩
  | @suffixed ts _ depth _ ih =>
    cases depth with
    | zero =>
      rw [bracketTokens, List.append_nil]
      exact ih
    | succ depth =>
      refine ⟨ts ++ bracketTokens depth ++ [.openBracket], .closeBracket, ?_, nofun⟩
      rw [bracketTokens]
      simp only [List.append_assoc, List.cons_append, List.nil_append]
  | @choice members hne _ ih =>
    obtain ⟨front, m, hm, heq⟩ := exists_intercalate_concat Prod.fst hne
    obtain ⟨more, c, hconcat, hc⟩ := ih m hm
    exact ⟨front ++ more, c, by rw [heq, hconcat, List.append_assoc], hc⟩
  | @function parameters _ _ _ _ _ ih =>
    obtain ⟨more, c, rfl, hc⟩ := ih
    refine ⟨.openParen :: ([.comma].intercalate (parameters.map TypeParam.tokens) ++
      .closeParen :: .arrow :: more), c, ?_, hc⟩
    simp only [List.append_assoc, List.cons_append]

theorem Derives.exists_primary (h : Derives .suffixed ts t) :
    ∃ front depth element, ts = front ++ bracketTokens depth ∧ t = .arrays depth element ∧
      Derives .primary front element := by
  cases h with
  | suffixed depth h => exact ⟨_, depth, _, rfl, rfl, h⟩

end

/-! ## Parts that are joined -/

section

variable {α β : Type} {text : α → List TypeToken} (meaning : α → β) {sep : TypeToken}
  (Stop : List TypeToken → Prop) {as bs : List α} {r q : List TypeToken}

/-- Behind a separator the parts are known if each of them is. -/
theorem flatMap_unique
    (hunique : ∀ a ∈ as, ∀ b ∈ bs, ∀ r q, text a ++ r = text b ++ q → Stop r → Stop q →
      meaning a = meaning b ∧ r = q)
    (hsep : ∀ r, Stop (sep :: r)) (hr : Stop r) (hq : Stop q) (hrsep : r.head? ≠ some sep)
    (hqsep : q.head? ≠ some sep)
    (h : as.flatMap (fun a => sep :: text a) ++ r = bs.flatMap (fun b => sep :: text b) ++ q) :
    as.map meaning = bs.map meaning ∧ r = q := by
  have hstop {l : List α} {r : List TypeToken} (hr : Stop r) :
      Stop (l.flatMap (fun a => sep :: text a) ++ r) := by
    cases l with
    | nil => exact hr
    | cons a rest => exact hsep _
  induction as generalizing bs with
  | nil =>
    cases bs with
    | nil => exact ⟨rfl, h⟩
    | cons b more => exact absurd (congrArg List.head? h) hrsep
  | cons a rest ih =>
    cases bs with
    | nil => exact absurd (congrArg List.head? h).symm hqsep
    | cons b more =>
      rw [List.flatMap_cons, List.flatMap_cons, List.cons_append, List.cons_append,
        List.cons_append, List.cons_append, List.cons.injEq, List.append_assoc,
        List.append_assoc] at h
      obtain ⟨hmeaning, hrest⟩ := hunique a List.mem_cons_self b List.mem_cons_self _ _ h.2
        (hstop hr) (hstop hq)
      obtain ⟨hmore, hrq⟩ := ih (fun a ha b hb => hunique a (List.mem_cons_of_mem _ ha) b
        (List.mem_cons_of_mem _ hb)) hrest
      exact ⟨by rw [List.map_cons, List.map_cons, hmeaning, hmore], hrq⟩

/-- **Joined parts are known** if each of them is. -/
theorem intercalate_unique
    (hunique : ∀ a ∈ as, ∀ b ∈ bs, ∀ r q, text a ++ r = text b ++ q → Stop r → Stop q →
      meaning a = meaning b ∧ r = q)
    (hsep : ∀ r, Stop (sep :: r)) (hr : Stop r) (hq : Stop q) (hrsep : r.head? ≠ some sep)
    (hqsep : q.head? ≠ some sep) (has : as ≠ []) (hbs : bs ≠ [])
    (h : [sep].intercalate (as.map text) ++ r = [sep].intercalate (bs.map text) ++ q) :
    as.map meaning = bs.map meaning ∧ r = q := by
  obtain ⟨a, rest, rfl⟩ := List.exists_cons_of_ne_nil has
  obtain ⟨b, more, rfl⟩ := List.exists_cons_of_ne_nil hbs
  refine flatMap_unique meaning Stop hunique hsep hr hq hrsep hqsep ?_
  simpa [Reading.intercalate_cons_eq, List.flatMap_map] using h

end

/-! ## One meaning -/

section

variable {level : TypeLevel} {ts us r q : List TypeToken} {t u : TypeExpr} {c : TypeToken}
  {word : List Char}

/-- What goes on behind the name at the start of an expression. -/
theorem Derives.behind_name (h : Derives level (.name word :: c :: ts) t) :
    c = .openAngle ∨ c = .openBracket ∨ c = .bar := by
  generalize htext : TypeToken.name word :: c :: ts = text at h
  induction h generalizing ts with
  | name _ => cases htext
  | generic _ _ _ _ =>
    cases htext
    exact .inl rfl
  | literal _ => cases htext
  | parenthesized _ _ => cases htext
  | @suffixed front t depth h ih =>
    obtain ⟨first, more, rfl, -⟩ := h.exists_cons
    cases more with
    | nil =>
      cases depth with
      | zero => cases htext
      | succ depth =>
        rw [bracketTokens_cons] at htext
        cases htext
        exact .inr (.inl rfl)
    | cons second more =>
      cases htext
      exact ih rfl
  | @choice members hne h ih =>
    obtain ⟨m, rest, rfl⟩ := List.exists_cons_of_ne_nil hne
    obtain ⟨first, more, hm, -⟩ := (h m List.mem_cons_self).exists_cons
    rw [List.map_cons, Reading.intercalate_cons_eq, hm] at htext
    cases more with
    | nil =>
      cases rest with
      | nil => cases htext
      | cons m2 rest =>
        cases htext
        exact .inr (.inr rfl)
    | cons second more =>
      cases htext
      exact ih m List.mem_cons_self hm.symm
  | function _ _ _ _ => cases htext

/-- A parameter in front of a comma or a parenthesis. -/
def TypeParam.Stops (ts : List TypeToken) : Prop :=
  ∀ c ∈ ts.head?, c = .comma ∨ c = .closeParen

theorem TypeParam.Stops.ends (h : TypeParam.Stops r) : Ends .whole r := by
  intro c hc
  rcases h c hc with rfl | rfl <;> decide

/-- **Parentheses around a type are not those of parameters**: if a type and parameters take the
same tokens, what follows is the same. -/
theorem behind_parenthesis {parameters : List TypeParam} (h : Derives .whole ts t)
    (heq : ts ++ .closeParen :: r
      = [.comma].intercalate (parameters.map TypeParam.tokens) ++ .closeParen :: q) : r = q := by
  obtain ⟨first, more, rfl, hfirst⟩ := h.exists_cons
  cases parameters with
  | nil =>
    cases heq
    cases hfirst
  | cons p rest =>
    obtain ⟨spread, word, optional, type⟩ := p
    rw [List.map_cons, Reading.intercalate_cons_eq, TypeParam.tokens] at heq
    cases spread with
    | true =>
      obtain rfl : first = .dots := (List.cons.inj heq).1
      cases hfirst
    | false =>
      cases more with
      | nil =>
        cases optional with
        | true => cases heq
        | false =>
          cases type with
          | some part => cases heq
          | none =>
            cases rest with
            | cons p2 rest => cases heq
            | nil =>
              cases heq
              rfl
      | cons second more =>
        have hword : first = .name word := (List.cons.inj heq).1
        have hsecond := Derives.behind_name (hword ▸ h)
        rcases hsecond with rfl | rfl | rfl <;> cases optional <;> cases type <;> cases rest <;>
          cases heq

/-- The annotation of a parameter is known if its type is. -/
theorem annotation_unique {optional optional2 : Bool} {type type2 : Option TypePart}
    (hunique : ∀ part ∈ type, ∀ part2 ∈ type2, ∀ r q, part.1 ++ r = part2.1 ++ q →
      Ends .whole r → Ends .whole q → part.2 = part2.2 ∧ r = q)
    (hr : TypeParam.Stops r) (hq : TypeParam.Stops q)
    (h : TypeParam.annotation optional type ++ r = TypeParam.annotation optional2 type2 ++ q) :
    optional = optional2 ∧ type.map Prod.snd = type2.map Prod.snd ∧ r = q := by
  have htype (h : (type.map fun part => .colon :: part.1).getD [] ++ r
      = (type2.map fun part => .colon :: part.1).getD [] ++ q) :
      type.map Prod.snd = type2.map Prod.snd ∧ r = q := by
    cases type with
    | none =>
      cases type2 with
      | none => exact ⟨rfl, h⟩
      | some part2 => exact absurd (hr .colon (by rw [show r = _ from h]; rfl)) (by decide)
    | some part =>
      cases type2 with
      | none => exact absurd (hq .colon (by rw [show q = _ from h.symm]; rfl)) (by decide)
      | some part2 =>
        obtain ⟨hpart, hrq⟩ :=
          hunique part rfl part2 rfl r q (List.cons.inj h).2 hr.ends hq.ends
        exact ⟨congrArg some hpart, hrq⟩
  have hquestion {type : Option TypePart} {r : List TypeToken} (hr : TypeParam.Stops r) :
      ((type.map fun part => .colon :: part.1).getD [] ++ r).head? ≠ some .question := by
    cases type with
    | none => exact fun hhead => absurd (hr _ hhead) (by decide)
    | some part => exact fun hhead => by cases hhead
  cases optional with
  | true =>
    cases optional2 with
    | true => exact ⟨rfl, htype (List.cons.inj h).2⟩
    | false => exact absurd (congrArg List.head? h).symm (hquestion hq)
  | false =>
    cases optional2 with
    | true => exact absurd (congrArg List.head? h) (hquestion hr)
    | false => exact ⟨rfl, htype h⟩

/-- A parameter is known if its type is. -/
theorem param_unique {p p2 : TypeParam}
    (hunique : ∀ part ∈ p.type, ∀ part2 ∈ p2.type, ∀ r q, part.1 ++ r = part2.1 ++ q →
      Ends .whole r → Ends .whole q → part.2 = part2.2 ∧ r = q)
    (h : p.tokens ++ r = p2.tokens ++ q) (hr : TypeParam.Stops r) (hq : TypeParam.Stops q) :
    p.meaning = p2.meaning ∧ r = q := by
  have hname {w w2 : List Char} {a b : List TypeToken}
      (h : TypeToken.name w :: a = .name w2 :: b) : w = w2 ∧ a = b := by
    cases h
    exact ⟨rfl, rfl⟩
  obtain ⟨spread, word, optional, type⟩ := p
  obtain ⟨spread2, word2, optional2, type2⟩ := p2
  cases spread with
  | true =>
    cases spread2 with
    | true =>
      obtain ⟨rfl, hrest⟩ := hname (List.cons.inj h).2
      obtain ⟨rfl, htype, hrq⟩ := annotation_unique hunique hr hq hrest
      exact ⟨by rw [TypeParam.meaning, TypeParam.meaning, htype], hrq⟩
    | false => cases (List.cons.inj h).1
  | false =>
    cases spread2 with
    | true => cases (List.cons.inj h).1
    | false =>
      obtain ⟨rfl, hrest⟩ := hname h
      obtain ⟨rfl, htype, hrq⟩ := annotation_unique hunique hr hq hrest
      exact ⟨by rw [TypeParam.meaning, TypeParam.meaning, htype], hrq⟩

/-- The parameters in front of a closing parenthesis are known if their types are. -/
theorem parameters_unique {parameters parameters2 : List TypeParam}
    (hunique : ∀ p ∈ parameters, ∀ part, p.type = some part →
      ∀ p2 ∈ parameters2, ∀ part2, p2.type = some part2 →
      ∀ r q, part.1 ++ r = part2.1 ++ q → Ends .whole r → Ends .whole q →
        part.2 = part2.2 ∧ r = q)
    (h : [.comma].intercalate (parameters.map TypeParam.tokens) ++ .closeParen :: r
      = [.comma].intercalate (parameters2.map TypeParam.tokens) ++ .closeParen :: q) :
    parameters.map TypeParam.meaning = parameters2.map TypeParam.meaning ∧ r = q := by
  have hstops {c : TypeToken} (hc : c = .comma ∨ c = .closeParen) (r : List TypeToken) :
      TypeParam.Stops (c :: r) := by
    intro d hd
    cases hd
    exact hc
  have hfirst (p : TypeParam) (rest : List TypeParam) (r q : List TypeToken) :
      [.comma].intercalate ((p :: rest).map TypeParam.tokens) ++ r ≠ .closeParen :: q := by
    obtain ⟨spread, word, optional, type⟩ := p
    rw [List.map_cons, Reading.intercalate_cons_eq, TypeParam.tokens]
    intro hcons
    cases spread with
    | true => cases (List.cons.inj hcons).1
    | false => cases (List.cons.inj hcons).1
  cases parameters with
  | nil =>
    cases parameters2 with
    | nil => exact ⟨rfl, (List.cons.inj h).2⟩
    | cons p2 rest2 => exact absurd h.symm (hfirst p2 rest2 _ _)
  | cons p rest =>
    cases parameters2 with
    | nil => exact absurd h (hfirst p rest _ _)
    | cons p2 rest2 =>
      obtain ⟨hmeaning, hrest⟩ := intercalate_unique TypeParam.meaning TypeParam.Stops
        (fun a ha b hb r q heq hr hq => param_unique
          (fun part hpart part2 hpart2 => hunique a ha part hpart b hb part2 hpart2) heq hr hq)
        (hstops (.inl rfl)) (hstops (.inr rfl) r) (hstops (.inr rfl) q) (by simp) (by simp)
        (List.cons_ne_nil _ _) (List.cons_ne_nil _ _) h
      exact ⟨hmeaning, (List.cons.inj hrest).2⟩

/-- A choice is no function type, for the arrow goes on with no choice. -/
theorem choice_ne_function {members : List TypePart} {parameters : List TypeParam}
    (hne : members ≠ []) (h : ∀ m ∈ members, Derives .suffixed m.1 m.2) (hr : Ends .whole r) :
    [.bar].intercalate (members.map Prod.fst) ++ r
      ≠ .openParen :: ([.comma].intercalate (parameters.map TypeParam.tokens) ++
          .closeParen :: .arrow :: ts) ++ q := by
  intro heq
  obtain ⟨⟨tokens, t⟩, rest, rfl⟩ := List.exists_cons_of_ne_nil hne
  have hfirst := h _ List.mem_cons_self
  have hbehind : Ends .suffixed (rest.flatMap (fun m => .bar :: m.1) ++ r) := by
    cases rest with
    | nil => exact hr.suffixed
    | cons m rest => exact ends_cons (by decide) _
  rw [List.map_cons, Reading.intercalate_cons_eq, List.flatMap_map, List.append_assoc] at heq
  obtain ⟨front, depth, element, htokens, -, hprimary⟩ := hfirst.exists_primary
  rw [htokens, List.append_assoc, List.cons_append] at heq
  cases hprimary with
  | name word => cases (List.cons.inj heq).1
  | generic word hne h => cases (List.cons.inj heq).1
  | literal units => cases (List.cons.inj heq).1
  | parenthesized hinner =>
    rw [List.cons_append, List.append_assoc, List.append_assoc] at heq
    have harrow := behind_parenthesis hinner (List.cons.inj heq).2
    exact (ends_brackets hbehind depth).ne_cons (by decide) harrow

/-- **Tokens say one thing only.**  Where two expressions of a level stand at the start of the same
tokens, and neither goes on, they say the same and end at the same place. -/
theorem derives_unique (h : Derives level ts t) (h2 : Derives level us u)
    (heq : ts ++ r = us ++ q) (hr : Ends level r) (hq : Ends level q) : t = u ∧ r = q := by
  induction h generalizing us u r q with
  | name word =>
    cases h2 with
    | name word2 =>
      cases heq
      exact ⟨rfl, rfl⟩
    | generic word2 hne h2 => exact absurd (List.cons.inj heq).2 (hr.ne_cons (by decide))
    | literal units => cases (List.cons.inj heq).1
    | parenthesized h2 => cases (List.cons.inj heq).1
  | @generic word arguments hne h ih =>
    cases h2 with
    | name word2 => exact absurd (List.cons.inj heq).2.symm (hq.ne_cons (by decide))
    | @generic word2 arguments2 hne2 h2 =>
      rw [List.cons_append, List.cons_append, List.cons_append, List.cons_append,
        List.append_assoc, List.append_assoc] at heq
      obtain ⟨hword, heq⟩ := List.cons.inj heq
      obtain ⟨harguments, hrest⟩ := intercalate_unique Prod.snd (Ends .whole)
        (fun a ha b hb r q heq hr hq => ih a ha (h2 b hb) heq hr hq)
        (fun r => ends_cons (by decide) r) (ends_cons (by decide) _) (ends_cons (by decide) _)
        (by simp) (by simp) hne hne2 (List.cons.inj heq).2
      cases hword
      exact ⟨by rw [harguments], (List.cons.inj hrest).2⟩
    | literal units => cases (List.cons.inj heq).1
    | parenthesized h2 => cases (List.cons.inj heq).1
  | literal units =>
    cases h2 with
    | name word2 => cases (List.cons.inj heq).1
    | generic word2 hne h2 => cases (List.cons.inj heq).1
    | literal units2 =>
      cases heq
      exact ⟨rfl, rfl⟩
    | parenthesized h2 => cases (List.cons.inj heq).1
  | parenthesized h ih =>
    cases h2 with
    | name word2 => cases (List.cons.inj heq).1
    | generic word2 hne h2 => cases (List.cons.inj heq).1
    | literal units2 => cases (List.cons.inj heq).1
    | parenthesized h2 =>
      rw [List.cons_append, List.cons_append, List.append_assoc, List.append_assoc] at heq
      obtain ⟨rfl, hrest⟩ := ih h2 (List.cons.inj heq).2 (ends_cons (by decide) _)
        (ends_cons (by decide) _)
      exact ⟨rfl, (List.cons.inj hrest).2⟩
  | suffixed depth h ih =>
    cases h2 with
    | suffixed depth2 h2 =>
      rw [List.append_assoc, List.append_assoc] at heq
      obtain ⟨rfl, hrest⟩ := ih h2 heq (ends_brackets hr depth) (ends_brackets hq depth2)
      obtain ⟨rfl, hrq⟩ := brackets_unique hr hq hrest
      exact ⟨rfl, hrq⟩
  | @choice members hne h ih =>
    cases h2 with
    | @choice members2 hne2 h2 =>
      have hbar {r : List TypeToken} (hr : Ends .whole r) : r.head? ≠ some .bar :=
        fun hhead => hr .bar hhead (by decide)
      obtain ⟨hmembers, hrq⟩ := intercalate_unique Prod.snd (Ends .suffixed)
        (fun a ha b hb r q heq hr hq => ih a ha (h2 b hb) heq hr hq)
        (fun r => ends_cons (by decide) r) hr.suffixed hq.suffixed (hbar hr) (hbar hq) hne hne2 heq
      exact ⟨by rw [hmembers], hrq⟩
    | function hparameters2 h2 => exact absurd heq (choice_ne_function hne h hr)
  | @function parameters ts t hparameters h ihparameters ih =>
    cases h2 with
    | @choice members2 hne2 h2 => exact absurd heq.symm (choice_ne_function hne2 h2 hq)
    | @function parameters2 ts2 t2 hparameters2 h2 =>
      rw [List.cons_append, List.cons_append, List.append_assoc, List.append_assoc] at heq
      obtain ⟨hmeaning, hrest⟩ := parameters_unique
        (fun p hp part hpart p2 hp2 part2 hpart2 r q heq hr hq =>
          ihparameters p hp part hpart (hparameters2 p2 hp2 part2 hpart2) heq hr hq)
        (List.cons.inj heq).2
      obtain ⟨rfl, hrq⟩ := ih h2 (List.cons.inj hrest).2 hr hq
      exact ⟨by rw [hmeaning], hrq⟩

end

/-! ## Arrays -/

section

variable {ts : List TypeToken} {t : TypeExpr}

/-- Without bars and arrows, nothing is joined in an expression but by what encloses it. -/
theorem Derives.suffixed_of_whole (h : Derives .whole ts t) (hbar : TypeToken.bar ∉ ts)
    (harrow : TypeToken.arrow ∉ ts) : Derives .suffixed ts t := by
  cases h with
  | @choice members hne h =>
    obtain ⟨⟨tokens, t⟩, rest, rfl⟩ := List.exists_cons_of_ne_nil hne
    cases rest with
    | nil => simpa [TypeExpr.choice] using h _ List.mem_cons_self
    | cons m rest =>
      refine absurd ?_ hbar
      rw [List.map_cons, Reading.intercalate_cons_eq]
      simp
  | function hparameters h => exact absurd (by simp) harrow

theorem Derives.whole_of_suffixed (h : Derives .suffixed ts t) : Derives .whole ts t := by
  have hchoice := Derives.choice (List.cons_ne_nil (ts, t) []) (by simpa using h)
  rwa [List.map_singleton, List.map_singleton, List.intercalate_singleton] at hchoice

/-- An array of what an expression says. -/
theorem Derives.array (h : Derives .suffixed ts t) :
    Derives .suffixed (ts ++ [.openBracket, .closeBracket]) (.array t) := by
  obtain ⟨front, depth, element, rfl, rfl, hprimary⟩ := h.exists_primary
  rw [List.append_assoc]
  exact .suffixed (depth + 1) hprimary

theorem Derives.array_of_parenthesized (h : Derives .whole ts t) :
    Derives .suffixed (.openParen :: (ts ++ [.closeParen]) ++ [.openBracket, .closeBracket])
      (.array t) :=
  .suffixed 1 (.parenthesized h)

end

end Ambient
