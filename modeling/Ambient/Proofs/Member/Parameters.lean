import Ambient.Proofs.Member.Missing
import Ambient.Proofs.Shape.Level
import Ambient.Proofs.Text.CamelCase

/-!
# Parameters that are declared under one name

A name that is a reserved word, in whatever case its letters are, is declared with `the` in front
and its first letter in capitals; every other name is declared as it is.  So names that differ may
be declared alike: two spellings of a reserved word that differ in the case of the first letter
only, and a reserved word beside the name that it is declared under.  These are the only ones.

## What is here

* `Coincide a b` — the names are declared alike, although they differ.
* `isReservedWord_parameterName` — no parameter is declared under a reserved word.
* `parameterName_eq_iff`, `nodup_map_parameterName_iff` — names that are declared alike, and lists
  in which there are none.
* `forall₂_of_parameterTexts`, `exists_of_run_listener` — what parameters and arguments are written
  as.
* `parameterNames_of_lists` — the names in the lists of methods, callbacks and listeners.
-/

set_option autoImplicit false

namespace Ambient

open Signature Synthesis Text Character

/-! ## Names that are declared alike -/

/-- The names differ, and parameters that have them are declared under one name. -/
inductive Coincide : String → String → Prop
  /-- A reserved word that is spelled in two ways, which differ in the first letter only. -/
  | respelled {a b : String} {c d : Char} {rest : List Char} (hword : isReservedWord a = true)
      (ha : a.toList = c :: rest) (hb : b.toList = d :: rest) (hne : c ≠ d)
      (hcase : c.toLower = d.toLower) : Coincide a b
  /-- A reserved word, and the name that it is declared under. -/
  | escaped {a : String} (hword : isReservedWord a = true) : Coincide a ("the" ++ upperFirst a)
  | escapes {b : String} (hword : isReservedWord b = true) : Coincide ("the" ++ upperFirst b) b

section

variable {a b name : String}

theorem parameterName_of_isReservedWord (h : isReservedWord name = true) :
    parameterName name = "the" ++ upperFirst name := by
  rw [parameterName, if_pos h]

/-- A reserved word has a first letter, which is an ASCII letter. -/
theorem exists_of_isReservedWord (h : isReservedWord name = true) :
    ∃ c rest, name.toList = c :: rest ∧ c.toNat < 128 := by
  rw [isReservedWord, lowercaseAscii, List.contains_iff_mem] at h
  have hword : ∀ w ∈ reservedWords, w ≠ "" ∧ w.toList.all (fun c => c.toNat < 128) = true := by
    decide
  obtain ⟨hne, hascii⟩ := hword _ h
  cases hname : name.toList with
  | nil => exact absurd (by rw [hname]; rfl) hne
  | cons c rest =>
    rw [hname] at hascii
    exact ⟨c, rest, rfl, toNat_lt_of_toLower (by simpa using List.all_eq_true.1 hascii _ (by simp))⟩

theorem isReservedWord_congr (h : lowercaseAscii a = lowercaseAscii b) :
    isReservedWord a = isReservedWord b := by
  rw [isReservedWord, isReservedWord, h]

/-- No reserved word begins with `the`. -/
theorem isReservedWord_the_append (s : String) : isReservedWord ("the" ++ s) = false := by
  have hnone : ∀ w ∈ reservedWords, ¬ "the".toList <+: w.toList := by decide
  have htext : lowercaseAscii ("the" ++ s) = "the".toList ++ lowercaseAscii s := by
    rw [lowercaseAscii, String.toList_append, List.map_append]
    rfl
  rw [isReservedWord, Bool.eq_false_iff, ne_eq, List.contains_iff_mem, htext]
  exact fun hmem => hnone _ hmem ⟨lowercaseAscii s, String.toList_ofList.symm⟩

/-- **No parameter is declared under a reserved word**, in whatever case. -/
theorem isReservedWord_parameterName (name : String) :
    isReservedWord (parameterName name) = false := by
  cases h : isReservedWord name with
  | false => rw [parameterName_of_not_isReservedWord h, h]
  | true => rw [parameterName_of_isReservedWord h, isReservedWord_the_append]

/-- Capitals tell ASCII letters apart just as small letters do. -/
theorem toUpper_eq_iff {c d : Char} (hc : c.toNat < 128) (hd : d.toNat < 128) :
    c.toUpper = d.toUpper ↔ c.toLower = d.toLower := by
  constructor
  · intro h
    rw [← toLower_toUpper_of_ascii hc, h, toLower_toUpper_of_ascii hd]
  · intro h
    rw [← toUpper_toLower_of_ascii hc, h, toUpper_toLower_of_ascii hd]

/-- Two reserved words become one when they are capitalised if they differ at most in the case of
their first letters. -/
theorem upperFirst_eq_iff {c d : Char} {rest more : List Char} (ha : a.toList = c :: rest)
    (hb : b.toList = d :: more) (hc : c.toNat < 128) (hd : d.toNat < 128) :
    upperFirst a = upperFirst b ↔ c.toLower = d.toLower ∧ rest = more := by
  rw [← String.toList_inj, toList_upperFirst ha, toList_upperFirst hb, upper_of_ascii hc,
    upper_of_ascii hd, List.singleton_append, List.singleton_append, List.cons.injEq,
    toUpper_eq_iff hc hd]

/-- **Which names are declared alike.** -/
theorem parameterName_eq_iff (hne : a ≠ b) : parameterName a = parameterName b ↔ Coincide a b := by
  constructor
  · intro h
    cases ha : isReservedWord a with
    | false =>
      rw [parameterName_of_not_isReservedWord ha] at h
      cases hb : isReservedWord b with
      | false => exact absurd (h.trans (parameterName_of_not_isReservedWord hb)) hne
      | true =>
        rw [parameterName_of_isReservedWord hb] at h
        exact h ▸ .escapes hb
    | true =>
      rw [parameterName_of_isReservedWord ha] at h
      cases hb : isReservedWord b with
      | false =>
        rw [parameterName_of_not_isReservedWord hb] at h
        exact h ▸ .escaped ha
      | true =>
        rw [parameterName_of_isReservedWord hb] at h
        obtain ⟨c, rest, hac, hc⟩ := exists_of_isReservedWord ha
        obtain ⟨d, more, hbd, hd⟩ := exists_of_isReservedWord hb
        have hcapital : upperFirst a = upperFirst b := by
          simpa [← String.toList_inj] using h
        obtain ⟨hcase, rfl⟩ := (upperFirst_eq_iff hac hbd hc hd).1 hcapital
        refine .respelled ha hac hbd (fun hcd => hne ?_) hcase
        rw [← String.toList_inj, hac, hbd, hcd]
  · intro h
    cases h with
    | @respelled _ _ c d rest ha hac hbd _ hcase =>
      have hb : isReservedWord b = true := by
        rw [← isReservedWord_congr (a := a), ha]
        rw [lowercaseAscii, lowercaseAscii, hac, hbd, List.map_cons, List.map_cons, hcase]
      obtain ⟨_, _, hac2, hc⟩ := exists_of_isReservedWord ha
      obtain ⟨_, _, hbd2, hd⟩ := exists_of_isReservedWord hb
      cases hac.symm.trans hac2
      cases hbd.symm.trans hbd2
      rw [parameterName_of_isReservedWord ha, parameterName_of_isReservedWord hb,
        (upperFirst_eq_iff hac hbd hc hd).2 ⟨hcase, rfl⟩]
    | escaped ha =>
      rw [parameterName_of_isReservedWord ha,
        parameterName_of_not_isReservedWord (isReservedWord_the_append _)]
    | escapes hb =>
      rw [parameterName_of_isReservedWord hb,
        parameterName_of_not_isReservedWord (isReservedWord_the_append _)]

/-- Names that are declared alike do differ. -/
theorem Coincide.ne (h : Coincide a b) : a ≠ b := by
  have hescaped {name : String} (hword : isReservedWord name = true) :
      name ≠ "the" ++ upperFirst name := by
    intro heq
    rw [heq, isReservedWord_the_append] at hword
    cases hword
  cases h with
  | respelled _ ha hb hne _ =>
    rintro rfl
    exact hne (List.cons.inj (ha.symm.trans hb)).1
  | escaped hword => exact hescaped hword
  | escapes hword => exact (hescaped hword).symm

/-- **Lists of names in which none are declared alike.** -/
theorem nodup_map_parameterName_iff {names : List String} (h : names.Nodup) :
    (names.map parameterName).Nodup ↔ ∀ a ∈ names, ∀ b ∈ names, ¬ Coincide a b := by
  rw [List.nodup_map_iff_inj_on h]
  constructor
  · intro hinj a ha b hb hab
    exact hab.ne (hinj a ha b hb ((parameterName_eq_iff hab.ne).2 hab))
  · intro hnone a ha b hb heq
    by_contra hne
    exact hnone a ha b hb ((parameterName_eq_iff hne).1 heq)

end

/-! ## What parameters are written as -/

/-- The text is a parameter: the name that it is declared under, its mark and some type. -/
def DeclaresParameter (p : Param) (text : String) : Prop :=
  ∃ type, text = parameterName p.name ++ optionalMark p ++ ": " ++ type

section

variable {types : TypeMap} {s t : Interner}

theorem forall₂_of_parameterTexts {site : Site} {ps : List Param} {texts : List String}
    (h : (parameterTexts types site ps).run s = (.ok texts, t)) :
    List.Forall₂ DeclaresParameter ps texts := by
  induction ps generalizing s texts with
  | nil =>
    rw [parameterTexts] at h
    cases h
    exact .nil
  | cons p rest ih =>
    rw [parameterTexts] at h
    obtain ⟨-, h⟩ := run_of_run_guarded h
    obtain ⟨type, r, -, h⟩ := exists_of_run_bind_eq_ok h
    obtain ⟨more, r2, hmore, h⟩ := exists_of_run_bind_eq_ok h
    cases h
    exact .cons ⟨type, rfl⟩ (ih hmore)

theorem exists_of_run_parameterList {site : Site} {ps : List Param} {text : String}
    (h : (parameterList types site ps).run s = (.ok text, t)) :
    ∃ texts, List.Forall₂ DeclaresParameter ps texts ∧ text = String.intercalate ", " texts := by
  obtain ⟨texts, r, htexts, h⟩ := exists_of_run_bind_eq_ok h
  cases h
  exact ⟨texts, forall₂_of_parameterTexts htexts, rfl⟩

theorem exists_of_run_functionType {site : Site} {ps : List Param} {returns : Option Param}
    {text : String} (h : (functionType types site ps returns).run s = (.ok text, t)) :
    ∃ texts result, List.Forall₂ DeclaresParameter ps texts ∧
      text = "(" ++ String.intercalate ", " texts ++ ") => " ++ result := by
  obtain ⟨texts, r, htexts, h⟩ := exists_of_run_bind_eq_ok h
  obtain ⟨result, r2, -, h⟩ := exists_of_run_bind_eq_ok h
  cases h
  exact ⟨texts, result, forall₂_of_parameterTexts htexts, rfl⟩

/-- The arguments of a listener are written as parameters are, each behind its comment. -/
theorem exists_of_run_listener {owner : String} {event : Event} {text : String}
    (h : (listener types owner event).run s = (.ok text, t)) :
    ∃ texts, List.Forall₂ (fun p text => ∃ declared, DeclaresParameter p declared ∧
        text = argumentComment (listenerIndent event.name) p.description ++ declared)
        event.arguments texts ∧
      text = "(" ++ String.intercalate (",\n" ++ listenerIndent event.name) texts
        ++ ") => void" := by
  obtain ⟨texts, r, htexts, h⟩ := exists_of_run_bind_eq_ok h
  cases h
  refine ⟨texts, (forall₂_of_run_mapM htexts).imp fun p text => ?_, rfl⟩
  rintro ⟨s, t, hargument⟩
  obtain ⟨-, hargument⟩ := run_of_run_guarded hargument
  obtain ⟨type, r, -, hargument⟩ := exists_of_run_bind_eq_ok hargument
  cases hargument
  exact ⟨_, ⟨type, rfl⟩, rfl⟩

/-! ## What can be written -/

/-- What fails only if a name is missing succeeds where none is. -/
theorem FailsOnlyIf.exists_run {α : Type} {N : Prop} {x : Synthesis α} (h : FailsOnlyIf N x)
    (hN : ¬ N) (s : Interner) : ∃ a t, x.run s = (.ok a, t) := by
  rcases hx : x.run s with ⟨e | a, t⟩
  · exact absurd (h s t e hx).2 hN
  · exact ⟨a, t, rfl⟩

/-- A parameter list can be written if everything in it has a name. -/
theorem exists_run_parameterList {ps : List Param} (h : Param.AreNamed true ps) (site : Site)
    (s : Interner) : ∃ text t, (parameterList types site ps).run s = (.ok text, t) :=
  ((failsOnlyIf_parameterTexts types site ps).andReturn _).exists_run (not_not_intro h) s

/-- A function type can be written if everything in its parameters and its result has a name. -/
theorem exists_run_functionType {ps : List Param} {returns : Option Param}
    (h : Param.AreNamed true ps) (hreturns : ∀ r, returns = some r → r.HasNames true) (site : Site)
    (s : Interner) : ∃ text t, (functionType types site ps returns).run s = (.ok text, t) := by
  have hresult : FailsOnlyIf False (resultType types site returns) := by
    cases returns with
    | none => exact .result "void"
    | some r => exact (failsOnlyIf_valueType types site _ r).mono fun hr => hr (hreturns r rfl)
  exact (((failsOnlyIf_parameterTexts types site ps).mono fun hps => hps h).seq fun taken =>
    hresult.andReturn (arrow taken)).exists_run id s

/-- A listener can be written if everything in its arguments has a name. -/
theorem exists_run_listener {event : Event} (h : Param.AreNamed true event.arguments)
    (owner : String) (s : Interner) :
    ∃ text t, (listener types owner event).run s = (.ok text, t) := by
  refine ((FailsOnlyIf.forEach fun p hp => ?_).andReturn _).exists_run (N := False) id s
  refine .guarded _ _ (fun hname => (h p hp).1 (String.isEmpty_iff.1 hname)) ?_
  exact ((failsOnlyIf_valueType types _ _ p).mono fun hvalue => hvalue (h p hp).2).andReturn _

end

/-- **Escaping reserved words keeps parameters apart, but for two cases.**  Where parameters have
names that differ, they are declared under names that differ unless two of them are spellings of one
reserved word that differ in the case of the first letter, or a reserved word and the name that it
is declared under.  None is declared under a reserved word, and what is no reserved word is kept.
These are the names in the lists of methods and constructors, of callbacks, and of listeners, and
the lists can be written if everything in the types has a name. -/
theorem parameterNames_of_lists (types : TypeMap) {ps : List Param}
    (hnames : ∀ p ∈ ps, p.name ≠ "") (hdistinct : (ps.map Param.name).Nodup) :
    ((ps.map fun p => parameterName p.name).Nodup ↔
      ∀ p ∈ ps, ∀ q ∈ ps, ¬ Coincide p.name q.name) ∧
    (∀ p ∈ ps, isReservedWord (parameterName p.name) = false ∧
      parameterName p.name ∉ reservedWords ∧
      (isReservedWord p.name = false → parameterName p.name = p.name)) ∧
    (∀ site s text t, (parameterList types site ps).run s = (.ok text, t) →
      ∃ texts, List.Forall₂ DeclaresParameter ps texts ∧
        text = String.intercalate ", " texts) ∧
    (∀ site returns s text t, (functionType types site ps returns).run s = (.ok text, t) →
      ∃ texts result, List.Forall₂ DeclaresParameter ps texts ∧
        text = "(" ++ String.intercalate ", " texts ++ ") => " ++ result) ∧
    (∀ owner event s text t, event.arguments = ps →
      (listener types owner event).run s = (.ok text, t) →
      ∃ texts, List.Forall₂ (fun p text => ∃ declared, DeclaresParameter p declared ∧
          text = argumentComment (listenerIndent event.name) p.description ++ declared) ps texts ∧
        text = "(" ++ String.intercalate (",\n" ++ listenerIndent event.name) texts ++
          ") => void") ∧
    ((∀ p ∈ ps, p.HasNames true) →
      (∀ site s, ∃ text t, (parameterList types site ps).run s = (.ok text, t)) ∧
      (∀ site returns s, (∀ r, returns = some r → r.HasNames true) →
        ∃ text t, (functionType types site ps returns).run s = (.ok text, t)) ∧
      ∀ owner event s, event.arguments = ps →
        ∃ text t, (listener types owner event).run s = (.ok text, t)) := by
  refine ⟨?_, fun p _ => ⟨isReservedWord_parameterName p.name, ?_,
    parameterName_of_not_isReservedWord⟩, fun site s text t => exists_of_run_parameterList,
    fun site returns s text t => exists_of_run_functionType, ?_, fun hinner => ?_⟩
  · have hnodup := nodup_map_parameterName_iff hdistinct
    rw [List.map_map] at hnodup
    refine hnodup.trans ?_
    simp only [List.forall_mem_map]
  · intro hmem
    have hword : ∀ w ∈ reservedWords, isReservedWord w = true := by decide
    have hreserved := hword _ hmem
    rw [isReservedWord_parameterName] at hreserved
    cases hreserved
  · rintro owner event s text t rfl
    exact exists_of_run_listener
  · have hnamed : Param.AreNamed true ps := fun p hp => ⟨hnames p hp, hinner p hp⟩
    refine ⟨exists_run_parameterList hnamed, fun site returns s hreturns =>
      exists_run_functionType hnamed hreturns site s, ?_⟩
    rintro owner event s rfl
    exact exists_run_listener hnamed owner s

/-- Two parameters of these names, neither of which is an object or a function. -/
def switches (first second : String) : List Param :=
  [{ name := first, type := .name "Boolean" }, { name := second, type := .name "String" }]

theorem hasNames_switches {first second : String} :
    ∀ p ∈ switches first second, p.HasNames true := by
  have hplain (name type : String) (hfunction : (TypeRef.name type).isNamed "Function" = false) :
      Param.HasNames true { name := name, type := .name type } :=
    .intro (fun h => by cases hfunction.symm.trans h.2) (fun h => by cases hfunction.symm.trans h.2)
      fun h => by simp [Param.isObjectShape] at h
  exact List.forall_mem_cons.2 ⟨hplain first "Boolean" (by decide),
    List.forall_mem_singleton.2 (hplain second "String" (by decide))⟩

/-- A reserved word and a title are declared under names that differ. -/
theorem parameterNames_of_lists_switch :
    (∀ p ∈ switches "switch" "title", p.name ≠ "") ∧
    ((switches "switch" "title").map Param.name).Nodup ∧
    (∀ p ∈ switches "switch" "title", ∀ q ∈ switches "switch" "title",
      ¬ Coincide p.name q.name) ∧
    ∃ text t, (parameterList TypeMap.builtin ⟨"app", "run", none⟩ (switches "switch" "title")).run
        Interner.empty = (.ok text, t) ∧ text = "theSwitch: boolean, title: string" := by
  have hnames : ∀ p ∈ switches "switch" "title", p.name ≠ "" := by decide
  have hdistinct : ((switches "switch" "title").map Param.name).Nodup := by decide
  have htext : ((parameterList TypeMap.builtin ⟨"app", "run", none⟩
      (switches "switch" "title")).run Interner.empty).1.toOption
        = some "theSwitch: boolean, title: string" := by decide +kernel
  obtain ⟨hapart, -, -, -, -, hwritten⟩ :=
    parameterNames_of_lists TypeMap.builtin hnames hdistinct
  obtain ⟨text, t, hrun⟩ := (hwritten hasNames_switches).1 ⟨"app", "run", none⟩ Interner.empty
  refine ⟨hnames, hdistinct, hapart.1 (by decide +kernel), text, t, hrun, ?_⟩
  rw [hrun] at htext
  exact Option.some.inj htext

/-- A reserved word beside the name that it is declared under. -/
theorem not_nodup_parameterNames :
    (∀ p ∈ switches "switch" "theSwitch", p.name ≠ "") ∧
    ((switches "switch" "theSwitch").map Param.name).Nodup ∧
    ((parameterList TypeMap.builtin ⟨"app", "run", none⟩ (switches "switch" "theSwitch")).run
      Interner.empty).1.toOption = some "theSwitch: boolean, theSwitch: string" ∧
    ¬ ((switches "switch" "theSwitch").map fun p => parameterName p.name).Nodup := by
  decide +kernel

end Ambient
