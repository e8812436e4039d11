import Ambient.Proofs.Draft.Closed
import Ambient.Proofs.Draft.Names
import Ambient.Proofs.Interner.Choice
import Ambient.Proofs.Text.CamelCase

/-!
# Which global types are hidden by an interface

Some types are spelled with the name of a global type, such as `Buffer`.  These names are not among
those that are reserved, so an interface may get one of them, and inside the namespace `Buffer` is
that interface then.  This happens just in case a new shape asks for the name and it is still free,
and a shape asks for it in few ways only: a global name begins with a capital and goes on in small
letters, so it is never put together from two words.

## What is here

* `TypeMap.globalNames` — the global types that the usual spellings name.
* `Call.AsksFor`, `Call.name_eq_iff` — the ways in which a shape asks for such a name, and that it
  gets the name if it is free.
* `avoiding n`, `namingLaw_avoiding` — metadata in which nothing is called `n`, and that no name of
  an interface is `n` then.
* `globals_of_build` — which global types are hidden.
-/

set_option autoImplicit false

namespace Ambient

open Signature Synthesis Text

/-! ## Global names -/

/-- The names of types with which the usual spellings begin, such as `Promise` of `Promise<any>`, as
far as they begin with a capital.  The others are keywords. -/
def TypeMap.globalNames : List String :=
  (TypeMap.builtinSpellings.map fun e =>
    String.ofList (e.2.toList.takeWhile Char.isAlphanum)).filter startsCapital

theorem TypeMap.globalNames_eq : globalNames = ["Buffer", "Promise", "Function"] := by
  decide

theorem TypeMap.mem_globalNames_iff {n : String} :
    n ∈ globalNames ↔ n = "Buffer" ∨ n = "Promise" ∨ n = "Function" := by
  rw [globalNames_eq, List.mem_cons, List.mem_cons, List.mem_singleton]

section

variable {n s t : String} (hn : n ∈ TypeMap.globalNames)

include hn

/-- A global name is a capital with small letters behind it. -/
theorem exists_of_mem_globalNames :
    ∃ c d rest, n.toList = c :: d :: rest ∧ (c.toNat < 128 ∧ c ≠ 'I' ∧ c ≠ 'S') ∧
      (d :: rest).all Char.isLower = true := by
  rcases TypeMap.mem_globalNames_iff.1 hn with rfl | rfl | rfl
  · exact ⟨'B', 'u', ['f', 'f', 'e', 'r'], by decide, by decide, by decide⟩
  · exact ⟨'P', 'r', ['o', 'm', 'i', 's', 'e'], by decide, by decide, by decide⟩
  · exact ⟨'F', 'u', ['n', 'c', 't', 'i', 'o', 'n'], by decide, by decide, by decide⟩

theorem ne_empty_of_mem_globalNames : n ≠ "" := by
  obtain ⟨c, d, rest, hlist, -⟩ := exists_of_mem_globalNames hn
  rintro rfl
  cases hlist

theorem ne_anonymous_of_mem_globalNames : n ≠ "Anonymous" := by
  rw [TypeMap.mem_globalNames_iff] at hn
  rintro rfl
  exact absurd hn (by decide)

/-- **A global name is not put together from two words**, as words have no small first letter. -/
theorem append_eq_globalName_iff (ht : startsSmall t = false) :
    s ++ t = n ↔ s = n ∧ t = "" ∨ s = "" ∧ t = n := by
  obtain ⟨c, d, rest, hlist, -, hsmall⟩ := exists_of_mem_globalNames hn
  constructor
  · intro h
    cases htlist : t.toList with
    | nil =>
      obtain rfl := String.toList_eq_nil_iff.1 htlist
      exact Or.inl ⟨by rwa [String.append_empty] at h, rfl⟩
    | cons e more =>
      cases hslist : s.toList with
      | nil =>
        obtain rfl := String.toList_eq_nil_iff.1 hslist
        exact Or.inr ⟨rfl, by rwa [String.empty_append] at h⟩
      | cons a others =>
        rw [← h, String.toList_append, hslist, htlist] at hlist
        obtain ⟨-, hrest⟩ : a = c ∧ others ++ e :: more = d :: rest := List.cons.inj hlist
        have he := List.all_eq_true.1 hsmall e (hrest ▸ List.mem_append_right _ List.mem_cons_self)
        rw [startsSmall_of_toList htlist, he] at ht
        cases ht
  · rintro (⟨rfl, rfl⟩ | ⟨rfl, rfl⟩)
    · exact String.append_empty
    · exact String.empty_append

/-- Only a global name itself becomes that name when it is capitalised, apart from one that begins
with a small letter. -/
theorem upperFirst_ne_globalName (hs : startsSmall s = false) (hne : s ≠ n) : upperFirst s ≠ n := by
  obtain ⟨c, d, rest, hlist, ⟨hc, hI, hS⟩, hsmall⟩ := exists_of_mem_globalNames hn
  rintro rfl
  obtain ⟨b, hb, hascii, hcapital⟩ :=
    exists_of_upperFirst hlist hc hI hS (List.all_eq_true.1 hsmall d List.mem_cons_self)
  have hcase : b.isLower = false → b.toUpper = b :=
    Character.forall_ascii (P := fun b => b.isLower = false → b.toUpper = b) (by decide +kernel)
      hascii
  rw [startsSmall_of_toList hb] at hs
  refine hne (String.toList_inj.1 ?_)
  rw [hlist, hb, ← hcapital, hcase hs]

/-- Nor does a name that ends in `Constructor`. -/
theorem upperFirst_constructor_ne_globalName (m : String) :
    upperFirst (m ++ "Constructor") ≠ n := by
  have hword : "Constructor" ≠ n := by
    rw [TypeMap.mem_globalNames_iff] at hn
    rintro rfl
    exact absurd hn (by decide)
  by_cases hm : m = ""
  · rw [hm, String.empty_append]
    exact hword
  · rw [upperFirst_append hm, Ne, append_eq_globalName_iff hn (by decide)]
    rintro (⟨-, hempty⟩ | ⟨-, hname⟩)
    · exact absurd hempty (by decide)
    · exact hword hname

end

/-! ## Asking for a name -/

/-- The words that the name of the shape gives. -/
def Call.suffix (c : Call) : String := upperFirst (camelCase c.shapeName)

/-- The call asks for the name: the shape is called so and no words are in front of it, or the words
are the name and the shape has none.  The fallback counts if the first choice is taken. -/
inductive Call.AsksFor (n : String) (c : Call) : Prop
  | ofShape (seed : c.naming.seed = "") (suffix : c.suffix = n)
  | ofSeed (seed : c.naming.seed = n) (suffix : c.suffix = "")
  | ofFallback (taken : c.before.isTaken (Interner.primaryName c.naming.seed c.suffix) = true)
      (fallback : c.naming.fallback = n) (suffix : c.suffix = "")

theorem startsSmall_numeral (k : Nat) : startsSmall (toString k) = false := by
  cases h : (toString k).toList with
  | nil =>
    rw [String.toList_eq_nil_iff.1 h]
    rfl
  | cons c rest =>
    have hdigit := Interner.isDigit_of_mem_numeral (k := k) (h ▸ List.mem_cons_self)
    have hascii := Character.ascii_of_isAlphanum (Character.isAlphanum_iff.2 (Or.inr hdigit))
    have hsmall : c.isDigit = true → c.isLower = false :=
      Character.forall_ascii (P := fun c => c.isDigit = true → c.isLower = false)
        (by decide +kernel) hascii
    rw [startsSmall_of_toList h, hsmall hdigit]

section

variable {n : String} (hn : n ∈ TypeMap.globalNames)

include hn

/-- The first choice is a global name only if one of its parts is. -/
theorem primaryName_eq_globalName_iff {seed suffix : String}
    (hsuffix : startsSmall suffix = false) :
    Interner.primaryName seed suffix = n ↔ seed = n ∧ suffix = "" ∨ seed = "" ∧ suffix = n := by
  rw [← append_eq_globalName_iff hn hsuffix, Interner.primaryName]
  split
  · rename_i hempty
    rw [String.isEmpty_iff] at hempty
    rw [hempty]
    exact iff_of_false (ne_anonymous_of_mem_globalNames hn).symm
      (ne_empty_of_mem_globalNames hn).symm
  · rfl

/-- **A call is given a global name just in case it asks for it** while the name is free.  Each of
the candidates is joined from two parts, and one of them would have to be the whole name. -/
theorem Call.name_eq_iff {c : Call} :
    c.name = n ↔ c.before.isTaken n = false ∧ c.AsksFor n := by
  have hsuffix : startsSmall c.suffix = false := startsSmall_upperFirst _
  constructor
  · intro h
    refine ⟨h ▸ c.before.isTaken_choose _ _ _, ?_⟩
    have hchooses := c.before.chooses c.naming.seed c.naming.fallback c.suffix
    replace h : c.before.choose c.naming.seed c.naming.fallback c.suffix = n := h
    generalize c.before.choose c.naming.seed c.naming.fallback c.suffix = name at hchooses h
    cases hchooses with
    | first free =>
      rcases (primaryName_eq_globalName_iff hn hsuffix).1 h with ⟨hs, ht⟩ | ⟨hs, ht⟩
      · exact .ofSeed hs ht
      · exact .ofShape hs ht
    | second taken given free =>
      rcases (append_eq_globalName_iff hn hsuffix).1 h with ⟨hs, ht⟩ | ⟨hs, -⟩
      · exact .ofFallback taken hs ht
      · exact absurd hs given
    | numbered k taken noSecond two free least =>
      -- A number is no part of the name.
      rcases (append_eq_globalName_iff hn (startsSmall_numeral k)).1 h with ⟨-, hk⟩ | ⟨hempty, -⟩
      · exact absurd hk Nat.repr_ne_empty
      · exact absurd hempty (Interner.primaryName_ne_empty _ _)
  · rintro ⟨hfree, hasks⟩
    show c.before.choose c.naming.seed c.naming.fallback c.suffix = n
    refine Interner.Chooses.eq_choose ?_
    have hprimary {seed : String} (h : seed = n ∧ c.suffix = "" ∨ seed = "" ∧ c.suffix = n) :
        Interner.primaryName seed c.suffix = n := (primaryName_eq_globalName_iff hn hsuffix).2 h
    cases hasks with
    | ofShape seed suffix =>
      have hname := hprimary (Or.inr ⟨seed, suffix⟩)
      exact hname ▸ .first (hname ▸ hfree)
    | ofSeed seed suffix =>
      have hname := hprimary (Or.inl ⟨seed, suffix⟩)
      exact hname ▸ .first (hname ▸ hfree)
    | ofFallback taken fallback suffix =>
      have hname : c.naming.fallback ++ c.suffix = n := by
        rw [suffix, String.append_empty, fallback]
      have hgiven : c.naming.fallback ≠ "" := fallback ▸ ne_empty_of_mem_globalNames hn
      exact hname ▸ .second taken hgiven (hname ▸ hfree)

end

/-! ## Metadata in which nothing is called so -/

/-- Nothing that gives a name to an interface reads `n`: no method, property or event when it is
capitalised, no event and no object when it is camel-cased as well. -/
def avoiding (n : String) : NameRules where
  module _ := True
  member name := upperFirst name ≠ n
  event name := upperFirst name ≠ n ∧ upperFirst (camelCase name) ≠ n
  value p := p.isObjectShape = true → upperFirst (camelCase p.name) ≠ n
  result r := r.isObjectShape = true → upperFirst (camelCase r.name) ≠ n

/-- The text is not `n`, and does not become `n` when it is capitalised, as it does not begin with a
small letter. -/
structure Spares (n s : String) : Prop where
  ne : s ≠ n
  small : startsSmall s = false

/-- The words that the site has for names of interfaces are not `n`. -/
structure Site.Spares (n : String) (site : Site) : Prop where
  member : upperFirst site.member ≠ n
  seed : ∀ words, site.seed = some words → upperFirst words ≠ n

theorem startsSmall_primaryName {seed suffix : String} (hseed : startsSmall seed = false)
    (hsuffix : startsSmall suffix = false) :
    startsSmall (Interner.primaryName seed suffix) = false := by
  rw [Interner.primaryName]
  split
  · rfl
  · exact startsSmall_append hseed hsuffix

theorem startsSmall_choose {s : Interner} {seed fallback suffix : String}
    (hseed : startsSmall seed = false) (hfallback : startsSmall fallback = false)
    (hsuffix : startsSmall suffix = false) :
    startsSmall (s.choose seed fallback suffix) = false := by
  have hchooses := s.chooses seed fallback suffix
  have hprimary := startsSmall_primaryName hseed hsuffix
  generalize s.choose seed fallback suffix = name at hchooses ⊢
  cases hchooses with
  | first free => exact hprimary
  | second taken given free => exact startsSmall_append hfallback hsuffix
  | numbered k => exact startsSmall_append hprimary (startsSmall_numeral k)

section

variable {n : String} (hn : n ∈ TypeMap.globalNames)

include hn

/-- Words and a name that are not `n` give other names. -/
theorem gives_spares {naming : Naming} {shapeName : String}
    (hsuffix : upperFirst (camelCase shapeName) ≠ n)
    (hseed : naming.seed = n → upperFirst (camelCase shapeName) ≠ "")
    (hfallback : naming.fallback ≠ n) (hseedSmall : startsSmall naming.seed = false)
    (hfallbackSmall : startsSmall naming.fallback = false) :
    naming.Gives (Spares n) shapeName := by
  intro s
  refine ⟨fun h => ?_, startsSmall_choose hseedSmall hfallbackSmall (startsSmall_upperFirst _)⟩
  have hasks := ((Call.name_eq_iff hn (c := ⟨s, [], shapeName, naming⟩)).1 h).2
  cases hasks with
  | ofShape seed suffix => exact hsuffix suffix
  | ofSeed seed suffix => exact hseed seed suffix
  | ofFallback taken fallback suffix => exact hfallback fallback

/-- **No interface is called `n`** if nothing in the metadata is. -/
theorem namingLaw_avoiding : NamingLaw (Spares n) (Site.Spares n) (avoiding n) where
  member m name _ hname := ⟨hname, fun words hwords => by cases hwords⟩
  construction m _ := by
    have hmember : upperFirst "constructor" = upperFirst ("" ++ "Constructor") := by decide
    refine ⟨?_, fun words hwords => ?_⟩
    · exact hmember ▸ upperFirst_constructor_ne_globalName hn ""
    · rw [← Option.some.inj hwords]
      exact upperFirst_constructor_ne_globalName hn m
  inside owner howner :=
    ⟨upperFirst_ne_globalName hn howner.small howner.ne, fun words hwords => by cases hwords⟩
  parameter site p hsite hp hshape := by
    have hempty := (ne_empty_of_mem_globalNames hn).symm
    rw [Naming.ofParameter]
    split
    · rename_i hoptions
      refine gives_spares hn (hp hshape) (fun _ => ?_) hempty ?_ rfl
      · rw [hoptions]
        decide
      · exact startsSmall_append (startsSmall_upperFirst _) (startsSmall_upperFirst _)
    · cases hseed : site.seed with
      | none =>
        exact gives_spares hn (hp hshape) (fun h => absurd h hempty) hsite.member rfl
          (startsSmall_upperFirst _)
      | some words =>
        exact gives_spares hn (hp hshape) (fun h => absurd h (hsite.seed words hseed)) hsite.member
          (startsSmall_upperFirst _) (startsSmall_upperFirst _)
  result site r hsite hr hshape :=
    gives_spares hn (hr hshape) (fun h => absurd h hsite.member)
      (ne_empty_of_mem_globalNames hn).symm (startsSmall_upperFirst _) rfl
  field owner p howner hp hshape :=
    gives_spares hn (hp hshape) (fun h => absurd h (ne_empty_of_mem_globalNames hn).symm)
      howner.ne rfl howner.small
  argument event p hevent hp hshape := by
    have hempty := (ne_empty_of_mem_globalNames hn).symm
    rw [Naming.ofArgument]
    split
    · exact gives_spares hn (hp hshape) (fun h => absurd h hevent.2) hempty
        (startsSmall_upperFirst _) rfl
    · exact gives_spares hn (hp hshape) (fun h => absurd h hempty) hevent.2 rfl
        (startsSmall_upperFirst _)
  property p hp hshape := by
    have hempty := (ne_empty_of_mem_globalNames hn).symm
    exact gives_spares hn (hp hshape) (fun h => absurd h hempty) hempty rfl rfl

end

/-! ## Building -/

section

variable {draft : Draft} {d : Declarations} {n : String} (h : draft.build = .ok d)

include h

/-- An interface was claimed by a call that was given its name. -/
theorem exists_call_of_mem_names (hname : n ∈ d.interfaces.map Interface.name) :
    ∃ c, Calls draft.types draft.emitAll draft.start c ∧ c.Claims draft.types ∧ c.name = n := by
  obtain ⟨interner, hrun, hinterfaces, -⟩ := exists_of_build_eq_ok h
  rw [hinterfaces, interfaces_names, Dictionary.keys, List.mem_map] at hname
  obtain ⟨entry, hentry, rfl⟩ := hname
  obtain ⟨c, hc, hclaims, -, hcname, -⟩ :=
    exists_call (composed_emitAll draft) hrun entry hentry List.not_mem_nil
  exact ⟨c, hc, hclaims, hcname.symm⟩

/-- A call that claims a name has an interface of that name. -/
theorem name_mem_names {c : Call} (hc : Calls draft.types draft.emitAll draft.start c)
    (hclaims : c.Claims draft.types) : c.name ∈ d.interfaces.map Interface.name := by
  obtain ⟨interner, hrun, hinterfaces, -⟩ := exists_of_build_eq_ok h
  obtain ⟨name, hname, hlookup⟩ := lookup?_of_calls hc hrun
  obtain ⟨lines, t, -, hchosen, -⟩ :=
    exists_body_of_intern hclaims (Prod.ext hname rfl : c.run draft.types = (.ok name, _))
  have hcname : c.name = name := hchosen.symm
  rw [hcname, hinterfaces]
  exact ((sound_of_run hrun).faithful.range name).1 ⟨_, hlookup⟩

end

/-- **Which global types are hidden.**  An interface has the name of a global type just in case a
new shape asks for that name while it is free.  No interface has it if nothing in the metadata is
called so. -/
theorem globals_of_build {draft : Draft} {d : Declarations} {n : String}
    (h : draft.build = .ok d) (hn : n ∈ TypeMap.globalNames) :
    (n ∈ d.interfaces.map Interface.name ↔
      ∃ c, Calls draft.types draft.emitAll draft.start c ∧ c.Claims draft.types ∧
        c.before.isTaken n = false ∧ c.AsksFor n) ∧
    ((∀ m ∈ draft.modules, m.IsNamed (avoiding n)) → n ∉ d.interfaces.map Interface.name) := by
  refine ⟨⟨fun hname => ?_, fun ⟨c, hc, hclaims, hasks⟩ => ?_⟩, fun hnamed hname => ?_⟩
  · obtain ⟨c, hc, hclaims, hcname⟩ := exists_call_of_mem_names h hname
    exact ⟨c, hc, hclaims, (Call.name_eq_iff hn).1 hcname⟩
  · rw [← (Call.name_eq_iff hn).2 hasks]
    exact name_mem_names h hc hclaims
  · obtain ⟨i, hi, hin⟩ := List.mem_map.1 hname
    have hnames := names_interfaces h fun m hm =>
      names_memberLines (namingLaw_avoiding hn) _ (hnamed m hm) fun event hevent =>
        Or.inl ⟨((hnamed m hm).events event hevent).name.1, fun words hwords => by cases hwords⟩
    exact (hnames i hi).ne hin

/-- An object that is called `buffer`. -/
def bufferShape : Param where
  name := "buffer"
  type := .name "Object"
  properties := [{ name := "x", type := .name "Integer" }]

/-- A method that takes a `Buffer`, and an object that is called so. -/
def writing : Draft where
  modules := [{ name := "app", methods := [{ name := "write", parameters := [
    { name := "data", type := .name "Buffer" }, bufferShape] }] }]

theorem isNamed_writing : ∀ m ∈ writing.modules, m.IsNamed (avoiding "Promise") := by
  have hplain (name type : String) (h : upperFirst (camelCase name) ≠ "Promise") :
      Param.IsNamed (avoiding "Promise") { name := name, type := .name type } :=
    ⟨fun _ => h, .intro ⟨by simp, by simp⟩ (by simp) (by simp) (by simp)⟩
  have hfield := hplain "x" "Integer" (by decide)
  have hshape : bufferShape.IsNamed (avoiding "Promise") := by
    refine ⟨fun _ => by decide, .intro ⟨?_, by simp [bufferShape]⟩ ?_ (by simp [bufferShape])
      (by simp [bufferShape])⟩
    · exact List.forall_mem_singleton.2 hfield.value
    · exact List.forall_mem_singleton.2 hfield.parts
  have hwrite : upperFirst "write" ≠ "Promise" := by decide
  rw [writing, List.forall_mem_singleton]
  refine ⟨trivial, (fun c hc => by cases hc), ?_, by simp, by simp⟩
  refine List.forall_mem_singleton.2 ⟨hwrite, ?_, by simp⟩
  exact List.forall_mem_cons.2
    ⟨hplain "data" "Buffer" (by decide), List.forall_mem_singleton.2 hshape⟩

/-- The object has an interface that is called `Buffer`, which hides the type of the other
parameter.  No interface is called `Promise`. -/
theorem globals_of_build_writing :
    "Buffer" ∈ TypeMap.globalNames ∧ "Promise" ∈ TypeMap.globalNames ∧
    (∀ m ∈ writing.modules, m.IsNamed (avoiding "Promise")) ∧
    ∃ d, writing.build = .ok d ∧ d.interfaces.map Interface.name = ["Buffer"] ∧
      (∃ c, Calls writing.types writing.emitAll writing.start c ∧ c.Claims writing.types ∧
        c.before.isTaken "Buffer" = false ∧ c.AsksFor "Buffer") ∧
      "Promise" ∉ d.interfaces.map Interface.name := by
  have hnames : writing.build.toOption.map (fun d => d.interfaces.map Interface.name)
      = some ["Buffer"] := by
    decide +kernel
  obtain ⟨d, hd, hinterfaces⟩ := exists_of_map_build hnames
  have hbuffer : "Buffer" ∈ TypeMap.globalNames :=
    TypeMap.mem_globalNames_iff.2 (Or.inl rfl)
  have hpromise : "Promise" ∈ TypeMap.globalNames :=
    TypeMap.mem_globalNames_iff.2 (Or.inr (Or.inl rfl))
  refine ⟨hbuffer, hpromise, isNamed_writing, d, hd, hinterfaces, ?_, ?_⟩
  · exact (globals_of_build hd hbuffer).1.1 (hinterfaces ▸ List.mem_singleton.2 rfl)
  · exact (globals_of_build hd hpromise).2 isNamed_writing

end Ambient
