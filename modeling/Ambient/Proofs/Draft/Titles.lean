import Ambient.Proofs.Draft.Names
import Ambient.Proofs.Interner.Choice
import Ambient.Proofs.Text.PlainNames

/-!
# Names that are titles

A name is joined from a few parts: words of the place where its shape was first met, the name of the
value, and perhaps a number.  If the first of these begins with a capital, so does the name, and if
all of them have a property that passes on to texts that are joined, the name has it as well.  From
metadata with plain names such titles are made at every place.

## What is here

* `IsJoinable Q` — letters and digits satisfy `Q`, and texts that do may be joined.
* `IsTitle Q s` — `s` satisfies `Q` and begins with a capital.
* `Naming.IsProper`, `isTitle_chosen` — where the words in front of a name are titles, so is the
  name that is chosen.
* `plainly`, `namingLaw_titles` — metadata with plain names, and the law of naming for it.
-/

set_option autoImplicit false

namespace Ambient

open Character Signature Synthesis Text

/-! ## Titles -/

/-- Texts of letters and digits have the property, and so have texts that are joined from such as
have it. -/
structure IsJoinable (Q : String → Prop) : Prop where
  plain : ∀ s, (∀ c ∈ s.toList, c.isAlphanum = true) → Q s
  append : ∀ s t, Q s → Q t → Q (s ++ t)

/-- The text has the property and begins with a capital. -/
structure IsTitle (Q : String → Prop) (s : String) : Prop where
  capital : startsCapital s = true
  property : Q s

/-- The words in front of the name of a value are titles if there are any, and if there are none the
name itself is one. -/
structure Naming.IsProper (Q : String → Prop) (naming : Naming) (shapeName : String) : Prop where
  seed : naming.seed = "" ∨ IsTitle Q naming.seed
  fallback : naming.fallback = "" ∨ IsTitle Q naming.fallback
  suffix : Q (upperFirst (camelCase shapeName))
  capital : naming.seed = "" → startsCapital (upperFirst (camelCase shapeName)) = true

/-- The words that the site has for names of interfaces are titles. -/
structure Site.IsProper (Q : String → Prop) (site : Site) : Prop where
  owner : IsTitle Q (upperFirst site.owner)
  member : IsTitle Q (upperFirst site.member)
  seed : ∀ words, site.seed = some words → IsTitle Q (upperFirst words)

/-- Names are plain, except that those of events may have hyphens in between, and that those of
results satisfy `R`. -/
def plainly (R : String → Prop) : NameRules where
  module name := isPlainName name = true
  member name := isPlainName name = true
  event name := isHyphenated name = true
  value p := isPlainName p.name = true
  result r := R r.name

section

variable {Q : String → Prop} (hQ : IsJoinable Q)

include hQ

theorem IsTitle.append {s t : String} (hs : IsTitle Q s) (ht : Q t) : IsTitle Q (s ++ t) :=
  ⟨startsCapital_append hs.capital, hQ.append s t hs.property ht⟩

/-- Numbers have the property. -/
theorem IsJoinable.toString (n : Nat) : Q (toString n) := by
  refine hQ.plain _ fun c hc => ?_
  exact isAlphanum_iff.2 (Or.inr (Interner.isDigit_of_mem_numeral hc))

/-- **The name that is chosen is a title** where the words in front of it are. -/
theorem isTitle_chosen {naming : Naming} {shapeName : String} (h : naming.IsProper Q shapeName) :
    naming.Gives (IsTitle Q) shapeName := by
  intro s
  have hfirst : IsTitle Q (naming.seed ++ upperFirst (camelCase shapeName)) := by
    rcases h.seed with hempty | htitle
    · rw [hempty, String.empty_append]
      exact ⟨h.capital hempty, h.suffix⟩
    · exact htitle.append hQ h.suffix
  have hprimary : Interner.primaryName naming.seed (upperFirst (camelCase shapeName))
      = naming.seed ++ upperFirst (camelCase shapeName) := by
    rw [Interner.primaryName, if_neg]
    rw [String.isEmpty_iff]
    exact ne_empty_of_startsCapital hfirst.capital
  have hchooses := s.chooses naming.seed naming.fallback (upperFirst (camelCase shapeName))
  rw [chosen]
  generalize s.choose naming.seed naming.fallback (upperFirst (camelCase shapeName)) = name
    at hchooses ⊢
  cases hchooses with
  | first free =>
    rw [hprimary]
    exact hfirst
  | second taken given free => exact (h.fallback.resolve_left given).append hQ h.suffix
  | numbered n taken noSecond two free least =>
    rw [hprimary]
    exact hfirst.append hQ (hQ.toString n)

/-! ## Titles from plain names -/

theorem isTitle_upperFirst {name : String} (h : isPlainName name = true) :
    IsTitle Q (upperFirst name) :=
  ⟨startsCapital_upperFirst_of_isHyphenated (isHyphenated_of_isPlainName h),
    hQ.plain _ fun _ hd => isAlphanum_of_mem_upperFirst h hd⟩

theorem isTitle_camelCase {name : String} (h : isHyphenated name = true) :
    IsTitle Q (upperFirst (camelCase name)) :=
  ⟨startsCapital_camelCase_of_isHyphenated h,
    hQ.plain _ fun _ hd => isAlphanum_of_mem_camelCase (isAsciiText_of_isHyphenated h) hd⟩

/-- Words in front of a plain name. -/
theorem gives_of_isPlainName {naming : Naming} {name : String} (h : isPlainName name = true)
    (hseed : naming.seed = "" ∨ IsTitle Q naming.seed)
    (hfallback : naming.fallback = "" ∨ IsTitle Q naming.fallback) :
    naming.Gives (IsTitle Q) name := by
  have htitle := isTitle_camelCase hQ (isHyphenated_of_isPlainName h)
  exact isTitle_chosen hQ ⟨hseed, hfallback, htitle.property, fun _ => htitle.capital⟩

/-- **Names are titles if the metadata has plain names**, with hyphens at most in the names of
events. -/
theorem namingLaw_titles {R : String → Prop}
    (hR : ∀ name, R name → Q (upperFirst (camelCase name))) :
    NamingLaw (IsTitle Q) (Site.IsProper Q) (plainly R) where
  member m name hm hname :=
    ⟨isTitle_upperFirst hQ hm, isTitle_upperFirst hQ hname, fun words hwords => by cases hwords⟩
  construction m hm := by
    have hseed : isPlainName (m ++ "Constructor") = true := by
      obtain ⟨c, rest, hlist, hc, hall⟩ := exists_of_isPlainName hm
      rw [isPlainName, String.toList_append]
      refine isPlainWord_iff.2 ⟨c, rest ++ "Constructor".toList, by rw [hlist]; rfl, hc, ?_⟩
      exact List.forall_mem_append.2 ⟨hall, List.all_eq_true.1 (by decide)⟩
    have hmember : isPlainName "constructor" = true := by decide
    refine ⟨isTitle_upperFirst hQ hm, isTitle_upperFirst hQ hmember, fun words hwords => ?_⟩
    rw [← Option.some.inj hwords]
    exact isTitle_upperFirst hQ hseed
  inside owner howner := by
    have hupper : IsTitle Q (upperFirst owner) :=
      (upperFirst_of_startsCapital howner.capital).symm ▸ howner
    exact ⟨hupper, hupper, fun words hwords => by cases hwords⟩
  parameter site p hsite hp _ := by
    rw [Naming.ofParameter]
    split
    · exact gives_of_isPlainName hQ hp
        (Or.inr (hsite.owner.append hQ hsite.member.property)) (Or.inl rfl)
    · refine gives_of_isPlainName hQ hp ?_ (Or.inr hsite.member)
      cases hseed : site.seed with
      | none => exact Or.inl rfl
      | some words => exact Or.inr (hsite.seed words hseed)
  result site r hsite hr _ :=
    isTitle_chosen hQ ⟨Or.inr hsite.member, Or.inl rfl, hR r.name hr, fun hempty =>
      absurd hempty (ne_empty_of_startsCapital hsite.member.capital)⟩
  field owner p howner hp _ := gives_of_isPlainName hQ hp (Or.inl rfl) (Or.inr howner)
  argument event p hevent hp _ := by
    have htitle := isTitle_camelCase hQ hevent
    rw [Naming.ofArgument]
    split
    · exact gives_of_isPlainName hQ hp (Or.inr htitle) (Or.inl rfl)
    · exact gives_of_isPlainName hQ hp (Or.inl rfl) (Or.inr htitle)
  property p hp _ := gives_of_isPlainName hQ hp (Or.inl rfl) (Or.inl rfl)

end

end Ambient
