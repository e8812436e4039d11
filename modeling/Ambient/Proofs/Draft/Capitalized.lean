import Ambient.Proofs.Draft.Closed
import Ambient.Proofs.Draft.Names
import Ambient.Proofs.Interner.Choice
import Ambient.Proofs.Text.Capitals

/-!
# No interface is called what a module is called

Whatever the words of a place are, they are capitalised before a name is made from them, and so is
the name of the value.  So the name of an interface stays as it is when it is capitalised once more.
A block is declared under the capitalised name of its module, and no interface takes that name.
Hence none has the name of a module either, capitalised or not.

## What is here

* `anything`, `namingLaw_capitalized` — the law of naming for any metadata.
* `ne_name_of_mem_keys` — the interfaces that are there, even if the draft cannot be built, are not
  called what a module is called.
-/

set_option autoImplicit false

namespace Ambient

open Signature Synthesis Text

/-! ## The law -/

/-- Any names will do. -/
def anything : NameRules where
  module _ := True
  member _ := True
  event _ := True
  value _ := True
  result _ := True

theorem hasParts_anything (p : Param) : p.HasParts anything := by
  induction p using Param.induct with
  | step p properties parameters returns =>
    exact .intro ⟨fun _ _ => trivial, fun _ _ => trivial⟩ properties parameters returns

theorem isNamed_anything (m : Module) : m.IsNamed anything where
  name := trivial
  construction _ _ p _ := ⟨trivial, hasParts_anything p⟩
  methods _ _ := ⟨trivial, fun p _ => ⟨trivial, hasParts_anything p⟩,
    fun r _ => ⟨trivial, hasParts_anything r⟩⟩
  properties p _ := ⟨trivial, trivial, hasParts_anything p⟩
  events _ _ := ⟨trivial, fun p _ => ⟨trivial, hasParts_anything p⟩⟩

/-- Words that are capitalised give names that are. -/
theorem gives_isCapitalized {naming : Naming} (shapeName : String)
    (hseed : IsCapitalized naming.seed) (hfallback : IsCapitalized naming.fallback) :
    naming.Gives IsCapitalized shapeName := by
  intro s
  have hsuffix := isCapitalized_upperFirst (camelCase shapeName)
  have hprimary : IsCapitalized (Interner.primaryName naming.seed
      (upperFirst (camelCase shapeName))) := by
    rw [Interner.primaryName]
    split
    · exact (by decide : upperFirst "Anonymous" = "Anonymous")
    · exact hseed.append hsuffix
  have hchooses := s.chooses naming.seed naming.fallback (upperFirst (camelCase shapeName))
  rw [chosen]
  generalize s.choose naming.seed naming.fallback (upperFirst (camelCase shapeName)) = name
    at hchooses ⊢
  cases hchooses with
  | first free => exact hprimary
  | second taken given free => exact hfallback.append hsuffix
  | numbered n taken noSecond two free least =>
    exact hprimary.append_of_ne (Interner.primaryName_ne_empty _ _) _

/-- **Names of interfaces are capitalised**, whatever the metadata is. -/
theorem namingLaw_capitalized : NamingLaw IsCapitalized (fun _ => True) anything where
  member _ _ _ _ := trivial
  construction _ _ := trivial
  inside _ _ := trivial
  parameter site p _ _ _ := by
    rw [Naming.ofParameter]
    split
    · exact gives_isCapitalized _
        ((isCapitalized_upperFirst _).append (isCapitalized_upperFirst _)) isCapitalized_empty
    · refine gives_isCapitalized _ ?_ (isCapitalized_upperFirst _)
      cases site.seed with
      | none => exact isCapitalized_empty
      | some words => exact isCapitalized_upperFirst words
  result _ _ _ _ _ := gives_isCapitalized _ (isCapitalized_upperFirst _) isCapitalized_empty
  field _ _ howner _ _ := gives_isCapitalized _ isCapitalized_empty howner
  argument event p _ _ _ := by
    rw [Naming.ofArgument]
    split
    · exact gives_isCapitalized _ (isCapitalized_upperFirst _) isCapitalized_empty
    · exact gives_isCapitalized _ isCapitalized_empty (isCapitalized_upperFirst _)
  property _ _ _ := gives_isCapitalized _ isCapitalized_empty isCapitalized_empty

/-! ## Drafts -/

section

variable (draft : Draft)

/-- The interfaces that are there when the writing of the blocks ends, in one way or the other. -/
theorem isCapitalized_of_mem_keys :
    ∀ name ∈ (draft.emitAll.run draft.start).2.bodies.keys, IsCapitalized name := by
  have hall : Names IsCapitalized draft.emitAll := names_foldlM_emit
    (fun m _ => names_memberLines namingLaw_capitalized _ (isNamed_anything m)
      fun _ _ => .inl trivial) Blocks.empty
  refine hall draft.start ?_
  simp [Draft.start, Interner.empty, Interner.reserve, Dictionary.keys, Dictionary.empty]

/-- **No interface is called what a module is called**, be the draft one that can be built or
not. -/
theorem ne_name_of_mem_keys {name : String}
    (hname : name ∈ (draft.emitAll.run draft.start).2.bodies.keys) :
    ∀ m ∈ draft.modules, m.name ≠ name := by
  rintro m hm rfl
  have hsound : Desk.Sound draft.reservedNames ⟨(draft.emitAll.run draft.start).2, []⟩ :=
    sound_of_run rfl
  refine (hsound.free m.name hname).2 ?_
  rw [Draft.reservedNames, List.append_assoc, List.mem_append, List.mem_map]
  exact .inl ⟨m, hm, isCapitalized_of_mem_keys draft m.name hname⟩

end

end Ambient
