import Ambient.Proofs.Draft.Titles

/-!
# Whether names of interfaces are identifiers

If the metadata has plain names, every interface has a name that begins with a capital, and with few
exceptions the name is an identifier.  A character beyond ASCII can only come from the name of a
result.  A hyphen can only come from an event: a shape inside a callback that is an argument of its
listener is named after the event as it is written, although an argument that is a shape itself is
named after the words of the event.

## What is here

* `Event.isLeaky` — an event whose hyphens may get into a name.
* `IsSound`, `isJoinable_isSound` — what all names have in common.
* `plainNames_of_build` — which interfaces have names that are identifiers.
* `plainNames_of_build_reply` — an event whose listener is given a callback that returns a shape.
-/

set_option autoImplicit false

namespace Ambient

open Character Signature Synthesis Text

/-! ## Names of interfaces -/

/-- The event has a hyphen in its name, and a shape is named in a callback that its listener is
given. -/
def Event.isLeaky (event : Event) : Bool := event.name.toList.contains '-' && event.passesShapes

/-- All ASCII characters of the text are letters and digits, or else the name of a leaky event
stands in it. -/
def IsSound (events : List Event) (s : String) : Prop :=
  (∀ c ∈ s.toList, IsTame c) ∨
    ∃ event ∈ events, event.isLeaky = true ∧ (upperFirst event.name).toList <:+: s.toList

theorem isJoinable_isSound (events : List Event) : IsJoinable (IsSound events) where
  plain _ h := Or.inl fun c hc _ => h c hc
  append s t hs ht := by
    rw [IsSound, String.toList_append]
    rcases hs with hs | ⟨event, hevent, hleaky, hstands⟩
    · rcases ht with ht | ⟨event, hevent, hleaky, hstands⟩
      · exact Or.inl (List.forall_mem_append.2 ⟨hs, ht⟩)
      · exact Or.inr ⟨event, hevent, hleaky, hstands.trans (List.suffix_append _ _).isInfix⟩
    · exact Or.inr ⟨event, hevent, hleaky, hstands.trans (List.prefix_append _ _).isInfix⟩

theorem isJoinable_isAsciiText : IsJoinable (fun s => isAsciiText s = true) where
  plain _ h := isAsciiText_iff.2 fun c hc => ascii_of_isAlphanum (h c hc)
  append s t hs ht := by
    rw [isAsciiText_iff] at *
    rw [String.toList_append]
    exact List.forall_mem_append.2 ⟨hs, ht⟩

section

variable {draft : Draft} {d : Declarations}

/-- Names of interfaces begin with a capital, and are sound. -/
theorem isTitle_of_build (h : draft.build = .ok d)
    (hplain : ∀ m ∈ draft.modules, m.IsNamed (plainly fun _ => True)) :
    ∀ i ∈ d.interfaces, IsTitle (IsSound (draft.modules.flatMap fun m =>
      m.instanceEvents ++ m.events)) i.name := by
  have hsound := isJoinable_isSound (draft.modules.flatMap fun m => m.instanceEvents ++ m.events)
  have law := namingLaw_titles hsound (R := fun _ => True) fun name _ =>
    Or.inl fun c hc => isTame_of_mem_camelCase hc
  refine names_interfaces h fun m hm => names_memberLines law _ (hplain m hm) fun event hevent => ?_
  have hname := ((hplain m hm).events event hevent).name
  cases hpasses : event.passesShapes with
  | false => exact Or.inr rfl
  | true =>
    refine Or.inl ⟨isTitle_upperFirst hsound (hplain m hm).name,
      ⟨startsCapital_upperFirst_of_isHyphenated hname, ?_⟩, fun words hwords => by cases hwords⟩
    by_cases hhyphen : '-' ∈ event.name.toList
    · refine Or.inr ⟨event, List.mem_flatMap.2 ⟨m, hm, hevent⟩, ?_, List.infix_refl _⟩
      rw [Event.isLeaky, hpasses, Bool.and_true]
      exact List.contains_iff_mem.2 hhyphen
    · exact Or.inl fun c hc _ =>
        isAlphanum_of_mem_upperFirst (isPlainName_of_isHyphenated hname hhyphen) hc

/-- Where the names of results are ASCII, so are those of interfaces. -/
theorem isAsciiText_of_build (h : draft.build = .ok d)
    (hplain : ∀ m ∈ draft.modules, m.IsNamed (plainly (isAsciiText · = true))) :
    ∀ i ∈ d.interfaces, isAsciiText i.name = true := by
  have law := namingLaw_titles isJoinable_isAsciiText (R := fun name => isAsciiText name = true)
    fun name hname => isAsciiText_camelCase hname
  have hnames := names_interfaces h fun m hm =>
    names_memberLines law _ (hplain m hm) fun event hevent => by
      have hname := ((hplain m hm).events event hevent).name
      exact Or.inl ⟨isTitle_upperFirst isJoinable_isAsciiText (hplain m hm).name,
        ⟨startsCapital_upperFirst_of_isHyphenated hname,
          isAsciiText_upperFirst (isAsciiText_of_isHyphenated hname)⟩,
        fun words hwords => by cases hwords⟩
  exact fun i hi => (hnames i hi).property

/-- An ASCII text that begins with a capital and has letters and digits only is a plain name. -/
theorem isPlainName_of_isTame {s : String} (hcapital : startsCapital s = true)
    (hascii : isAsciiText s = true) (h : ∀ c ∈ s.toList, IsTame c) : isPlainName s = true := by
  obtain ⟨c, rest, hs, hc⟩ := startsCapital_iff.1 hcapital
  refine isPlainWord_iff.2 ⟨c, rest, hs, isAlpha_iff.2 (Or.inl hc), fun e he => ?_⟩
  exact h e he (isAsciiText_iff.1 hascii e he)

end

/-- **Whether names of interfaces are identifiers.**  If the metadata has plain names, every
interface has a name that begins with a capital.  The name is an identifier just in case it is ASCII
and the name of no leaky event stands in it.  It is ASCII if the names of results are. -/
theorem plainNames_of_build {draft : Draft} {d : Declarations} (h : draft.build = .ok d)
    (hplain : ∀ m ∈ draft.modules, m.IsNamed (plainly fun _ => True)) :
    (∀ i ∈ d.interfaces, startsCapital i.name = true ∧
      (isPlainName i.name = true ↔ isAsciiText i.name = true ∧
        ∀ m ∈ draft.modules, ∀ event ∈ m.instanceEvents ++ m.events, event.isLeaky = true →
          ¬ (upperFirst event.name).toList <:+: i.name.toList)) ∧
    ((∀ m ∈ draft.modules, m.IsNamed (plainly (isAsciiText · = true))) →
      ∀ i ∈ d.interfaces, isAsciiText i.name = true) := by
  refine ⟨fun i hi => ?_, isAsciiText_of_build h⟩
  have htitle := isTitle_of_build h hplain i hi
  refine ⟨htitle.capital, fun hname => ?_, fun ⟨hascii, hnone⟩ => ?_⟩
  · obtain ⟨-, -, -, -, hall⟩ := exists_of_isPlainName hname
    refine ⟨isAsciiText_iff.2 fun c hc => ascii_of_isAlphanum (hall c hc), ?_⟩
    intro m hm event hevent hleaky hstands
    -- The hyphen of the event would be a character of the name.
    rw [Event.isLeaky, Bool.and_eq_true, List.contains_iff_mem] at hleaky
    have hhyphen := hyphen_mem_upperFirst ((hplain m hm).events event hevent).name hleaky.1
    exact absurd (hall '-' (hstands.subset hhyphen)) (by decide)
  · rcases htitle.property with htame | ⟨event, hevent, hleaky, hstands⟩
    · exact isPlainName_of_isTame htitle.capital hascii htame
    · obtain ⟨m, hm, hevent⟩ := List.mem_flatMap.1 hevent
      exact absurd hstands (hnone m hm event hevent hleaky)

/-- An object with one field. -/
def oneField (name field : String) : Param where
  name := name
  type := .name "Object"
  properties := [{ name := field, type := .name "Integer" }]

/-- A callback that returns an object. -/
def reply : Param where
  name := "reply"
  type := .name "Function"
  returns := some (oneField "" "x")

/-- An event whose listener is given an object, and a callback that returns one. -/
def replying : Draft where
  modules := [{
    name := "app"
    events := [{ name := "did-finish-load", arguments := [oneField "info" "id", reply] }] }]

theorem hasParts_oneField {name field : String} (h : isPlainName field = true) :
    (oneField name field).HasParts (plainly fun _ => True) := by
  have hleaf : Param.HasParts (plainly fun _ => True) { name := field, type := .name "Integer" } :=
    .intro ⟨by simp, fun _ _ => trivial⟩ (by simp) (by simp) (by simp)
  refine .intro ⟨List.forall_mem_singleton.2 h, fun _ _ => trivial⟩ ?_ (by simp [oneField])
    (by simp [oneField])
  exact List.forall_mem_singleton.2 hleaf

theorem isNamed_replying : ∀ m ∈ replying.modules, m.IsNamed (plainly fun _ => True) := by
  have hreply : reply.HasParts (plainly fun _ => True) :=
    .intro ⟨by simp [reply], fun _ _ => trivial⟩ (by simp [reply]) (by simp [reply])
      fun r hr => Option.some.inj hr ▸ hasParts_oneField (by decide)
  have hmodule : isPlainName "app" = true := by decide
  have hevent : isHyphenated "did-finish-load" = true := by decide
  have hinfo : isPlainName "info" = true := by decide
  have hname : isPlainName "reply" = true := by decide
  rw [replying, List.forall_mem_singleton]
  refine ⟨hmodule, (fun c hc => by cases hc), by simp, by simp, ?_⟩
  rw [List.nil_append, List.forall_mem_singleton]
  refine ⟨hevent, List.forall_mem_cons.2 ⟨⟨hinfo, hasParts_oneField (by decide)⟩, ?_⟩⟩
  exact List.forall_mem_singleton.2 ⟨hname, hreply⟩

/-- The argument that is an object has an interface whose name is an identifier.  The result of the
callback has one named `Did-finish-load`. -/
theorem plainNames_of_build_reply :
    (∀ m ∈ replying.modules, m.IsNamed (plainly fun _ => True)) ∧
    ∃ d, replying.build = .ok d ∧
      d.interfaces.map Interface.name = ["Info", "Did-finish-load"] ∧
      isPlainName "Info" = true ∧ isPlainName "Did-finish-load" = false ∧
      ∀ i ∈ d.interfaces, startsCapital i.name = true ∧
        (isPlainName i.name = true ↔ isAsciiText i.name = true ∧
          ∀ m ∈ replying.modules, ∀ event ∈ m.instanceEvents ++ m.events, event.isLeaky = true →
            ¬ (upperFirst event.name).toList <:+: i.name.toList) := by
  have hnames : replying.build.toOption.map (fun d => d.interfaces.map Interface.name)
      = some ["Info", "Did-finish-load"] := by
    decide +kernel
  obtain ⟨d, hd, hinterfaces⟩ := exists_of_map_build hnames
  exact ⟨isNamed_replying, d, hd, hinterfaces, by decide, by decide,
    (plainNames_of_build hd isNamed_replying).1⟩

end Ambient
