import Ambient.Proofs.Interner.Choice
import Ambient.Proofs.Member.Lines
import Ambient.Proofs.Shape.Expansion
import Ambient.Proofs.Shape.Spelling
import Ambient.Proofs.Synthesis.Yields
import Ambient.Proofs.Text.LineFeeds

/-!
# The lines of members, cut at line feeds

Where no name, type, possible value or address in the metadata has a line feed, every type is on one
line, and so are the names and the bodies of all interfaces.  Only a listener may take several
lines: its arguments stand one under the other, and so do the lines of their comments.  All of these
begin with a margin that is wider than that of a body.

## What is here

* `Param.IsFlat`, `Method.IsFlat`, `Event.IsFlat`, `Module.IsFlat` — metadata without line feeds,
  descriptions left aside.
* `isFlat_mapType`, `isFlat_chosen` — spellings of types, and names of interfaces.
* `yields_valueType`, `yields_interfaceLines` — types and bodies.
* `yields_listener` — the type of a listener, the only one that takes several lines.
* `AllHang`, `yields_memberLines` — the lines of a module hang.
-/

set_option autoImplicit false

namespace Ambient

open Signature Synthesis Text

/-! ## Metadata without line feeds -/

/-- No line feed is in the name, the type and the possible values of the value, nor in those of its
parts. -/
def Param.IsFlat (p : Param) : Prop :=
  p.Every fun q => Ambient.IsFlat q.name ∧ (∀ n ∈ q.type.names, Ambient.IsFlat n) ∧
    ∀ v ∈ q.possibleValues, Ambient.IsFlat v.value

/-- No line feed is in the name of the method, its parameters and its result. -/
structure Method.IsFlat (method : Method) : Prop where
  name : Ambient.IsFlat method.name
  parameters : ∀ p ∈ method.parameters, p.IsFlat
  returns : ∀ r, method.returns = some r → r.IsFlat

/-- No line feed is in the name of the event and the arguments of its listeners. -/
structure Event.IsFlat (event : Event) : Prop where
  name : Ambient.IsFlat event.name
  arguments : ∀ p ∈ event.arguments, p.IsFlat

/-- No line feed is in the name and the address of the module, nor in its members. -/
structure Module.IsFlat (m : Module) : Prop where
  name : Ambient.IsFlat m.name
  websiteUrl : Ambient.IsFlat m.websiteUrl
  construction : ∀ c, m.construction = some c → ∀ p ∈ c.parameters, p.IsFlat
  methods : ∀ method ∈ m.staticMethods ++ m.methods ++ m.instanceMethods, method.IsFlat
  properties : ∀ p ∈ m.instanceProperties ++ m.properties, p.IsFlat
  events : ∀ event ∈ m.instanceEvents ++ m.events, event.IsFlat

/-- No line feed is in the spellings. -/
def TypeMap.IsFlat (types : TypeMap) : Prop :=
  ∀ e ∈ types.spellings.entries, Ambient.IsFlat e.2

/-! ## Spellings -/

theorem isFlat_arrayOf {element : String} (h : IsFlat element) : IsFlat (arrayOf element) := by
  rw [arrayOf]
  split
  · exact (IsFlat.append (by decide) h).append (by decide)
  · exact h.append (by decide)

theorem isFlat_arrayOfDepth {element : String} (h : IsFlat element) (depth : Nat) :
    IsFlat (arrayOfDepth depth element) := by
  induction depth with
  | zero => exact h
  | succ depth ih => exact isFlat_arrayOf ih

/-- The element of an array type is part of its name. -/
theorem mem_of_mem_peelArrays {s : List Char} {c : Char} (h : c ∈ (peelArrays s).2) : c ∈ s := by
  fun_induction peelArrays s with
  | case1 rest depth element hpeel ih =>
    rw [hpeel] at ih
    have hrest := (List.dropWhile_sublist _).subset (ih h)
    exact List.mem_cons_of_mem _ (List.mem_cons_of_mem _ hrest)
  | case2 s hs => exact h

section

variable {types : TypeMap} (htypes : types.IsFlat)

include htypes

theorem isFlat_mapName {name : String} (h : IsFlat name) : IsFlat (types.mapName name) := by
  rw [TypeMap.mapName]
  refine isFlat_arrayOfDepth ?_ _
  rw [TypeMap.mapElement]
  split
  · decide
  · cases hget : types.get? _ with
    | some spelling => exact htypes _ (Dictionary.get?_eq_some_iff.1 hget)
    | none =>
      intro hmem
      rw [Option.getD_none, String.toList_ofList, List.mem_reverse] at hmem
      exact h (mem_of_mem_trim (List.mem_reverse.1 (mem_of_mem_peelArrays hmem)))

/-- The spelling of a type is on one line if its names are. -/
theorem isFlat_mapType {type : TypeRef} (h : ∀ n ∈ type.names, IsFlat n) :
    IsFlat (types.mapType type) := by
  induction type using TypeRef.induct with
  | name n =>
    exact isFlat_mapName htypes (h n (by rw [TypeRef.names]; exact List.mem_singleton_self n))
  | union members ih =>
    rw [TypeMap.mapType, TypeMap.mapTypes_eq_map]
    refine IsFlat.intercalate (by decide) (List.forall_mem_map.2 fun m hm => ih m hm fun n hn => ?_)
    rw [TypeRef.names] at h
    exact h n (mem_namesOfMembers.2 ⟨m, hm, hn⟩)

end

/-! ## Names of interfaces -/

/-- A name is on one line if the words in front of it are. -/
theorem isFlat_chosen {naming : Naming} (hseed : IsFlat naming.seed)
    (hfallback : IsFlat naming.fallback) (s : Interner) (shapeName : String) :
    IsFlat (chosen s shapeName naming) := by
  have hsuffix := isFlat_camelCase shapeName
  have hprimary : IsFlat (Interner.primaryName naming.seed (upperFirst (camelCase shapeName))) := by
    rw [Interner.primaryName]
    split
    · decide
    · exact hseed.append hsuffix
  have hchooses := s.chooses naming.seed naming.fallback (upperFirst (camelCase shapeName))
  rw [chosen]
  generalize s.choose naming.seed naming.fallback (upperFirst (camelCase shapeName)) = name
    at hchooses ⊢
  cases hchooses with
  | first free => exact hprimary
  | second taken given free => exact hfallback.append hsuffix
  | numbered n taken noSecond two free least =>
    exact hprimary.append fun hmem =>
      absurd (Interner.isDigit_of_mem_numeral hmem) (by decide)

/-- No line feed is in the words that the site has for names. -/
structure Site.IsFlat (site : Site) : Prop where
  owner : Ambient.IsFlat site.owner
  member : Ambient.IsFlat site.member
  seed : ∀ words, site.seed = some words → Ambient.IsFlat words

/-- No line feed is in the words in front of a name. -/
structure Naming.IsFlat (naming : Naming) : Prop where
  seed : Ambient.IsFlat naming.seed
  fallback : Ambient.IsFlat naming.fallback

namespace Naming

/-- The words are those of the naming that is given. -/
theorem IsFlat.given {naming : Naming} (h : naming.IsFlat) :
    ∀ n, some naming = some n → n.IsFlat := fun _ hn => Option.some.inj hn ▸ h

theorem isFlat_ofParameter {site : Site} (h : site.IsFlat) (name : String) :
    (ofParameter site name).IsFlat := by
  rw [ofParameter]
  split
  · exact ⟨(isFlat_upperFirst h.owner).append (isFlat_upperFirst h.member),
      (by decide : Ambient.IsFlat "")⟩
  · refine ⟨?_, isFlat_upperFirst h.member⟩
    cases hseed : site.seed with
    | none => exact (by decide : Ambient.IsFlat "")
    | some words => exact isFlat_upperFirst (h.seed words hseed)

theorem isFlat_ofResult {member : String} (h : Ambient.IsFlat member) : (ofResult member).IsFlat :=
  ⟨isFlat_upperFirst h, (by decide : Ambient.IsFlat "")⟩

theorem isFlat_ofField {owner : String} (h : Ambient.IsFlat owner) : (ofField owner).IsFlat :=
  ⟨(by decide : Ambient.IsFlat ""), h⟩

theorem isFlat_ofArgument (event name : String) : (ofArgument event name).IsFlat := by
  rw [ofArgument]
  split
  · exact ⟨isFlat_camelCase event, (by decide : Ambient.IsFlat "")⟩
  · exact ⟨(by decide : Ambient.IsFlat ""), isFlat_camelCase event⟩

end Naming

/-! ## Types -/

theorem isFlat_optionalMark (p : Param) : IsFlat (optionalMark p) := by
  rw [optionalMark]
  split <;> decide

theorem isFlat_collected {type : String} (h : IsFlat type) (collection : Bool) :
    IsFlat (collected collection type) := by
  rw [collected]
  split
  · exact isFlat_arrayOf h
  · exact h

theorem isFlat_parameterText {p : Param} {type : String} (hname : IsFlat p.name)
    (htype : IsFlat type) : IsFlat (parameterText p type) :=
  (((isFlat_parameterName hname).append (isFlat_optionalMark p)).append (by decide)).append htype

/-- A statement of an interface, and likewise the line of a property. -/
theorem isFlat_statement {p : Param} {modifier type : String} (hmodifier : IsFlat modifier)
    (hname : IsFlat p.name) (htype : IsFlat type) :
    IsFlat (modifier ++ p.name ++ optionalMark p ++ ": " ++ type ++ ";") :=
  ((((hmodifier.append hname).append (isFlat_optionalMark p)).append (by decide)).append
    htype).append (by decide)

theorem Param.IsFlat.name {p : Param} (h : p.IsFlat) : Ambient.IsFlat p.name := h.here.1

section

variable {types : TypeMap}

theorem yields_parameterTexts {site : Site} {ps : List Param} (hflat : ∀ p ∈ ps, p.IsFlat)
    (htype : ∀ p ∈ ps, ∀ naming : Naming, naming.IsFlat →
      Yields IsFlat IsFlat (valueType types site (some naming) p)) (hsite : site.IsFlat) :
    Yields IsFlat (fun texts => ∀ t ∈ texts, IsFlat t) (parameterTexts types site ps) := by
  induction ps with
  | nil => exact .result (List.forall_mem_nil _)
  | cons p rest ih =>
    rw [List.forall_mem_cons] at hflat htype
    rw [parameterTexts]
    refine .guarded _ _ ((htype.1 _ (Naming.isFlat_ofParameter hsite p.name)).seq fun type ht => ?_)
    exact (ih hflat.2 htype.2).andReturn fun texts hrest =>
      List.forall_mem_cons.2 ⟨isFlat_parameterText hflat.1.name ht, hrest⟩

/-- **The body of an interface** has each of its lines on one line. -/
theorem yields_interfaceLines {owner : String} {fields : List Param}
    (hflat : ∀ p ∈ fields, p.IsFlat)
    (htype : ∀ p ∈ fields, ∀ (site : Site) (naming : Naming), site.IsFlat → naming.IsFlat →
      Yields IsFlat IsFlat (valueType types site (some naming) p)) (howner : IsFlat owner) :
    Yields IsFlat (fun lines => ∀ line ∈ lines, IsFlat line)
      (interfaceLines types owner fields) := by
  have hsite : Site.IsFlat ⟨owner, owner, none⟩ := ⟨howner, howner, nofun⟩
  induction fields with
  | nil => exact .result (List.forall_mem_nil _)
  | cons p rest ih =>
    rw [List.forall_mem_cons] at hflat htype
    rw [interfaceLines]
    refine .guarded _ _ ((htype.1 _ _ hsite (Naming.isFlat_ofField howner)).seq fun type ht => ?_)
    refine (ih hflat.2 htype.2).andReturn fun lines hrest => ?_
    have hfield : IsFlat (fieldText p type) := by
      have hline := isFlat_statement (p := p) (by decide : IsFlat "") hflat.1.name ht
      rwa [String.empty_append] at hline
    exact List.forall_mem_append.2
      ⟨isFlat_ofDescription p.description, List.forall_mem_cons.2 ⟨hfield, hrest⟩⟩

variable (htypes : types.IsFlat)

include htypes

/-- The type of a value whose interface is not named there. -/
theorem yields_innerType {p : Param} (h : p.IsFlat) {site : Site} (hsite : site.IsFlat)
    (hparts : ∀ q, q ∈ p.parameters ∨ p.returns = some q → ∀ naming : Naming, naming.IsFlat →
      Yields IsFlat IsFlat (valueType types site (some naming) q)) :
    Yields IsFlat IsFlat (innerType types site p) := by
  rw [innerType]
  split
  · refine .result (isFlat_collected (IsFlat.intercalate (by decide) ?_) _)
    refine List.forall_mem_map.2 fun v hv => ?_
    exact (IsFlat.append (by decide) (h.here.2.2 v hv)).append (by decide)
  · split
    · have hresult : Yields IsFlat IsFlat (resultType types site p.returns) := by
        cases hreturns : p.returns with
        | none => exact .result (by decide)
        | some r => exact hparts r (Or.inr hreturns) _ (Naming.isFlat_ofResult hsite.member)
      refine (yields_parameterTexts (fun q hq => h.of_mem_parameters hq)
        (fun q hq => hparts q (Or.inl hq)) hsite).seq fun taken ht => ?_
      refine hresult.andReturn fun result hr => isFlat_collected ?_ _
      have hlist := (by decide : IsFlat ", ").intercalate ht
      exact ((IsFlat.append (by decide) hlist).append (by decide)).append hr
    · refine .result ?_
      have htype := isFlat_mapType htypes h.here.2.1
      rw [TypeMap.mapCollection]
      split
      · exact isFlat_arrayOf htype
      · exact htype

/-- **The type of a value is on one line**, whether or not its interface is named there. -/
theorem yields_valueType {p : Param} (h : p.IsFlat) {site : Site} (hsite : site.IsFlat)
    {naming : Option Naming} (hnaming : ∀ n, naming = some n → n.IsFlat) :
    Yields IsFlat IsFlat (valueType types site naming p) := by
  induction p using Param.induct generalizing site naming with
  | step p properties parameters returns =>
    have hinner : Yields IsFlat IsFlat (innerType types site p) := by
      refine yields_innerType htypes h hsite fun q hq naming hn => ?_
      rcases hq with hq | hq
      · exact parameters q hq (h.of_mem_parameters hq) hsite hn.given
      · exact returns q hq (h.of_returns hq) hsite hn.given
    cases hshape : p.isObjectShape with
    | false => rwa [valueType_of_not_isObjectShape _ _ _ hshape]
    | true =>
      cases naming with
      | none => rwa [valueType_none]
      | some naming =>
        obtain ⟨hseed, hfallback⟩ := hnaming naming rfl
        rw [valueType_of_isObjectShape _ _ _ hshape, internShape]
        refine Yields.andReturn (.interned (fun s => isFlat_chosen hseed hfallback s p.name)
          fun owner howner => ?_) fun name hname => isFlat_collected hname _
        exact yields_interfaceLines (fun q hq => h.of_mem_properties hq)
          (fun q hq site naming hs hn => properties q hq (h.of_mem_properties hq) hs hn.given)
          howner

theorem yields_parameterList {site : Site} (hsite : site.IsFlat) {ps : List Param}
    (h : ∀ p ∈ ps, p.IsFlat) : Yields IsFlat IsFlat (parameterList types site ps) := by
  refine (yields_parameterTexts h (fun p hp naming hnaming => ?_) hsite).andReturn
    fun texts htexts => IsFlat.intercalate (by decide) htexts
  exact yields_valueType htypes (h p hp) hsite hnaming.given

theorem yields_resultSuffix {site : Site} (hsite : site.IsFlat) {method : Method}
    (h : method.IsFlat) : Yields IsFlat IsFlat (resultSuffix types site method) := by
  have himplicit : IsFlat (implicitResult method.name) := by
    rw [implicitResult]
    split <;> decide
  refine Yields.andReturn (P := IsFlat) ?_ fun type ht => IsFlat.append (by decide) ht
  rw [returnType]
  split
  · exact .result himplicit
  · rename_i p hp
    split
    · exact .result himplicit
    · exact yields_valueType htypes (h.returns p hp) hsite (Naming.isFlat_ofResult h.name).given

end

/-! ## Listeners -/

theorem margin_prefix_listenerIndent (event : String) :
    margin <+: (listenerIndent event).toList := by
  rw [listenerIndent, String.toList_ofList]
  exact List.prefix_replicate_iff.2 ⟨by simp [margin, listenerMargin], rfl⟩

theorem isFlat_listenerIndent (event : String) : IsFlat (listenerIndent event) := by
  rw [IsFlat, listenerIndent, String.toList_ofList, List.mem_replicate]
  exact fun h => absurd h.2 (by decide)

/-- A line is broken in front of an argument, and behind a line of its comment. -/
theorem hangs_lineFeed_listenerIndent (event : String) : Hangs ("\n" ++ listenerIndent event) :=
  (isFlat_listenerIndent event).hangs.lineFeed (margin_prefix_listenerIndent event)

theorem hangs_argumentComment (event : String) (description : Option String) :
    Hangs (argumentComment (listenerIndent event) description) := by
  refine Hangs.join (List.forall_mem_map.2 fun line hline => ?_)
  rw [String.append_assoc]
  exact (isFlat_ofDescription description line hline).hangs.append
    (hangs_lineFeed_listenerIndent event)

/-- **The type of a listener** takes a line for each argument and for each line of its comment, and
these lines hang. -/
theorem yields_listener {types : TypeMap} (htypes : types.IsFlat) {owner : String}
    (howner : IsFlat owner) {event : Event} (h : event.IsFlat) :
    Yields IsFlat Hangs (listener types owner event) := by
  have hsite : Site.IsFlat ⟨owner, event.name, none⟩ := ⟨howner, h.name, nofun⟩
  have hbreak : Hangs (",\n" ++ listenerIndent event.name) := by
    rw [show ",\n" = "," ++ "\n" from rfl, String.append_assoc]
    exact (by decide : IsFlat ",").hangs.append (hangs_lineFeed_listenerIndent event.name)
  have hargument (p : Param) (hp : p ∈ event.arguments) :
      Yields IsFlat Hangs (argumentText types owner event p) := by
    have hflat := h.arguments p hp
    refine .guarded _ _ ((yields_valueType htypes hflat hsite
      (Naming.isFlat_ofArgument event.name p.name).given).andReturn fun type ht => ?_)
    exact (hangs_argumentComment event.name p.description).append
      (isFlat_parameterText hflat.name ht).hangs
  refine (Yields.forEach hargument).andReturn fun arguments harguments => ?_
  exact ((by decide : IsFlat "(").hangs.append (hbreak.intercalate harguments)).append
    (by decide : IsFlat ") => void").hangs

/-! ## Members -/

/-- Every line of each of the texts but the first begins with the margin. -/
def AllHang (lines : List String) : Prop := ∀ line ∈ lines, Hangs line

theorem AllHang.append {lines more : List String} (h : AllHang lines) (hmore : AllHang more) :
    AllHang (lines ++ more) := List.forall_mem_append.2 ⟨h, hmore⟩

/-- A member is written as a comment and a text. -/
theorem allHang_commented (description : Option String) {text : String} (h : Hangs text) :
    AllHang (DocComment.ofDescription description ++ [text]) :=
  AllHang.append (fun line hline => (isFlat_ofDescription description line hline).hangs)
    (List.forall_mem_singleton.2 h)

theorem yields_collect {α : Type} {name : α → String} {Q : String → Prop}
    {lines : α → Synthesis (List String)} {members : List α}
    (h : ∀ a ∈ members, Yields Q AllHang (lines a)) :
    Yields Q AllHang (collect lines (sortedByName name members)) := by
  refine Yields.andReturn (.forEach (R := AllHang) fun a ha => h a (mem_sortedByName.1 ha))
    fun groups hgroups line hline => ?_
  obtain ⟨group, hgroup, hmem⟩ := List.mem_flatten.1 hline
  exact hgroups group hgroup line hmem

section

variable {types : TypeMap} (htypes : types.IsFlat) {m : Module} (hname : IsFlat m.name)

include htypes hname

theorem yields_eventLines {event : Event} (h : event.IsFlat) :
    Yields IsFlat AllHang (eventLines types m event) := by
  rw [eventLines]
  refine .guarded _ _ ((yields_listener htypes hname h).andReturn fun text htext => ?_)
  have hopener : IsFlat ("on(event: '" ++ event.name ++ "', listener: ") :=
    (IsFlat.append (by decide) h.name).append (by decide)
  exact allHang_commented event.description
    ((hopener.hangs.append htext).append (by decide : IsFlat "): this;").hangs)

theorem yields_methodLines {modifier : String} (hmodifier : IsFlat modifier) {seed : Option String}
    (hseed : ∀ words, seed = some words → IsFlat words) {method : Method} (h : method.IsFlat) :
    Yields IsFlat AllHang (methodLines types m modifier seed method) := by
  have hsite : Site.IsFlat ⟨m.name, method.name, seed⟩ := ⟨hname, h.name, hseed⟩
  refine .guarded _ _ ((yields_parameterList htypes hsite h.parameters).seq fun taken htaken => ?_)
  have hline (result : String) (hresult : IsFlat result) :
      AllHang (DocComment.ofDescription method.description ++
        [modifier ++ method.name ++ "(" ++ taken ++ ")" ++ result ++ ";"]) := by
    have hopener := ((hmodifier.append h.name).append (by decide : IsFlat "(")).append htaken
    exact allHang_commented method.description
      (((hopener.append (by decide)).append hresult).append (by decide)).hangs
  dsimp only
  split
  · exact (Yields.result (by decide)).andReturn hline
  · exact (yields_resultSuffix htypes hsite h).andReturn hline

theorem yields_constructorLines (h : m.IsFlat) :
    Yields IsFlat AllHang (constructorLines types m) := by
  rw [constructorLines]
  split
  · exact .result (List.forall_mem_nil _)
  · rename_i c hc
    refine yields_methodLines htypes hname (by decide) (fun words hwords => ?_)
      ⟨(by decide : IsFlat "constructor"), h.construction c hc, fun r hr => by cases hr⟩
    exact Option.some.inj hwords ▸ hname.append (by decide)

/-- A property is written in the same way, wherever its interface is named. -/
theorem yields_property {p : Param} (h : p.IsFlat) {modifier : String}
    (hmodifier : IsFlat modifier) {naming : Option Naming}
    (hnaming : ∀ n, naming = some n → n.IsFlat) (place : MissingName.Place) :
    Yields IsFlat AllHang (do
      if p.name.isEmpty then throw (.within m.name place)
      let type ← valueType types ⟨m.name, p.name, none⟩ naming p
      return [propertyLine modifier p type]) := by
  have hsite : Site.IsFlat ⟨m.name, p.name, none⟩ := ⟨hname, h.name, nofun⟩
  refine .guarded _ _ ((yields_valueType htypes h hsite hnaming).andReturn fun type ht =>
    List.forall_mem_singleton.2 ?_)
  exact (isFlat_statement hmodifier h.name ht).hangs

end

/-- **The lines of a module hang**, and the interfaces for its shapes are on one line each. -/
theorem yields_memberLines {types : TypeMap} (htypes : types.IsFlat) (roster : Roster) {m : Module}
    (h : m.IsFlat) : Yields IsFlat AllHang (memberLines types roster m) := by
  have hname := h.name
  have hnone : ∀ n : Naming, none = some n → n.IsFlat := nofun
  have hempty : Naming.IsFlat {} := ⟨(by decide : IsFlat ""), (by decide : IsFlat "")⟩
  have hmodifier : IsFlat (roster.modifier m) := by
    rw [Roster.modifier]
    split <;> decide
  have hmethods {modifier : String} (hmodifier : IsFlat modifier) {members : List Method}
      (hmembers : ∀ method ∈ members, method.IsFlat) :
      Yields IsFlat AllHang
        (collect (methodLines types m modifier none) (sortedByName Method.name members)) :=
    yields_collect fun method hmethod =>
      yields_methodLines htypes hname hmodifier (by simp) (hmembers method hmethod)
  have hall := h.methods
  rw [List.forall_mem_append, List.forall_mem_append] at hall
  have hvalues := h.properties
  rw [List.forall_mem_append] at hvalues
  rw [memberLines]
  refine (yields_collect fun event hevent =>
    yields_eventLines htypes hname (h.events event hevent)).seq fun events he => ?_
  refine (yields_constructorLines htypes hname h).seq fun construction hc => ?_
  refine (hmethods (by decide) hall.1.1).seq fun staticMethods hs => ?_
  refine (hmethods hmodifier hall.1.2).seq fun methods hm => ?_
  refine (hmethods (by decide) hall.2).seq fun instanceMethods hi => ?_
  refine (yields_collect fun p hp => yields_property htypes hname (hvalues.1 p hp)
    (by decide : IsFlat "") hnone .instanceProperty).seq fun instanceProperties hv => ?_
  refine (yields_collect fun p hp => yields_property htypes hname (hvalues.2 p hp) hmodifier
    hempty.given .property).andReturn fun properties hp => ?_
  exact (((((he.append hc).append hs).append hm).append hi).append hv).append hp

end Ambient
