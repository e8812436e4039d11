import Mathlib.Data.List.Nodup
import Ambient.Metadata.Decode
import Ambient.Proofs.Metadata.Encoding

/-!
# Whatever way a module is written, it is read back

An object is read field by field, in whatever order its keys stand, into a record in which every
field has its default.  Each field that is read puts one thing in one place, so the order does not
matter, and what is left out stays as it was.

## What is here

* `Layout.Fills` — a field of a layout puts one thing into every record, and nothing new if the
  object leaves it out; `Layout.AreCopies` — the order in which things are put does not matter.
* `Layout.decode_object` — what an object is read as.
* `Param.decode_of_encoding`, … `Module.decode_of_encoding` — one for each record.
* `recovers_module` — every module is read back from each of the values that write it.
-/

set_option autoImplicit false

namespace Ambient

open Json

/-! ## Values, options and lists -/

namespace Json

variable {α : Type} {W : Json → α → Prop} {decode : Json → Decoded α} {value : Json}

theorem decodeString_of_isString {s : String} (h : IsString value s) :
    decodeString value = .ok s := by
  cases h
  rfl

theorem decodeBool_of_isBool {b : Bool} (h : IsBool value b) : decodeBool value = .ok b := by
  cases h
  rfl

/-- A value that may be absent is read back if nothing is written `null`. -/
theorem decodeOption_of_isOption {x : Option α} (hnull : ∀ y, ¬ W .null y)
    (hread : ∀ value y, W value y → decode value = .ok y) (h : IsOption W value x) :
    decodeOption decode value = .ok x := by
  cases h with
  | absent => rfl
  | present h =>
    have hvalue := hread _ _ h
    cases value with
    | null => exact absurd h (hnull _)
    | _ => simp only [decodeOption, hvalue, Except.map]

theorem mapM_of_forall₂ {items : List Json} {xs : List α} (h : List.Forall₂ W items xs)
    (hread : ∀ value x, W value x → decode value = .ok x) : items.mapM decode = .ok xs := by
  induction h with
  | nil => rfl
  | cons hvalue _ ih =>
    rw [List.mapM_cons, hread _ _ hvalue, ih]
    rfl

theorem decodeList_of_isList {xs : List α} (hread : ∀ value x, W value x → decode value = .ok x)
    (h : IsList W value xs) : decodeList decode value = .ok xs := by
  cases h with
  | null => rfl
  | array h => exact mapM_of_forall₂ h hread

end Json

/-! ## Objects -/

namespace Layout

variable {α β : Type} {layout : Layout α} {given : List (String × Json)}

/-- What an object has under the key of a field puts `step` into every record, and if it has
nothing there, then `step` is in the blank record already. -/
def Fills (layout : Layout α) (given : List (String × Json)) (f : Field α) (step : α → α) : Prop :=
  match given.lookup f.key with
  | some value => ∀ record, f.content.put value (fun _ => decode layout value)
      (fun _ => decodeMany layout value) record = .ok (step record)
  | none => step layout.blank = layout.blank

/-- Each of the steps puts one thing in a place of its own, so they can be made in any order, and
more than once. -/
structure AreCopies (steps : List (α → α)) : Prop where
  again : ∀ s ∈ steps, ∀ record, s (s record) = s record
  commute : steps.Pairwise fun s t => ∀ record, s (t record) = t (s record)

/-- All steps, one after the other. -/
def fill (steps : List (α → α)) (record : α) : α := steps.foldl (fun r s => s r) record

namespace AreCopies

variable {steps : List (α → α)} {s t : α → α}

theorem commute_of_mem (h : AreCopies steps) (hs : s ∈ steps) (ht : t ∈ steps) (record : α) :
    s (t record) = t (s record) :=
  h.commute.forall_of_forall_of_flip (fun _ _ _ => rfl)
    (h.commute.imp fun hst r => (hst r).symm) hs ht record

end AreCopies

/-- A step that is made before all of them changes nothing. -/
theorem fill_step {steps : List (α → α)} (h : AreCopies steps) {s : α → α} (hs : s ∈ steps)
    (record : α) : fill steps (s record) = fill steps record := by
  suffices ∀ rest : List (α → α), (∀ t ∈ rest, t ∈ steps) → s ∈ rest → ∀ record,
      fill rest (s record) = fill rest record from this steps (fun _ ht => ht) hs record
  intro rest
  induction rest with
  | nil => exact fun _ hnil => absurd hnil List.not_mem_nil
  | cons t rest ih =>
    intro hsteps hmem record
    have hrest : ∀ u ∈ rest, u ∈ steps := fun u hu => hsteps u (List.mem_cons_of_mem _ hu)
    rcases List.mem_cons.1 hmem with rfl | hmem
    · show fill rest (s (s record)) = fill rest (s record)
      rw [h.again s hs]
    · show fill rest (t (s record)) = fill rest (t record)
      rw [h.commute_of_mem (hsteps t (List.mem_cons_self ..)) hs, ih hrest hmem]

theorem fill_eq_self {steps : List (α → α)} {record : α} (h : ∀ s ∈ steps, s record = record) :
    fill steps record = record := by
  induction steps with
  | nil => rfl
  | cons s rest ih =>
    show fill rest (s record) = record
    rw [h s (List.mem_cons_self ..), ih fun t ht => h t (List.mem_cons_of_mem _ ht)]

/-! ### Reading an object -/

variable {steps : List (α → α)}

theorem field?_eq_some {key : String} {f : Field α} (h : layout.field? key = some f) :
    f ∈ layout.fields ∧ f.key = key :=
  ⟨List.mem_of_find?_eq_some h, by simpa using List.find?_some h⟩

theorem exists_step (h : List.Forall₂ (Fills layout given) layout.fields steps) {f : Field α}
    (hf : f ∈ layout.fields) : ∃ s ∈ steps, (f, s) ∈ layout.fields.zip steps := by
  rw [← List.map_fst_zip (Nat.le_of_eq h.length_eq)] at hf
  obtain ⟨⟨f, s⟩, hfs, rfl⟩ := List.mem_map.1 hf
  exact ⟨s, (List.of_mem_zip hfs).2, hfs⟩

theorem exists_field (h : List.Forall₂ (Fills layout given) layout.fields steps) {s : α → α}
    (hs : s ∈ steps) : ∃ f, (f, s) ∈ layout.fields.zip steps := by
  rw [← List.map_snd_zip (Nat.le_of_eq h.length_eq.symm)] at hs
  obtain ⟨⟨f, s⟩, hfs, rfl⟩ := List.mem_map.1 hs
  exact ⟨f, hfs⟩

/-- What is put into a record if everything that the rest of the object leaves out is there
already. -/
theorem decodeFields_eq (hfields : (layout.fields.map Field.key).Nodup)
    (hfills : List.Forall₂ (Fills layout given) layout.fields steps) (hsteps : AreCopies steps)
    {rest : List (String × Json)} (hkeys : HasDistinctKeys rest)
    (hrest : ∀ e ∈ rest, given.lookup e.1 = some e.2) {record : α}
    (hrecord : ∀ f s, (f, s) ∈ layout.fields.zip steps → f.key ∉ rest.map Prod.fst →
      s record = record) :
    decodeFields layout rest record = .ok (fill steps record) := by
  induction rest generalizing record with
  | nil =>
    rw [decodeFields, fill_eq_self]
    intro s hs
    obtain ⟨f, hf⟩ := exists_field hfills hs
    exact hrecord f s hf List.not_mem_nil
  | cons e rest ih =>
    obtain ⟨key, value⟩ := e
    have hrestKeys : HasDistinctKeys rest := (List.nodup_cons.1 hkeys).2
    have hvalue : given.lookup key = some value := hrest _ (List.mem_cons_self ..)
    have hrest' : ∀ e ∈ rest, given.lookup e.1 = some e.2 :=
      fun e he => hrest e (List.mem_cons_of_mem _ he)
    rw [decodeFields]
    cases hfield : layout.field? key with
    | none =>
      refine ih hrestKeys hrest' fun f s hs hf => hrecord f s hs ?_
      have hne : f.key ≠ key := by
        simpa using List.find?_eq_none.1 hfield f (List.of_mem_zip hs).1
      simpa [hne] using hf
    | some f =>
      obtain ⟨hf, rfl⟩ := field?_eq_some hfield
      obtain ⟨s, hs, hfs⟩ := exists_step hfills hf
      have hput (g : Field α) (t : α → α) (hg : (g, t) ∈ layout.fields.zip steps)
          (hgkey : g.key = f.key) (r : α) : g.content.put value (fun _ => decode layout value)
            (fun _ => decodeMany layout value) r = .ok (t r) := by
        have hfill := List.forall₂_zip hfills hg
        rw [Fills, hgkey, hvalue] at hfill
        exact hfill r
      simp only [hput f s hfs rfl]
      show decodeFields layout rest (s record) = _
      rw [ih hrestKeys hrest', fill_step hsteps hs]
      -- what is left out of the rest is in the record: it was before, or it has just been put there
      intro g t hg hgrest
      by_cases hgkey : g.key = f.key
      · obtain rfl := List.inj_on_of_nodup_map hfields (List.of_mem_zip hg).1 hf hgkey
        have ht : s record = t record := by
          simpa only [Except.ok.injEq] using
            (hput g s hfs rfl record).symm.trans (hput g t hg rfl record)
        rw [ht, hsteps.again t (List.of_mem_zip hg).2]
      · rw [hsteps.commute_of_mem (List.of_mem_zip hg).2 hs,
          hrecord g t hg (by simp [hgkey, hgrest])]

theorem lookup_of_mem (hkeys : HasDistinctKeys given) {e : String × Json} (he : e ∈ given) :
    given.lookup e.1 = some e.2 := by
  induction given with
  | nil => cases he
  | cons d rest ih =>
    obtain ⟨hd, hkeys⟩ := List.nodup_cons.1 hkeys
    rcases List.mem_cons.1 he with rfl | he
    · exact List.lookup_cons_self
    · have hne : e.1 ≠ d.1 := fun heq => hd (heq ▸ List.mem_map_of_mem he)
      rw [List.lookup_cons, beq_false_of_ne hne, ih hkeys he]

/-- **What an object is read as.** -/
theorem decode_object (layout : Layout α) (hfields : (layout.fields.map Field.key).Nodup)
    (hkeys : HasDistinctKeys given) (hneeded : layout.missing? given = none)
    (hfills : List.Forall₂ (Fills layout given) layout.fields steps) (hsteps : AreCopies steps) :
    layout.decode (.object given) = .ok (fill steps layout.blank) := by
  have hread : decodeFields layout given layout.blank = .ok (fill steps layout.blank) := by
    refine decodeFields_eq hfields hfills hsteps hkeys (fun e he => lookup_of_mem hkeys he) ?_
    intro f s hs hf
    have hnone : given.lookup f.key = none := by
      refine List.lookup_eq_none_iff.2 fun e he => bne_iff_ne.2 fun heq => hf ?_
      exact List.mem_map.2 ⟨e, he, heq.symm⟩
    have hfill := List.forall₂_zip hfills hs
    rwa [Fills, hnone] at hfill
  rw [decode, hread]
  show layout.closeObject given _ = _
  rw [closeObject, hneeded]

theorem missing?_of_has {W : Json → β → Prop} {f : Field α} {x : β}
    (hfirst : layout.fields.head? = some f) (h : Has W (given.lookup f.key) x) :
    layout.missing? given = none := by
  obtain ⟨rest, hrest⟩ := List.head?_eq_some_iff.1 hfirst
  rw [missing?, hrest]
  cases layout.needsFirst with
  | false => rfl
  | true =>
    show (if (given.lookup f.key).isSome then none else some f.key) = none
    generalize given.lookup f.key = found at h ⊢
    cases h with
    | given => rfl

/-- An object without the field that must be given is no record. -/
theorem exists_error_of_missing {key : String} (h : layout.missing? given = some key) :
    ∃ e, layout.decode (.object given) = .error e := by
  rw [decode]
  cases decodeFields layout given layout.blank with
  | error e => exact ⟨e, rfl⟩
  | ok record =>
    refine ⟨.missingField key, ?_⟩
    show layout.closeObject given record = _
    rw [closeObject, h]

/-! ### The fields of an object -/

section Fields

variable {W : Json → β → Prop} {key : String} {x default : β}

/-- A field that must be given. -/
theorem fills_of_has {decode : Json → Decoded β} {store : β → α → α}
    (h : Has W (given.lookup key) x) (hread : ∀ value, W value x → decode value = .ok x) :
    Fills layout given (.of key decode store) (store x) := by
  show match given.lookup key with | some value => _ | none => _
  generalize given.lookup key = found at h ⊢
  cases h with
  | given hvalue =>
    intro record
    show (decode _).map _ = _
    rw [hread _ hvalue]
    rfl

/-- A field that may be left out. -/
theorem fills_of_mayHave {f : Field α} {step : α → α}
    (h : MayHave W default (given.lookup f.key) x)
    (hput : ∀ value, W value x → ∀ record, f.content.put value (fun _ => decode layout value)
      (fun _ => decodeMany layout value) record = .ok (step record))
    (hblank : x = default → step layout.blank = layout.blank) : Fills layout given f step := by
  rw [Fills]
  generalize given.lookup f.key = found at h ⊢
  cases h with
  | leftOut => exact hblank rfl
  | given hvalue => exact hput _ hvalue

/-- A field with a value of its own that may be left out. -/
theorem fills_own {decode : Json → Decoded β} {store : β → α → α}
    (h : MayHave W default (given.lookup key) x)
    (hread : ∀ value, W value x → decode value = .ok x)
    (hblank : store default layout.blank = layout.blank) :
    Fills layout given (.of key decode store) (store x) := by
  refine fills_of_mayHave h (fun value hvalue record => ?_) (fun hx => by rw [hx, hblank])
  show (decode value).map _ = _
  rw [hread value hvalue]
  rfl

end Fields

theorem decodeMany_of_isList {W : Json → α → Prop} {value : Json} {xs : List α}
    (hread : ∀ x ∈ xs, ∀ value, W value x → decode layout value = .ok x) (h : IsList W value xs) :
    decodeMany layout value = .ok xs := by
  cases h with
  | null => rfl
  | array h =>
    rw [decodeMany]
    induction h with
    | nil => rfl
    | cons hx _ ih =>
      rw [decodeAll, hread _ (List.mem_cons_self ..) _ hx,
        ih fun y hy => hread y (List.mem_cons_of_mem _ hy)]
      rfl

/-- A field with records of the same layout. -/
theorem fills_many {W : Json → α → Prop} {key : String} {xs : List α} {store : List α → α → α}
    (h : MayHave (IsList W) [] (given.lookup key) xs)
    (hread : ∀ x ∈ xs, ∀ value, W value x → decode layout value = .ok x)
    (hblank : store [] layout.blank = layout.blank) :
    Fills layout given ⟨key, .many store⟩ (store xs) := by
  refine fills_of_mayHave h (fun value hvalue record => ?_) (fun hx => by rw [hx, hblank])
  show (decodeMany layout value).map _ = _
  rw [decodeMany_of_isList hread hvalue]
  rfl

/-- A field with at most one record of the same layout. -/
theorem fills_one {W : Json → α → Prop} {key : String} {x : Option α} {store : Option α → α → α}
    (hnull : ∀ y, ¬ W .null y) (h : MayHave (IsOption W) none (given.lookup key) x)
    (hread : ∀ y, x = some y → ∀ value, W value y → decode layout value = .ok y)
    (hblank : store none layout.blank = layout.blank) :
    Fills layout given ⟨key, .one store⟩ (store x) := by
  refine fills_of_mayHave h (fun value hvalue record => ?_) (fun hx => by rw [hx, hblank])
  cases hvalue with
  | absent => rfl
  | present hvalue =>
    have hone := hread _ rfl _ hvalue
    cases value with
    | null => exact absurd hvalue (hnull _)
    | _ => simp only [Content.put, hone, Except.map]

end Layout

open Layout

/-! ## Types and values -/

theorem TypeRef.decode_of_encoding {value : Json} {type : TypeRef}
    (h : TypeRef.Encoding value type) : TypeRef.decode value = .ok type := by
  have hread : TypeRef.ofJson? value = some type := by
    induction type using TypeRef.induct generalizing value with
    | name n =>
      cases h
      rfl
    | union members ih =>
      cases h with
      | union h =>
        rename_i items
        have hitems : TypeRef.ofItems? items = some members := by
          induction h with
          | nil => rfl
          | cons hm _ ihs =>
            rw [TypeRef.ofItems?, ih _ (List.mem_cons_self ..) hm,
              ihs fun m hm => ih m (List.mem_cons_of_mem _ hm)]
            rfl
        rw [TypeRef.ofJson?, hitems]
        rfl
  rw [TypeRef.decode, hread]

theorem decodeDescription {value : Json} {s : Option String} (h : IsOption IsString value s) :
    decodeOption decodeString value = .ok s :=
  decodeOption_of_isOption nofun (fun _ _ => decodeString_of_isString) h

theorem PossibleValue.decode_of_encoding {value : Json} {p : PossibleValue}
    (h : PossibleValue.Encoding value p) : PossibleValue.decode value = .ok p := by
  obtain ⟨keys, value, description⟩ := h
  exact PossibleValue.layout.decode_object (by decide) keys (missing?_of_has rfl value)
    (.cons (fills_of_has value fun _ => decodeString_of_isString)
      (.cons (fills_own description (fun _ => decodeDescription) rfl) .nil))
    ⟨by simp, by simp⟩

theorem Param.decode_of_encoding {value : Json} {p : Param} (h : Param.Encoding value p) :
    Param.decode value = .ok p := by
  induction p using Param.induct generalizing value with
  | step p ihProperties ihParameters ihReturns =>
    obtain ⟨keys, name, type, description, required, collection, properties, parameters, returns,
      values⟩ := h
    have hread := Param.layout.decode_object (by decide) keys rfl
      (.cons (fills_own name (fun _ => decodeString_of_isString) rfl)
        (.cons (fills_own type (fun _ => TypeRef.decode_of_encoding) rfl)
        (.cons (fills_own description (fun _ => decodeDescription) rfl)
        (.cons (fills_own required
          (fun _ => decodeOption_of_isOption nofun fun _ _ => decodeBool_of_isBool) rfl)
        (.cons (fills_own collection (fun _ => decodeBool_of_isBool) rfl)
        (.cons (fills_many properties (fun q hq _ => ihProperties q hq) rfl)
        (.cons (fills_many parameters (fun q hq _ => ihParameters q hq) rfl)
        (.cons (fills_one nofun returns (fun q hq _ => ihReturns q hq) rfl)
        (.cons (fills_own values
          (fun _ => decodeList_of_isList fun _ _ => PossibleValue.decode_of_encoding) rfl)
          .nil)))))))))
      ⟨by simp, by simp⟩
    cases p
    exact hread

theorem decodeParams {value : Json} {ps : List Param} (h : IsList Param.Encoding value ps) :
    decodeList Param.decode value = .ok ps :=
  decodeList_of_isList (fun _ _ => Param.decode_of_encoding) h

/-! ## Members -/

theorem Method.decode_of_encoding {value : Json} {m : Method} (h : Method.Encoding value m) :
    Method.decode value = .ok m := by
  obtain ⟨keys, name, description, parameters, returns⟩ := h
  exact Method.layout.decode_object (by decide) keys (missing?_of_has rfl name)
    (.cons (fills_of_has name fun _ => decodeString_of_isString)
      (.cons (fills_own description (fun _ => decodeDescription) rfl)
      (.cons (fills_own parameters (fun _ => decodeParams) rfl)
      (.cons (fills_own returns
        (fun _ => decodeOption_of_isOption nofun fun _ _ => Param.decode_of_encoding) rfl) .nil))))
    ⟨by simp, by simp⟩

theorem Constructor.decode_of_encoding {value : Json} {c : Constructor}
    (h : Constructor.Encoding value c) : Constructor.decode value = .ok c := by
  obtain ⟨keys, description, parameters⟩ := h
  exact Constructor.layout.decode_object (by decide) keys rfl
    (.cons (fills_own description (fun _ => decodeDescription) rfl)
      (.cons (fills_own parameters (fun _ => decodeParams) rfl) .nil))
    ⟨by simp, by simp⟩

theorem Event.decode_of_encoding {value : Json} {e : Event} (h : Event.Encoding value e) :
    Event.decode value = .ok e := by
  obtain ⟨keys, name, description, arguments⟩ := h
  exact Event.layout.decode_object (by decide) keys (missing?_of_has rfl name)
    (.cons (fills_of_has name fun _ => decodeString_of_isString)
      (.cons (fills_own description (fun _ => decodeDescription) rfl)
      (.cons (fills_own arguments (fun _ => decodeParams) rfl) .nil)))
    ⟨by simp, by simp⟩

/-! ## Modules -/

theorem ModuleKind.decode_of_encoding {value : Json} {kind : ModuleKind}
    (h : ModuleKind.Encoding value kind) : ModuleKind.decode value = .ok kind := by
  cases h <;> rfl

theorem Availability.decode_of_encoding {value : Json} {a : Availability}
    (h : Availability.Encoding value a) : Availability.decode value = .ok a := by
  obtain ⟨keys, main, renderer⟩ := h
  exact Availability.layout.decode_object (by decide) keys rfl
    (.cons (fills_own main (fun _ => decodeBool_of_isBool) rfl)
      (.cons (fills_own renderer (fun _ => decodeBool_of_isBool) rfl) .nil))
    ⟨by simp, by simp⟩

theorem Module.decode_of_encoding {value : Json} {m : Module} (h : Module.Encoding value m) :
    Module.decode value = .ok m := by
  obtain ⟨keys, name, kind, description, websiteUrl, availability, construction, staticMethods,
    methods, instanceMethods, instanceProperties, properties, events, instanceEvents⟩ := h
  have hmethods (value : Json) (ms : List Method) (h : IsList Method.Encoding value ms) :
      decodeList Method.decode value = .ok ms :=
    decodeList_of_isList (fun _ _ => Method.decode_of_encoding) h
  have hevents (value : Json) (es : List Event) (h : IsList Event.Encoding value es) :
      decodeList Event.decode value = .ok es :=
    decodeList_of_isList (fun _ _ => Event.decode_of_encoding) h
  exact Module.layout.decode_object (by decide) keys (missing?_of_has rfl name)
    (.cons (fills_of_has name fun _ => decodeString_of_isString)
      (.cons (fills_own kind (fun _ => ModuleKind.decode_of_encoding) rfl)
      (.cons (fills_own description (fun _ => decodeDescription) rfl)
      (.cons (fills_own websiteUrl (fun _ => decodeString_of_isString) rfl)
      (.cons (fills_own availability
        (fun _ => decodeOption_of_isOption nofun fun _ _ => Availability.decode_of_encoding) rfl)
      (.cons (fills_own construction
        (fun _ => decodeOption_of_isOption nofun fun _ _ => Constructor.decode_of_encoding) rfl)
      (.cons (fills_own staticMethods (fun _ => hmethods _ _) rfl)
      (.cons (fills_own methods (fun _ => hmethods _ _) rfl)
      (.cons (fills_own instanceMethods (fun _ => hmethods _ _) rfl)
      (.cons (fills_own instanceProperties (fun _ => decodeParams) rfl)
      (.cons (fills_own properties (fun _ => decodeParams) rfl)
      (.cons (fills_own events (fun _ => hevents _ _) rfl)
      (.cons (fills_own instanceEvents (fun _ => hevents _ _) rfl) .nil)))))))))))))
    ⟨by simp, by simp⟩

/-! ## All spellings of a module -/

/-- **Every module is read back from each of the values that write it.**  There is such a value for
every module, and nothing has to be in it but the names of modules, methods and events and the
strings that values may be: objects without these are refused. -/
theorem recovers_module (m : Module) :
    (∃ value, Module.Encoding value m) ∧
    (∀ value, Module.Encoding value m → Module.decode value = .ok m) ∧
    ∀ given : List (String × Json),
      (given.lookup "name" = none →
        (∃ e, Module.decode (.object given) = .error e) ∧
        (∃ e, Method.decode (.object given) = .error e) ∧
        ∃ e, Event.decode (.object given) = .error e) ∧
      (given.lookup "value" = none → ∃ e, PossibleValue.decode (.object given) = .error e) := by
  refine ⟨m.exists_encoding, fun value => Module.decode_of_encoding, fun given => ⟨?_, ?_⟩⟩
  · intro h
    have hmissing {α : Type} {layout : Layout α} (hfirst : layout.missing? given =
        if (given.lookup "name").isSome then none else some "name") :
        ∃ e, layout.decode (.object given) = .error e := by
      rw [h] at hfirst
      exact exists_error_of_missing hfirst
    exact ⟨hmissing rfl, hmissing rfl, hmissing rfl⟩
  · intro h
    have hfirst : PossibleValue.layout.missing? given =
        if (given.lookup "value").isSome then none else some "value" := rfl
    rw [h] at hfirst
    exact exists_error_of_missing hfirst

/-- A class of which little is written. -/
def sparseClass : Json :=
  .object [
    ("events", .null),
    ("methods", .array [.object [
      ("name", .string "open"),
      ("note", .object [("name", .bool true)]),
      ("parameters", .array [
        .object [("possibleValues", .array [.object [("value", .string "now")]]),
          ("type", .array [.string "String", .array []])],
        .object []]),
      ("returns", .object [("description", .null), ("properties", .null),
        ("required", .bool false)])]]),
    ("name", .string "shell"),
    ("process", .object [("main", .bool true)]),
    ("type", .string "Class")]

theorem recovers_module_sparse :
    Module.decode sparseClass = .ok
      { name := "shell", kind := .classKind, availability := some { main := true }
        methods := [{
          name := "open"
          parameters := [
            { type := .union [.name "String", .union []]
              possibleValues := [{ value := "now" }] }, {}]
          returns := some { required := some false } }] } ∧
    (∃ e, Method.decode (.object [("description", .null)]) = .error e) ∧
    ∃ e, PossibleValue.decode (.object []) = .error e := by
  have hmissing := (recovers_module default).2.2
  refine ⟨(recovers_module _).2.1 _ ?_, ((hmissing _).1 rfl).2.1, (hmissing _).2 rfl⟩
  have hnow : PossibleValue.Encoding (.object [("value", .string "now")]) { value := "now" } :=
    .object (by decide) (.given (.string _)) .leftOut
  have hchoice : Param.Encoding
      (.object [("possibleValues", .array [.object [("value", .string "now")]]),
        ("type", .array [.string "String", .array []])])
      { type := .union [.name "String", .union []], possibleValues := [{ value := "now" }] } :=
    .object (by decide) .leftOut (.given (.union (.cons (.name _) (.cons (.union .nil) .nil))))
      .leftOut .leftOut .leftOut .leftOut .leftOut .leftOut (.given (.array (.cons hnow .nil)))
  have hblank : Param.Encoding (.object []) {} :=
    .object (by decide) .leftOut .leftOut .leftOut .leftOut .leftOut .leftOut .leftOut .leftOut
      .leftOut
  have hresult : Param.Encoding (.object [("description", .null), ("properties", .null),
      ("required", .bool false)]) { required := some false } :=
    .object (by decide) .leftOut .leftOut (.given .absent) (.given (.present (.bool _))) .leftOut
      (.given .null) .leftOut .leftOut .leftOut
  exact .object (by decide) (.given (.string _)) (.given .classKind) .leftOut .leftOut
    (.given (.present (.object (by decide) (.given (.bool _)) .leftOut))) .leftOut .leftOut
    (.given (.array (.cons (.object (by decide) (.given (.string _)) .leftOut
      (.given (.array (.cons hchoice (.cons hblank .nil)))) (.given (.present hresult))) .nil)))
    .leftOut .leftOut .leftOut (.given .null) .leftOut

end Ambient
