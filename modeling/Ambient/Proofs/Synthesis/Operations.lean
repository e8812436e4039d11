import Ambient.Proofs.Interner.Session
import Ambient.Proofs.Synthesis.Calls

/-!
# Any number of calls on one interner

Declarations are written by six operations that share an interner: parameter lists, values, function
types, results, listeners and interfaces.  They may be called in any order, and any of them may fail
half-way.  Each call is a session, so that what holds of sessions holds of all calls together.

## What is here

* `session_of_composed` — whatever is composed runs as a session, whether it succeeds or not.
* `Operation`, `after` — the six operations, and the interner after a list of calls.
* `Interner.Faithful` — keys and interfaces correspond, and the names of interfaces are free.
* `Desk.Keeps` — what stands at one point of a session and still stands at a later one.
* `faithful_after` — both hold at all points of all calls.
-/

set_option autoImplicit false

namespace Ambient

open Signature Synthesis Text

/-! ## Compositions as sessions -/

/-- **Whatever is composed runs as a session**, and leaves no body under way. -/
theorem session_of_composed {types : TypeMap} {P : List Param → Prop} {α : Type}
    {x : Synthesis α} (h : Composed types P x) :
    ∀ s pending, Session ⟨s, pending⟩ ⟨(x.run s).2, pending⟩ := by
  induction h with
  | result a => exact fun s pending => .refl
  | missing e => exact fun s pending => .refl
  | @seq α β x f first next ihx ihf =>
    intro s pending
    rcases hx : x.run s with ⟨e | a, t⟩
    · have hrun := ihx s pending
      rw [run_bind_of_error f hx]
      rwa [hx] at hrun
    · have hrun := ihx s pending
      rw [run_bind_of_ok f hx]
      rw [hx] at hrun
      exact hrun.trans (ihf a t pending)
  | interned fields shapeName naming shape body ih =>
    intro s pending
    have hclaim (new : s.lookup? (shapeKey types fields) = none) : Session ⟨s, pending⟩
        ⟨claimed s (shapeKey types fields) shapeName naming,
          chosen s shapeName naming :: pending⟩ := .single (.claim _ _ _ _ new)
    have hbody := ih (chosen s shapeName naming)
      (claimed s (shapeKey types fields) shapeName naming)
      (chosen s shapeName naming :: pending)
    have hout := interning (shapeKey types fields) shapeName naming
      (fun owner => interfaceLines types owner fields) s
    generalize (intern _ shapeName naming fun owner => interfaceLines types owner fields).run s
      = out at hout ⊢
    cases hout with
    | known bound => exact .refl
    | failed new written =>
      rw [written] at hbody
      exact ((hclaim new).trans hbody).tail .abandon
    | @added lines t new written =>
      rw [written] at hbody
      exact ((hclaim new).trans hbody).tail (.define lines)

/-- An interface stands in front of all that come in while its body is written. -/
theorem keys_internShape (types : TypeMap) (shape : Param) (naming : Naming) {s : Interner}
    (h : s.lookup? (shapeKey types shape.properties) = none) :
    ∃ later,
      ((interfaceLines types (chosen s shape.name naming) shape.properties).run
        (claimed s (shapeKey types shape.properties) shape.name naming)).2.bodies.keys
          = s.bodies.keys ++ chosen s shape.name naming :: later ∧
      ((internShape types shape naming).run s).2.bodies.keys
          = s.bodies.keys ++ chosen s shape.name naming :: later := by
  have hbody := extends_of_composed
    (composed_interfaceLines types (chosen s shape.name naming) shape.properties)
    (claimed s (shapeKey types shape.properties) shape.name naming)
  rcases hrun : (interfaceLines types (chosen s shape.name naming) shape.properties).run
    (claimed s (shapeKey types shape.properties) shape.name naming) with ⟨e | lines, t⟩
  · rw [hrun] at hbody
    obtain ⟨later, hlater, -⟩ := Interner.exists_define_of_extends_claim [] hbody
    have hkeys : t.bodies.keys
        = s.bodies.keys ++ chosen s shape.name naming :: later.map Prod.fst := by
      rw [Dictionary.keys, hlater, List.map_append]
      rfl
    refine ⟨later.map Prod.fst, hkeys, ?_⟩
    rw [internShape, run_bind_of_error _ (run_intern_of_error h hrun), hkeys]
  · rw [hrun] at hbody
    obtain ⟨later, hlater, hdefine⟩ := Interner.exists_define_of_extends_claim lines hbody
    refine ⟨later.map Prod.fst, ?_, ?_⟩
    · rw [Dictionary.keys, hlater, List.map_append]
      rfl
    · rw [internShape, run_bind_of_ok _ (run_intern_of_ok h hrun)]
      show (t.define _ lines).bodies.entries.map Prod.fst = _
      rw [chosen, hdefine, List.map_append]
      rfl

/-! ## Operations -/

/-- A call that may intern shapes. -/
inductive Operation where
  | parameterList (site : Site) (ps : List Param)
  | valueType (site : Site) (p : Param)
  | functionType (site : Site) (ps : List Param) (returns : Option Param)
  | returnType (site : Site) (method : Method)
  | listener (owner : String) (event : Event)
  | intern (shape : Param) (naming : Naming)

/-- What is called. -/
def Operation.call (types : TypeMap) : Operation → Synthesis String
  | parameterList site ps => Signature.parameterList types site ps
  | valueType site p => Signature.valueType types site none p
  | functionType site ps returns => Signature.functionType types site ps returns
  | returnType site method => Signature.returnType types site method
  | listener owner event => Signature.listener types owner event
  | intern shape naming => Signature.internShape types shape naming

/-- The interner after one more call. -/
def Operation.perform (types : TypeMap) (s : Interner) (op : Operation) : Interner :=
  ((op.call types).run s).2

/-- The interner after several calls. -/
def performAll (types : TypeMap) (s : Interner) (ops : List Operation) : Interner :=
  ops.foldl (Operation.perform types) s

/-- The interner after several calls that start with nothing but reserved names. -/
def after (types : TypeMap) (reserved : List String) (ops : List Operation) : Interner :=
  performAll types (Interner.empty.reserve reserved) ops

theorem composed_call (types : TypeMap) (op : Operation) :
    Composed types (fun _ => True) (op.call types) := by
  cases op with
  | parameterList site ps =>
    exact (composed_parameterList types site ps).mono fun _ _ => trivial
  | valueType site p => exact (composed_valueType types site none p).mono fun _ _ => trivial
  | functionType site ps returns =>
    exact (composed_functionType types site ps returns).mono fun _ _ => trivial
  | returnType site method =>
    exact (composed_returnType types site method).mono fun _ _ => trivial
  | listener owner event =>
    exact (composed_listener types owner event).mono fun _ _ => trivial
  | intern shape naming => exact composed_internShape types shape naming

theorem session_performAll (types : TypeMap) (ops : List Operation) (s : Interner)
    (pending : List String) : Session ⟨s, pending⟩ ⟨performAll types s ops, pending⟩ := by
  induction ops generalizing s with
  | nil => exact .refl
  | cons op rest ih =>
    exact (session_of_composed (composed_call types op) s pending).trans (ih (op.perform types s))

theorem after_append (types : TypeMap) (reserved : List String) (ops more : List Operation) :
    after types reserved (ops ++ more) = performAll types (after types reserved ops) more :=
  List.foldl_append

/-! ## All calls -/

/-- Keys and interfaces correspond, and the names of interfaces are free. -/
structure Interner.Faithful (reserved : List String) (s : Interner) : Prop where
  injective : ∀ key other name, s.lookup? key = some name → s.lookup? other = some name →
    key = other
  range : ∀ name, (∃ key, s.lookup? key = some name) ↔ name ∈ s.interfaces.map Interface.name
  free : ∀ i ∈ s.interfaces, i.name ≠ "" ∧ i.name ∉ reserved
  /-- The interfaces stand in the order in which their keys were claimed. -/
  ordered : s.interfaces.map Interface.name = s.names.values

theorem interfaces_names (s : Interner) : s.interfaces.map Interface.name = s.bodies.keys := by
  rw [Interner.interfaces, List.map_map]
  rfl

theorem Desk.Sound.faithful {reserved : List String} {d : Desk} (h : d.Sound reserved) :
    d.interner.Faithful reserved where
  injective key other name hkey hother := by
    rw [Interner.lookup?, Dictionary.get?_eq_some_iff] at hkey hother
    have hnodup : (d.interner.names.entries.map Prod.snd).Nodup := by
      show d.interner.names.values.Nodup
      rw [h.claimed]
      exact d.interner.bodies.nodup
    exact congrArg Prod.fst (List.inj_on_of_nodup_map hnodup hkey hother rfl)
  range name := by
    rw [interfaces_names, ← h.claimed, Dictionary.values, List.mem_map]
    constructor
    · rintro ⟨key, hkey⟩
      exact ⟨_, Dictionary.get?_eq_some_iff.1 hkey, rfl⟩
    · rintro ⟨⟨key, _⟩, hmem, rfl⟩
      exact ⟨key, Dictionary.get?_eq_some_iff.2 hmem⟩
  free i hi := h.free i.name (interfaces_names d.interner ▸ List.mem_map_of_mem hi)
  ordered := (interfaces_names d.interner).trans h.claimed.symm

/-- What stands at one point and still stands at a later one. -/
structure Desk.Keeps (d e : Desk) : Prop where
  /-- A key keeps its name. -/
  names : ∀ key name, d.interner.lookup? key = some name → e.interner.lookup? key = some name
  /-- An interface whose body is not being written keeps its body. -/
  bodies : ∀ i ∈ d.interner.interfaces, i.name ∉ d.pending → i ∈ e.interner.interfaces
  /-- Interfaces that come in stand behind those that are there. -/
  order : d.interner.interfaces.map Interface.name <+: e.interner.interfaces.map Interface.name
  /-- An interface stands in front of those that come in while its body is written. -/
  nested : ∀ outer ∈ d.pending, ∀ inner ∈ e.interner.interfaces.map Interface.name,
    inner ∉ d.interner.interfaces.map Interface.name →
      [outer, inner].Sublist (e.interner.interfaces.map Interface.name)

theorem mem_interfaces {s : Interner} {i : Interface} :
    i ∈ s.interfaces ↔ s.bodies.get? i.name = some i.lines := by
  rw [Dictionary.get?_eq_some_iff, Interner.interfaces, List.mem_map]
  constructor
  · rintro ⟨entry, hentry, rfl⟩
    exact hentry
  · exact fun h => ⟨_, h, rfl⟩

theorem Desk.Sound.keeps {reserved : List String} {d e : Desk} (h : d.Sound reserved)
    (hs : Session d e) : d.Keeps e where
  names := knows_of_session hs
  bodies i hi hdone := by
    have hmem : i.name ∈ d.interner.bodies.keys :=
      interfaces_names d.interner ▸ List.mem_map_of_mem hi
    rw [mem_interfaces] at hi ⊢
    rw [body_of_session hs hmem hdone, hi]
  order := by
    rw [interfaces_names, interfaces_names]
    exact keys_of_session hs h
  nested outer houter inner hinner hnew := by
    rw [interfaces_names] at hinner hnew ⊢
    exact nested_of_session hs h houter hinner hnew

/-- **Interning is faithful throughout.**  After any calls, successful or not, keys and interfaces
correspond; further calls are a session; at every point of a session keys and interfaces correspond,
and later points keep what stands there; and a new interface, whatever is claimed while its body is
written, stands in front of that. -/
theorem faithful_after (types : TypeMap) (reserved : List String) (ops more : List Operation) :
    (after types reserved ops).Faithful reserved ∧
    Desk.Keeps ⟨after types reserved ops, []⟩ ⟨after types reserved (ops ++ more), []⟩ ∧
    Session ⟨after types reserved ops, []⟩ ⟨after types reserved (ops ++ more), []⟩ ∧
    (∀ d e, Session ⟨after types reserved ops, []⟩ d → Session d e →
      d.interner.Faithful reserved ∧ d.Keeps e) ∧
    (∀ (s : Interner) (shape : Param) (naming : Naming),
      s.lookup? (shapeKey types shape.properties) = none → ∃ later,
        ((interfaceLines types (chosen s shape.name naming) shape.properties).run
          (claimed s (shapeKey types shape.properties) shape.name naming)).2.bodies.keys
            = s.bodies.keys ++ chosen s shape.name naming :: later ∧
        ((internShape types shape naming).run s).2.bodies.keys
            = s.bodies.keys ++ chosen s shape.name naming :: later) := by
  have hsound : Desk.Sound reserved ⟨after types reserved ops, []⟩ :=
    sound_of_session (session_performAll types ops _ []) (sound_start reserved)
  have hmore : Session ⟨after types reserved ops, []⟩ ⟨after types reserved (ops ++ more), []⟩ := by
    rw [after_append]
    exact session_performAll types more _ []
  refine ⟨hsound.faithful, hsound.keeps hmore, hmore, fun d e hd he => ?_,
    fun s shape naming h => keys_internShape types shape naming h⟩
  have hd2 := sound_of_session hd hsound
  exact ⟨hd2.faithful, hd2.keeps he⟩

end Ambient
