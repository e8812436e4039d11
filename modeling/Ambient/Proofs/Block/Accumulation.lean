import Mathlib.Data.List.Basic
import Mathlib.Data.List.Induction
import Ambient.Block
import Ambient.Proofs.Synthesis.Run

/-!
# How blocks grow

Modules are added to the blocks one after the other.  A call that finds a name missing leaves the
blocks alone; any other adds its lines at the end of the block of its key, and opens that block if
no call before it has.  So after any calls each block can be read off the calls for its key that
have succeeded: the first of them gives the name, the header and the reference to the documentation,
and all of them give their lines, in the order of the calls.

## What is here

* `Emission` — a call that adds a module, with everything that its lines depend on.
* `Emission.Changes c before after` — what a call does to the blocks; `changes_perform`.
* `emitEach` — the blocks after several calls.
* `blockOf` — the block that successful calls for one key make.
* `get?_emitEach`, `keys_emitEach` — which blocks there are, and in which order.
* `blocks_of_emissions` — all of it for any calls, and `exists_emissions` — the calls of one run.
-/

set_option autoImplicit false

namespace Ambient

open Text Synthesis

/-! ## Calls -/

/-- A call that adds a module to some blocks, with everything that its lines depend on.  The calls
of one run share all but the module and the interner, which each call leaves to the next. -/
structure Emission where
  types : TypeMap
  rules : Inheritance
  roster : Roster
  /-- The interner on which the lines are written. -/
  interner : Interner
  /-- The module that is added. -/
  subject : Module

namespace Emission

/-- The key of the block to which the call adds. -/
def key (c : Emission) : String := c.subject.key

/-- What the call returns: the blocks with the module, or the name that is missing. -/
def outcome (c : Emission) (blocks : Blocks) : Except MissingName Blocks :=
  ((blocks.emit c.types c.rules c.roster c.subject).run c.interner).1

/-- The lines of the members of the module, or the name that is missing. -/
def members (c : Emission) : Except MissingName (List String) :=
  ((memberLines c.types c.roster c.subject).run c.interner).1

/-- No name is missing. -/
def succeeds (c : Emission) : Bool := c.members.isOk

/-- The lines of the members, none if a name is missing. -/
def lines (c : Emission) : List String := c.members.toOption.getD []

/-- The blocks after the call: those that it returns, or those that were there if it fails. -/
def perform (blocks : Blocks) (c : Emission) : Blocks :=
  match c.outcome blocks with
  | .ok after => after
  | .error _ => blocks

end Emission

/-- All lines of a block. -/
def Block.lines (block : Block) : List String := block.header :: block.body

section

variable {c : Emission} {blocks : Blocks} {lines : List String}

/-- A call fails for the name that its members miss, and else adds their lines. -/
theorem outcome_eq (c : Emission) (blocks : Blocks) :
    c.outcome blocks = c.members.map (blocks.append c.rules c.roster c.subject) := by
  rw [Emission.outcome, Emission.members, Blocks.emit]
  rcases hrun : (memberLines c.types c.roster c.subject).run c.interner with ⟨e | lines, t⟩
  · rw [run_bind_of_error _ hrun]
    rfl
  · rw [run_bind_of_ok _ hrun]
    rfl

theorem exists_of_not_succeeds (h : c.succeeds = false) : ∃ e, c.members = .error e := by
  rw [Emission.succeeds] at h
  cases hmembers : c.members with
  | error e => exact ⟨e, rfl⟩
  | ok lines => simp [hmembers, Except.isOk, Except.toBool] at h

theorem members_of_succeeds (h : c.succeeds = true) : c.members = .ok c.lines := by
  rw [Emission.succeeds] at h
  cases hmembers : c.members with
  | error e => simp [hmembers, Except.isOk, Except.toBool] at h
  | ok lines => simp [Emission.lines, hmembers, Except.toOption]

theorem outcome_of_succeeds (h : c.succeeds = true) (blocks : Blocks) :
    c.outcome blocks = .ok (blocks.append c.rules c.roster c.subject c.lines) := by
  rw [outcome_eq, members_of_succeeds h]
  rfl

theorem outcome_of_not_succeeds (h : c.succeeds = false) (blocks : Blocks) :
    ∃ e, c.outcome blocks = .error e := by
  obtain ⟨e, he⟩ := exists_of_not_succeeds h
  exact ⟨e, by rw [outcome_eq, he]; rfl⟩

theorem perform_of_succeeds (h : c.succeeds = true) :
    c.perform blocks = blocks.append c.rules c.roster c.subject c.lines := by
  rw [Emission.perform, outcome_of_succeeds h]

theorem perform_of_not_succeeds (h : c.succeeds = false) : c.perform blocks = blocks := by
  obtain ⟨e, he⟩ := outcome_of_not_succeeds h blocks
  rw [Emission.perform, he]

/-! ## What one call changes -/

theorem get?_append_of_none (h : blocks.byKey.get? c.key = none) (lines : List String) :
    (blocks.append c.rules c.roster c.subject lines).byKey.get? c.key
      = some ⟨c.subject.declarationName, headerLine c.rules c.roster c.subject,
        docsLines c.subject ++ lines⟩ := by
  rw [Emission.key] at h
  rw [Blocks.append, Blocks.blockFor, h]
  exact Dictionary.get?_insert_self _ _ _

theorem get?_append_of_some {block : Block} (h : blocks.byKey.get? c.key = some block)
    (lines : List String) :
    (blocks.append c.rules c.roster c.subject lines).byKey.get? c.key
      = some { block with body := block.body ++ lines } := by
  rw [Emission.key] at h
  rw [Blocks.append, Blocks.blockFor, h]
  exact Dictionary.get?_insert_self _ _ _

theorem get?_append_of_ne {key : String} (h : key ≠ c.key) (lines : List String) :
    (blocks.append c.rules c.roster c.subject lines).byKey.get? key = blocks.byKey.get? key :=
  Dictionary.get?_insert_of_ne _ h _

/-- What one call does to the blocks. -/
structure Emission.Changes (c : Emission) (before after : Blocks) : Prop where
  /-- A call that fails changes nothing. -/
  failed : ∀ e, c.outcome before = .error e → after = before
  /-- A call changes no block but its own. -/
  others : ∀ name, lowercase name ≠ c.key → after.get? name = before.get? name
  /-- A call that succeeds opens its block if there is none. -/
  opened : ∀ result, c.outcome before = .ok result → before.get? c.subject.name = none →
    after.get? c.subject.name = some ⟨c.subject.declarationName,
      headerLine c.rules c.roster c.subject, docsLines c.subject ++ c.lines⟩
  /-- It adds to the end of its block if there is one. -/
  extended : ∀ result block, c.outcome before = .ok result →
    before.get? c.subject.name = some block →
      ∃ grown, after.get? c.subject.name = some grown ∧ grown.name = block.name ∧
        grown.lines = block.lines ++ c.lines
  /-- Blocks keep their places, and a new one comes last. -/
  order : after.byKey.keys
    = if c.succeeds && !before.byKey.keys.contains c.key then before.byKey.keys ++ [c.key]
      else before.byKey.keys

/-- **What one call does to the blocks.** -/
theorem changes_perform (c : Emission) (blocks : Blocks) : c.Changes blocks (c.perform blocks) := by
  cases hc : c.succeeds with
  | false =>
    obtain ⟨e, he⟩ := outcome_of_not_succeeds hc blocks
    rw [perform_of_not_succeeds hc]
    exact ⟨fun _ _ => rfl, fun _ _ => rfl, fun _ h => by simp [he] at h,
      fun _ _ h => by simp [he] at h, by simp [hc]⟩
  | true =>
    have hok := outcome_of_succeeds hc blocks
    rw [perform_of_succeeds hc]
    refine ⟨fun _ h => by simp [hok] at h, fun _ h => get?_append_of_ne h _,
      fun _ _ h => get?_append_of_none h _,
      fun _ block _ h => ⟨_, get?_append_of_some h _, rfl, rfl⟩, ?_⟩
    have hkeys : (blocks.append c.rules c.roster c.subject c.lines).byKey.keys
        = if c.key ∈ blocks.byKey.keys then blocks.byKey.keys else blocks.byKey.keys ++ [c.key] :=
      Dictionary.keys_insert _ _ _
    by_cases hmem : c.key ∈ blocks.byKey.keys <;> simp [hkeys, hc, hmem]

end

/-! ## Many calls -/

/-- The blocks after several calls, from none on. -/
def emitEach (calls : List Emission) : Blocks := calls.foldl Emission.perform Blocks.empty

theorem emitEach_concat (calls : List Emission) (c : Emission) :
    emitEach (calls ++ [c]) = c.perform (emitEach calls) := by
  rw [emitEach, List.foldl_append]
  rfl

/-- The calls for a key that have succeeded. -/
def successes (calls : List Emission) (key : String) : List Emission :=
  calls.filter fun c => c.succeeds && c.key == key

theorem successes_ne_nil_iff {calls : List Emission} {key : String} :
    successes calls key ≠ [] ↔ ∃ c ∈ calls, c.succeeds = true ∧ c.key = key := by
  simp [successes]

/-- The block that successful calls for one key make. -/
def blockOf : List Emission → Option Block
  | [] => none
  | first :: more => some ⟨first.subject.declarationName,
      headerLine first.rules first.roster first.subject,
      docsLines first.subject ++ (first :: more).flatMap Emission.lines⟩

theorem blockOf_eq_none_iff {calls : List Emission} : blockOf calls = none ↔ calls = [] := by
  cases calls with
  | nil => simp [blockOf]
  | cons c rest => simp [blockOf]

/-- One more call adds its lines to the block. -/
theorem blockOf_concat {calls : List Emission} {block : Block} (h : blockOf calls = some block)
    (c : Emission) :
    blockOf (calls ++ [c]) = some { block with body := block.body ++ c.lines } := by
  cases calls with
  | nil => simp [blockOf] at h
  | cons first more =>
    rw [blockOf, Option.some.injEq] at h
    subst h
    simp [blockOf]

/-- **The block of a key** is made by the successful calls for the key. -/
theorem get?_emitEach (calls : List Emission) (key : String) :
    (emitEach calls).byKey.get? key = blockOf (successes calls key) := by
  induction calls using List.reverseRecOn with
  | nil => rfl
  | append_singleton calls c ih =>
    rw [emitEach_concat]
    cases hc : c.succeeds with
    | false =>
      have hsame : successes (calls ++ [c]) key = successes calls key := by simp [successes, hc]
      rw [perform_of_not_succeeds hc, ih, hsame]
    | true =>
      rw [perform_of_succeeds hc]
      by_cases hkey : c.key = key
      · have hmore : successes (calls ++ [c]) key = successes calls key ++ [c] := by
          simp [successes, hc, hkey]
        rw [hmore]
        subst hkey
        cases hblock : blockOf (successes calls c.key) with
        | none =>
          rw [get?_append_of_none (ih.trans hblock), blockOf_eq_none_iff.1 hblock]
          simp [blockOf]
        | some block => rw [get?_append_of_some (ih.trans hblock), blockOf_concat hblock]
      · have hsame : successes (calls ++ [c]) key = successes calls key := by
          simp [successes, hkey]
        rw [get?_append_of_ne (Ne.symm hkey), ih, hsame]

/-- What is new behind a list is kept, and what is not is dropped. -/
theorem eraseDups_concat {α : Type} [DecidableEq α] (xs : List α) (x : α) :
    (xs ++ [x]).eraseDups = if x ∈ xs then xs.eraseDups else xs.eraseDups ++ [x] := by
  by_cases h : x ∈ xs <;> simp [List.eraseDups_append, List.eraseDups_cons, List.removeAll, h]

/-- **The blocks stand in the order of the first successful calls** for their keys. -/
theorem keys_emitEach (calls : List Emission) :
    (emitEach calls).byKey.keys
      = ((calls.filter Emission.succeeds).map Emission.key).eraseDups := by
  induction calls using List.reverseRecOn with
  | nil => rfl
  | append_singleton calls c ih =>
    rw [emitEach_concat, (changes_perform c _).order, ih]
    cases hc : c.succeeds with
    | false => simp [hc]
    | true =>
      rw [List.filter_append, List.filter_cons_of_pos hc, List.map_append, List.filter_nil,
        List.map_singleton, eraseDups_concat]
      by_cases hmem : c.key ∈ (calls.filter Emission.succeeds).map Emission.key <;>
        simp [hmem, List.contains_eq_mem, -List.mem_map]

/-- The blocks in order are those of the keys in order. -/
theorem toList_eq (blocks : Blocks) :
    blocks.toList = blocks.byKey.keys.filterMap blocks.byKey.get? := by
  rw [Blocks.toList, Dictionary.values, Dictionary.keys, List.filterMap_map]
  have hentries : ∀ e ∈ blocks.byKey.entries, blocks.byKey.get? e.1 = some e.2 := fun _ he =>
    Dictionary.get?_eq_some_iff.2 he
  rw [← List.filterMap_eq_map]
  exact (List.filterMap_congr hentries).symm

/-- **What the blocks are after any calls.**  Every call either fails and changes nothing, or adds
its lines at the end of its own block, which it opens if there is none.  There is a block for a name
just in case a call for its key has succeeded.  It has the name, the header and the reference to the
documentation of the first such call, and behind them the lines of all such calls.  And the blocks
stand in the order of the first successful calls for their keys. -/
theorem blocks_of_emissions (calls : List Emission) :
    (∀ (c : Emission) (blocks : Blocks), c.Changes blocks (c.perform blocks) ∧
      ((∃ result, c.outcome blocks = .ok result) ↔ c.succeeds = true)) ∧
    (∀ name, (emitEach calls).contains name = true ↔
      ∃ c ∈ calls, c.succeeds = true ∧ c.key = lowercase name) ∧
    (∀ name, (emitEach calls).get? name = blockOf (successes calls (lowercase name))) ∧
    (emitEach calls).toList
      = ((calls.filter Emission.succeeds).map Emission.key).eraseDups.filterMap
        fun key => blockOf (successes calls key) := by
  refine ⟨fun c blocks => ⟨changes_perform c blocks, ?_⟩, fun name => ?_,
    fun name => get?_emitEach calls _, ?_⟩
  · cases hc : c.succeeds with
    | false =>
      obtain ⟨e, he⟩ := outcome_of_not_succeeds hc blocks
      simp [he]
    | true => simp [outcome_of_succeeds hc blocks]
  · rw [Blocks.contains, Blocks.get?, get?_emitEach, Option.isSome_iff_ne_none, Ne,
      blockOf_eq_none_iff, ← Ne, successes_ne_nil_iff]
  · rw [toList_eq, keys_emitEach]
    exact List.filterMap_congr fun key _ => get?_emitEach calls key

/-! ## The calls of one run -/

/-- When modules are added one after the other and no name is missing, a call is made for each of
them, and all of the calls succeed. -/
theorem exists_emissions {types : TypeMap} {rules : Inheritance} {roster : Roster}
    {ms : List Module} {blocks result : Blocks} {s t : Interner}
    (h : (ms.foldlM (fun (b : Blocks) m => b.emit types rules roster m) blocks).run s
      = (.ok result, t)) :
    ∃ calls : List Emission, calls.map Emission.subject = ms ∧
      (∀ c ∈ calls, c.succeeds = true ∧ c.types = types ∧ c.rules = rules ∧ c.roster = roster) ∧
      result = calls.foldl Emission.perform blocks := by
  induction ms generalizing blocks s with
  | nil =>
    cases h
    exact ⟨[], rfl, by simp, rfl⟩
  | cons m rest ih =>
    rw [List.foldlM_cons] at h
    obtain ⟨added, r, hemit, hrest⟩ := exists_of_run_bind_eq_ok h
    obtain ⟨lines, r2, hlines, hadded⟩ := exists_of_run_bind_eq_ok hemit
    obtain ⟨calls, hsubjects, hcalls, hresult⟩ := ih hrest
    let c : Emission := ⟨types, rules, roster, s, m⟩
    have hmembers : c.members = .ok lines := congrArg Prod.fst hlines
    have hc : c.succeeds = true := by simp [Emission.succeeds, hmembers, Except.isOk, Except.toBool]
    have houtcome : c.outcome blocks = .ok added := congrArg Prod.fst hemit
    refine ⟨c :: calls, by simp [c, hsubjects], ?_, ?_⟩
    · simpa [c, hc] using hcalls
    · rw [hresult, List.foldl_cons, Emission.perform, houtcome]

end Ambient
