/-!
# Dictionaries in insertion order

Type mappings, interned interfaces and declaration blocks are all looked up by a text and listed
in the order in which their keys were first given.

## What is here

* `Dictionary β` — entries with distinct keys, in that order.
* `get?`, `contains`, `insert`, `erase` — look-up and update.  Inserting under a key that is there
  already replaces the value and keeps the place.
* `get?_insert_self`, `get?_insert_of_ne` — what an insertion changes, and `keys_insert` — where
  the new key stands.
* `contains_iff`, `get?_eq_some_iff` — look-up and membership.
-/

set_option autoImplicit false

namespace Ambient

/-! ## Entries -/

namespace Entries

variable {β : Type}

/-- Replaces the value under `key`, or appends a new entry. -/
def insert (key : String) (value : β) : List (String × β) → List (String × β)
  | [] => [(key, value)]
  | e :: rest => if e.1 = key then (key, value) :: rest else e :: insert key value rest

theorem keys_insert (key : String) (value : β) (es : List (String × β)) :
    (insert key value es).map Prod.fst
      = if key ∈ es.map Prod.fst then es.map Prod.fst else es.map Prod.fst ++ [key] := by
  induction es with
  | nil => rfl
  | cons e rest ih =>
    by_cases h : e.1 = key
    · simp [insert, h]
    · have h2 : ¬ key = e.1 := fun h3 => h h3.symm
      simp only [insert, h, if_false, List.map_cons, List.mem_cons, h2, false_or, ih]
      split <;> simp

theorem lookup_insert_self (key : String) (value : β) (es : List (String × β)) :
    (insert key value es).lookup key = some value := by
  induction es with
  | nil => simp [insert]
  | cons e rest ih =>
    obtain ⟨k, v⟩ := e
    by_cases h : k = key
    · simp [insert, h]
    · have h2 : (key == k) = false := by simpa using fun h3 => h h3.symm
      simp [insert, h, List.lookup_cons, h2, ih]

theorem lookup_insert_of_ne {key other : String} (h : other ≠ key) (value : β)
    (es : List (String × β)) : (insert key value es).lookup other = es.lookup other := by
  have h2 : (other == key) = false := by simpa using h
  induction es with
  | nil => simp [insert, List.lookup_cons, h2]
  | cons e rest ih =>
    obtain ⟨k, v⟩ := e
    by_cases hk : k = key
    · simp [insert, hk, List.lookup_cons, h2]
    · simp [insert, hk, List.lookup_cons, ih]

/-- A new key stands behind all others. -/
theorem insert_of_notMem {key : String} (value : β) {es : List (String × β)}
    (h : key ∉ es.map Prod.fst) : insert key value es = es ++ [(key, value)] := by
  induction es with
  | nil => rfl
  | cons e rest ih =>
    simp only [List.map_cons, List.mem_cons, not_or] at h
    have h2 : ¬ e.1 = key := fun h3 => h.1 h3.symm
    simp only [insert, h2, if_false, List.cons_append, ih h.2]

/-- A key that is there already keeps its place. -/
theorem insert_append_cons {key : String} (value old : β) {before : List (String × β)}
    (after : List (String × β)) (h : key ∉ before.map Prod.fst) :
    insert key value (before ++ (key, old) :: after) = before ++ (key, value) :: after := by
  induction before with
  | nil => simp [insert]
  | cons e rest ih =>
    simp only [List.map_cons, List.mem_cons, not_or] at h
    have h2 : ¬ e.1 = key := fun h3 => h.1 h3.symm
    simp only [insert, h2, if_false, List.cons_append, ih h.2]

end Entries

/-! ## Dictionaries -/

/-- Entries with distinct keys, in the order in which the keys were first given. -/
structure Dictionary (β : Type) where
  entries : List (String × β)
  nodup : (entries.map Prod.fst).Nodup

namespace Dictionary

variable {β : Type}

/-- No entries. -/
def empty : Dictionary β := ⟨[], List.nodup_nil⟩

instance : Inhabited (Dictionary β) := ⟨empty⟩

/-- The value under a key. -/
def get? (d : Dictionary β) (key : String) : Option β := d.entries.lookup key

/-- There is a value under the key. -/
def contains (d : Dictionary β) (key : String) : Bool := (d.get? key).isSome

/-- The keys in the order in which they were first given. -/
def keys (d : Dictionary β) : List String := d.entries.map Prod.fst

/-- The values in the order of their keys. -/
def values (d : Dictionary β) : List β := d.entries.map Prod.snd

/-- The number of entries. -/
def size (d : Dictionary β) : Nat := d.entries.length

/-- Replaces the value under `key`, or appends a new entry. -/
def insert (d : Dictionary β) (key : String) (value : β) : Dictionary β where
  entries := Entries.insert key value d.entries
  nodup := by
    rw [Entries.keys_insert]
    split
    · exact d.nodup
    · rename_i h
      exact List.nodup_append.2 ⟨d.nodup, by simp, fun a ha b hb => by
        rw [List.mem_singleton.1 hb]; exact fun h2 => h (h2 ▸ ha)⟩

/-- Drops the entry under `key`, if there is one. -/
def erase (d : Dictionary β) (key : String) : Dictionary β where
  entries := d.entries.filter (fun e => e.1 != key)
  nodup := d.nodup.sublist (List.filter_sublist.map _)

/-- A dictionary from a list of entries; of two with one key the later gives the value. -/
def ofList (es : List (String × β)) : Dictionary β :=
  es.foldl (fun d e => d.insert e.1 e.2) empty

/-! ### What an update changes -/

theorem get?_insert_self (d : Dictionary β) (key : String) (value : β) :
    (d.insert key value).get? key = some value :=
  Entries.lookup_insert_self key value d.entries

theorem get?_insert_of_ne (d : Dictionary β) {key other : String} (h : other ≠ key) (value : β) :
    (d.insert key value).get? other = d.get? other :=
  Entries.lookup_insert_of_ne h value d.entries

theorem keys_insert (d : Dictionary β) (key : String) (value : β) :
    (d.insert key value).keys = if key ∈ d.keys then d.keys else d.keys ++ [key] :=
  Entries.keys_insert key value d.entries

theorem entries_insert_of_notMem {d : Dictionary β} {key : String} (value : β)
    (h : key ∉ d.keys) : (d.insert key value).entries = d.entries ++ [(key, value)] :=
  Entries.insert_of_notMem value h

/-! ### Looking up -/

theorem contains_iff {d : Dictionary β} {key : String} : d.contains key = true ↔ key ∈ d.keys := by
  rw [contains, get?, List.lookup_isSome_iff, keys, List.mem_map]
  exact exists_congr fun e => and_congr_right fun _ => by rw [beq_iff_eq, eq_comm]

theorem get?_eq_none_iff {d : Dictionary β} {key : String} : d.get? key = none ↔ key ∉ d.keys := by
  rw [← contains_iff, contains, Bool.not_eq_true, Option.isSome_eq_false_iff,
    Option.isNone_iff_eq_none]

/-- A look-up finds exactly the entries. -/
theorem get?_eq_some_iff {d : Dictionary β} {key : String} {value : β} :
    d.get? key = some value ↔ (key, value) ∈ d.entries := by
  obtain ⟨es, hes⟩ := d
  show es.lookup key = some value ↔ (key, value) ∈ es
  induction es with
  | nil => simp
  | cons e rest ih =>
    obtain ⟨k, v⟩ := e
    rw [List.map_cons, List.nodup_cons] at hes
    by_cases h : key = k
    · subst h
      have hv : (key, value) ∉ rest := fun h2 => hes.1 (List.mem_map.2 ⟨_, h2, rfl⟩)
      simp [hv, eq_comm]
    · have h2 : (key == k) = false := by simpa using h
      simp [List.lookup_cons, h2, ih hes.2, h]

theorem entries_ext {d e : Dictionary β} (h : d.entries = e.entries) : d = e := by
  cases d; cases e; cases h; rfl

end Dictionary
end Ambient
