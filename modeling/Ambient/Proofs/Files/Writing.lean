import Mathlib.Data.List.DropRight
import Ambient.Proofs.Files.Walking

/-!
# Writing a file

A file can be written where the directory in front of its name exists and no directory has that
name.  Writing it changes that file and no other: the path leads to the new content afterwards,
under whatever detours, because the directories that it goes through are still there.

## What is here

* `IsTarget`, `IsWritable files path` — a file can be written at the path; `write_eq_ok_iff`,
  `exists_write_iff` — it is written just in case it can be, and what the tree is then.
* `IsReplaced ns content tree other` — the tree with one file replaced or added.
* `isReplaced_rebuild` — a tree that is put together again around a new file.
* `written_of_write` — what lies at the path afterwards, and in the whole tree.
-/

set_option autoImplicit false

namespace Ambient
namespace FileSystem

variable {files after : FileSystem} {path last : String} {content : ByteArray} {place : Place}
  {entries : List (String × FileTree)}

/-! ## Where a file can be written -/

/-- The path ends in the name of a file in a directory: `place` is the directory, with these
entries, and `last` is the name. -/
structure IsTarget (files : FileSystem) (path : String) (place : Place) (last : String)
    (entries : List (String × FileTree)) : Prop where
  usable : FilePath.check path = .ok ()
  reached : ∃ front, FilePath.parts path = front ++ [last] ∧ files.placeOf path front = .ok place
  name : IsName last
  short : last.utf8ByteSize ≤ FilePath.greatestPart
  directory : place.node = .directory entries
  free : ∀ inner, entries.lookup last ≠ some (.directory inner)

/-- A file can be written at the path. -/
def IsWritable (files : FileSystem) (path : String) : Prop :=
  ∃ place last entries, files.IsTarget path place last entries

theorem withoutSlashes_eq (parts : List String) :
    FilePath.withoutSlashes parts = parts.rdropWhile (·.isEmpty) := rfl

/-- Nothing is cut off from the parts just in case they end in one that is not empty. -/
theorem withoutSlashes_concat {front : List String} (h : last ≠ "") :
    FilePath.withoutSlashes (front ++ [last]) = front ++ [last] := by
  rw [withoutSlashes_eq]
  exact List.rdropWhile_concat_neg _ _ _ (by simpa using h)

theorem exists_of_withoutSlashes {parts : List String}
    (hlast : (FilePath.withoutSlashes parts).getLast? = some last)
    (hlength : ¬ (FilePath.withoutSlashes parts).length < parts.length) :
    parts = (FilePath.withoutSlashes parts).dropLast ++ [last] ∧ last ≠ "" := by
  have hsame : FilePath.withoutSlashes parts = parts :=
    (List.rdropWhile_prefix _ parts).eq_of_length_le (Nat.not_lt.1 hlength)
  have hne : parts ≠ [] := by
    rintro rfl
    cases hlast
  have hgetLast : parts.getLast hne = last := by
    rw [hsame, List.getLast?_eq_some_getLast hne, Option.some.injEq] at hlast
    exact hlast
  refine ⟨?_, fun hempty => ?_⟩
  · rw [hsame, ← hgetLast, List.dropLast_append_getLast]
  · have hkept := List.rdropWhile_eq_self_iff.1 ((withoutSlashes_eq parts).symm.trans hsame) hne
    rw [hgetLast, hempty] at hkept
    exact hkept rfl

/-- The whole tree with a file put into the directory at a place, which has these entries. -/
def putFile (place : Place) (entries : List (String × FileTree)) (name : String)
    (content : ByteArray) : FileTree :=
  rebuild (.directory (Entries.insert name (.file content) entries)) place.above

theorem writeAt_eq_ok_iff {root : FileTree} : writeAt place last content = .ok root ↔
    ∃ entries, place.node = .directory entries ∧ last.utf8ByteSize ≤ FilePath.greatestPart ∧
      (∀ inner, entries.lookup last ≠ some (.directory inner)) ∧
      root = putFile place entries last content := by
  rw [writeAt]
  constructor
  · intro h
    split at h
    · cases h
    · rename_i entries hentries
      split at h
      · cases h
      · rename_i hshort
        split at h
        · cases h
        · rename_i hfree
          cases h
          exact ⟨entries, hentries, Nat.le_of_not_lt hshort, hfree, rfl⟩
  · rintro ⟨entries, hentries, hshort, hfree, rfl⟩
    rw [hentries]
    dsimp only
    rw [if_neg (Nat.not_lt.2 hshort)]
    split
    · rename_i inner hinner
      exact absurd hinner (hfree inner)
    · rfl

/-- **A file is written just in case it can be**, and then the tree is put together again around the
directory with the new file. -/
theorem write_eq_ok_iff : files.write path content = .ok after ↔
    ∃ place last entries, files.IsTarget path place last entries ∧
      after = { files with root := putFile place entries last content } := by
  constructor
  · intro h
    obtain ⟨_, husable, h⟩ := exists_of_bind_eq_ok h
    obtain ⟨place, hplace, h⟩ := exists_of_bind_eq_ok h
    split at h
    · cases h
    · rename_i last hlast
      split at h
      · cases h
      · split at h
        · cases h
        · rename_i hnamed
          rw [not_or, not_or] at hnamed
          obtain ⟨root, hroot, h⟩ := exists_of_bind_eq_ok h
          cases h
          obtain ⟨hparts, hne⟩ := exists_of_withoutSlashes hlast hnamed.1
          obtain ⟨entries, hentries, hshort, hfree, rfl⟩ := writeAt_eq_ok_iff.1 hroot
          exact ⟨place, last, entries, ⟨husable, ⟨_, hparts, hplace⟩,
            ⟨hne, hnamed.2.1, hnamed.2.2⟩, hshort, hentries, hfree⟩, rfl⟩
  · rintro ⟨place, last, entries, h, rfl⟩
    obtain ⟨front, hparts, hplace⟩ := h.reached
    have hroot := writeAt_eq_ok_iff.2
      ⟨entries, h.directory, h.short, h.free, Eq.refl (putFile place entries last content)⟩
    have hdirectory : place.node.isDirectory = true := by rw [h.directory]; rfl
    simp [write, bind, Except.bind, pure, Except.pure, h.usable, hparts,
      withoutSlashes_concat h.name.ne_empty, hplace, hroot, hdirectory, h.name.ne_here,
      h.name.ne_above]

/-- Which content is written plays no part. -/
theorem exists_write_iff (files : FileSystem) (path : String) (content : ByteArray) :
    (∃ after, files.write path content = .ok after) ↔ files.IsWritable path := by
  constructor
  · rintro ⟨after, h⟩
    obtain ⟨place, last, entries, htarget, -⟩ := write_eq_ok_iff.1 h
    exact ⟨place, last, entries, htarget⟩
  · rintro ⟨place, last, entries, htarget⟩
    exact ⟨_, write_eq_ok_iff.2 ⟨place, last, entries, htarget, rfl⟩⟩

end FileSystem

/-! ## A tree with one file replaced -/

namespace FileTree

/-- The content of a file; a directory has none. -/
def content? : FileTree → Option ByteArray
  | file content => some content
  | directory _ => none

/-- What lies at the end of a list of names: nothing, a directory, or a file with its content. -/
def look? (tree : FileTree) (ns : List String) : Option (Option ByteArray) :=
  (tree.at? ns).map content?

/-- The trees differ in one file at most, which has the content in the second. -/
structure IsReplaced (ns : List String) (content : ByteArray) (tree other : FileTree) : Prop where
  /-- No directory is replaced. -/
  free : tree.look? ns ≠ some none
  written : other.look? ns = some (some content)
  others : ∀ ms, ms ≠ ns → other.look? ms = tree.look? ms

variable {tree other : FileTree} {ns : List String} {content : ByteArray} {name : String}
  {entries : List (String × FileTree)}

theorem look?_eq_none_iff :
    tree.look? ns = some none ↔ ∃ es, tree.at? ns = some (.directory es) := by
  rw [look?, Option.map_eq_some_iff]
  constructor
  · rintro ⟨t, ht, hcontent⟩
    cases t with
    | file c => cases hcontent
    | directory es => exact ⟨es, ht⟩
  · rintro ⟨es, hes⟩
    exact ⟨_, hes, rfl⟩

theorem at?_of_look? (h : tree.look? ns = some (some content)) :
    tree.at? ns = some (.file content) := by
  obtain ⟨t, ht, hcontent⟩ := Option.map_eq_some_iff.1 h
  cases t with
  | file c =>
    cases hcontent
    exact ht
  | directory es => cases hcontent

theorem exists_of_at?_singleton (h : tree.at? [name] = some other) :
    ∃ es, tree = .directory es ∧ es.lookup name = some other := by
  cases tree with
  | file c => cases h
  | directory es =>
    obtain ⟨t, ht, hnil⟩ := Option.bind_eq_some_iff.1 h
    rw [at?_nil, Option.some.injEq] at hnil
    exact ⟨es, rfl, hnil ▸ ht⟩

theorem IsReplaced.keepsDirectories (h : IsReplaced ns content tree other) :
    tree.KeepsDirectories other := by
  intro ms es hes
  have hlook : tree.look? ms = some none := look?_eq_none_iff.2 ⟨es, hes⟩
  have hne : ms ≠ ns := by
    rintro rfl
    exact h.free hlook
  exact look?_eq_none_iff.1 ((h.others ms hne).trans hlook)

theorem look?_cons_insert_of_ne {other : String} (h : other ≠ name) (tree : FileTree)
    (rest : List String) :
    (directory (Entries.insert name tree entries)).look? (other :: rest)
      = (directory entries).look? (other :: rest) := by
  rw [look?, look?, at?, at?, Entries.lookup_insert_of_ne h]

theorem look?_cons_insert_self (tree : FileTree) (rest : List String) :
    (directory (Entries.insert name tree entries)).look? (name :: rest) = tree.look? rest := by
  rw [look?, at?, Entries.lookup_insert_self]
  rfl

theorem look?_cons_of_lookup (h : entries.lookup name = some tree) (rest : List String) :
    (directory entries).look? (name :: rest) = tree.look? rest := by
  rw [look?, at?, h]
  rfl

/-- A file is put into a directory. -/
theorem isReplaced_insert (hfree : ∀ inner, entries.lookup name ≠ some (.directory inner))
    (content : ByteArray) :
    IsReplaced [name] content (directory entries)
      (directory (Entries.insert name (file content) entries)) where
  free h := by
    rw [look?_eq_none_iff] at h
    obtain ⟨inner, hinner⟩ := h
    obtain ⟨es, hes, hlookup⟩ := exists_of_at?_singleton hinner
    cases hes
    exact hfree inner hlookup
  written := look?_cons_insert_self _ _
  others ms hne := by
    cases ms with
    | nil => rfl
    | cons other rest =>
      by_cases hname : other = name
      · subst hname
        -- Nothing lies below a file, neither the new one nor one that was there.
        have hrest : rest ≠ [] := fun h => hne (congrArg _ h)
        obtain ⟨first, more, rfl⟩ := List.exists_cons_of_ne_nil hrest
        rw [look?_cons_insert_self, look?, look?, at?, at?]
        cases hlookup : entries.lookup other with
        | none => rfl
        | some t =>
          cases t with
          | file c => rfl
          | directory inner => exact absurd hlookup (hfree inner)
      · exact look?_cons_insert_of_ne hname _ _

/-- A file is replaced below an entry of a directory. -/
theorem IsReplaced.below (h : IsReplaced ns content tree other)
    (hlookup : entries.lookup name = some tree) :
    IsReplaced (name :: ns) content (directory entries)
      (directory (Entries.insert name other entries)) where
  free := by
    rw [look?_cons_of_lookup hlookup]
    exact h.free
  written := (look?_cons_insert_self _ _).trans h.written
  others ms hne := by
    cases ms with
    | nil => rfl
    | cons first rest =>
      by_cases hname : first = name
      · subst hname
        rw [look?_cons_insert_self, look?_cons_of_lookup hlookup]
        exact h.others rest fun hrest => hne (congrArg _ hrest)
      · exact look?_cons_insert_of_ne hname _ _

end FileTree

namespace FileSystem

open FileTree

variable {files after : FileSystem} {path : String} {content : ByteArray}

/-- **A tree that is put together again** around a node with one file replaced has one file
replaced. -/
theorem isReplaced_rebuild {root node other : FileTree} {ns : List String}
    {above : List (String × List (String × FileTree))} (h : IsReplaced ns content node other)
    (habove : LeadsTo root above node) :
    IsReplaced ((above.map Prod.fst).reverse ++ ns) content root (rebuild other above) := by
  induction above generalizing node other ns with
  | nil =>
    obtain rfl : node = root := habove
    exact h
  | cons frame above ih =>
    obtain ⟨name, entries⟩ := frame
    have hbelow := ih (h.below habove.1) habove.2
    rw [List.map_cons, List.reverse_cons, List.append_assoc]
    exact hbelow

/-! ## After the writing -/

theorem isIn_of_placeOf {parts : List String} {place : Place}
    (h : files.placeOf path parts = .ok place) : place.IsIn files.root :=
  isIn_of_walk h rfl

/-- **The path leads to what has been written**, and no other file has changed. -/
theorem written_of_write (h : files.write path content = .ok after) :
    after.find path = .ok (.file content) ∧ ∃ place last entries,
      files.IsTarget path place last entries ∧
        IsReplaced (place.names ++ [last]) content files.root after.root := by
  obtain ⟨place, last, entries, htarget, rfl⟩ := write_eq_ok_iff.1 h
  obtain ⟨front, hparts, hplace⟩ := htarget.reached
  have hin := isIn_of_placeOf hplace
  have hreplaced : IsReplaced (place.names ++ [last]) content files.root
      (putFile place entries last content) := by
    refine isReplaced_rebuild (isReplaced_insert htarget.free content) ?_
    rw [← htarget.directory]
    exact hin
  refine ⟨?_, place, last, entries, htarget, hreplaced⟩
  generalize putFile place entries last content = root at hreplaced
  -- The way to the directory of the file leads to the same names as before.
  have hstart : Place.IsIn ⟨[], root⟩ root := rfl
  obtain ⟨⟨above, node⟩, hwalk, hqin, hnames⟩ := exists_walk_of_keepsDirectories
    hreplaced.keepsDirectories hplace htarget.directory rfl hstart rfl
  have hq : placeOf ⟨root, files.workingDirectory⟩ path front = .ok ⟨above, node⟩ := hwalk
  have hwritten := at?_of_look? hreplaced.written
  rw [← hnames, at?_append, at?_names hqin] at hwritten
  obtain ⟨es, rfl, hlookup⟩ := exists_of_at?_singleton hwritten
  have hfound : placeOf ⟨root, files.workingDirectory⟩ path (FilePath.parts path)
      = .ok ⟨(last, es) :: above, .file content⟩ := by
    rw [placeOf, hparts, ← List.append_assoc, walk_append]
    rw [placeOf] at hq
    rw [hq]
    exact walk_singleton_iff.2 (.down htarget.name htarget.short hlookup)
  rw [find, htarget.usable, hfound]
  rfl

end FileSystem
end Ambient
