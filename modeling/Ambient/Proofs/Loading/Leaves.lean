import Mathlib.Data.List.Forall2
import Ambient.FileTree
import Ambient.Proofs.Member.Order
import Ambient.Proofs.Text.ByteOrder

/-!
# The files of a tree

A file of a tree is found under the names that lead to it.  The search for JSON files goes through a
directory entry by entry, in the order of the names of the entries, and through each entry before
the next.  So it finds the files in the order of the lists of names that lead to them: what stands
first in the lists that differ decides, and a directory stands with all that is below it where its
name stands.

## What is here

* `FileTree.Leaf`, `FileTree.leaves` — a file with the names that lead to it, and all files of a
  tree.
* `FileTree.IsDistinct` — no directory has two entries of one name.
* `FileTree.Relisted` — the same tree, whose directories list their entries in another order.
* `Leaf.Before` — the order of lists of names, by the bytes of the names.
* `exists_leaves` — the search finds the JSON files of a tree, each once, in that order.
-/

set_option autoImplicit false

namespace Ambient

open Text

/-! ## Order of lists of names -/

/-- A list of names stands before another one: the first name in which they differ does, by its
bytes, or nothing is left of the list. -/
def NamesBefore (ns ms : List String) : Prop := ns.map bytes < ms.map bytes

theorem namesBefore_cons_iff {n m : String} {ns ms : List String} :
    NamesBefore (n :: ns) (m :: ms) ↔ n < m ∨ n = m ∧ NamesBefore ns ms := by
  rw [NamesBefore, List.map_cons, List.map_cons, List.cons_lt_cons_iff, bytes_lt_iff]
  refine or_congr_right (and_congr_left fun _ => ⟨fun h => ?_, congrArg bytes⟩)
  -- Texts with the same bytes are in neither order.
  rcases Std.lt_trichotomy n m with hlt | heq | hlt
  · exact absurd (h ▸ bytes_lt_iff.2 hlt) (List.lt_irrefl _)
  · exact heq
  · exact absurd (h ▸ bytes_lt_iff.2 hlt) (List.lt_irrefl _)

theorem NamesBefore.asymm {ns ms : List String} (h : NamesBefore ns ms) : ¬ NamesBefore ms ns :=
  List.lt_asymm h

namespace FileTree

/-! ## Files -/

/-- Trees by what they are made of. -/
theorem induct {motive : FileTree → Prop} (file : ∀ content, motive (.file content))
    (directory : ∀ entries, (∀ e ∈ entries, motive e.2) → motive (.directory entries)) :
    ∀ tree, motive tree
  | .file content => file content
  | .directory entries => directory entries fun e he => by
      have hlt : sizeOf e.2 < sizeOf entries := by
        have hmem := List.sizeOf_lt_of_mem he
        obtain ⟨name, tree⟩ := e
        simp only [Prod.mk.sizeOf_spec] at hmem ⊢
        omega
      exact induct file directory e.2

/-- A file of a tree: the names that lead to it, outermost first, and its bytes. -/
structure Leaf where
  names : List String
  content : ByteArray

namespace Leaf

/-- The file seen from a directory further up. -/
def below (name : String) (l : Leaf) : Leaf := { l with names := name :: l.names }

/-- The path of the file, if the tree lies at `root`. -/
def path (root : String) (l : Leaf) : String := l.names.foldl FilePath.join root

/-- The file is a JSON file, if the tree is called `name`. -/
def isJsonIn (name : String) (l : Leaf) : Bool := FilePath.isJson (l.names.getLastD name)

/-- The file is a JSON file, if the tree lies at `root`. -/
def isJson (root : String) (l : Leaf) : Bool := l.isJsonIn ((FilePath.fileName? root).getD "")

/-- The file is found earlier, by the names that lead to it. -/
def Before (l k : Leaf) : Prop := NamesBefore l.names k.names

end Leaf

mutual

/-- The files of a tree, as the directories list their entries. -/
def leaves : FileTree → List Leaf
  | file content => [⟨[], content⟩]
  | directory entries => leavesOf entries

/-- The files below several entries. -/
def leavesOf : List (String × FileTree) → List Leaf
  | [] => []
  | (name, tree) :: rest => tree.leaves.map (Leaf.below name) ++ leavesOf rest

end

theorem leavesOf_eq (entries : List (String × FileTree)) :
    leavesOf entries = entries.flatMap fun e => e.2.leaves.map (Leaf.below e.1) := by
  induction entries with
  | nil => rfl
  | cons e rest ih => rw [leavesOf, ih, List.flatMap_cons]

/-! ## Trees that exist -/

/-- No directory has two entries of one name. -/
inductive IsDistinct : FileTree → Prop
  | file (content : ByteArray) : IsDistinct (.file content)
  | directory {entries : List (String × FileTree)} (names : (entries.map Prod.fst).Nodup)
      (trees : ∀ e ∈ entries, IsDistinct e.2) : IsDistinct (.directory entries)

mutual

/-- The trees differ at most in the order in which directories list their entries. -/
inductive Relisted : FileTree → FileTree → Prop
  | file (content : ByteArray) : Relisted (.file content) (.file content)
  | directory {entries others listed : List (String × FileTree)}
      (trees : EntriesRelisted entries others) (order : others.Perm listed) :
      Relisted (.directory entries) (.directory listed)

/-- The entries have the same names one by one, and relisted trees under them. -/
inductive EntriesRelisted : List (String × FileTree) → List (String × FileTree) → Prop
  | nil : EntriesRelisted [] []
  | cons {entries others : List (String × FileTree)} {tree other : FileTree} (name : String)
      (first : Relisted tree other) (rest : EntriesRelisted entries others) :
      EntriesRelisted ((name, tree) :: entries) ((name, other) :: others)

end

mutual

/-- A tree that is relisted has the same files. -/
theorem Relisted.perm : ∀ {tree other : FileTree}, tree.Relisted other →
    tree.leaves.Perm other.leaves
  | _, _, .file _ => .refl _
  | _, _, .directory trees order => by
    rw [leaves, leaves]
    refine trees.perm.trans ?_
    rw [leavesOf_eq, leavesOf_eq]
    exact order.flatMap_right _

theorem EntriesRelisted.perm : ∀ {entries others : List (String × FileTree)},
    EntriesRelisted entries others → (leavesOf entries).Perm (leavesOf others)
  | _, _, .nil => .refl _
  | _, _, .cons name first rest => by
    rw [leavesOf, leavesOf]
    exact (first.perm.map _).append rest.perm

end

mutual

/-- A tree that is relisted has distinct names as well. -/
theorem Relisted.isDistinct : ∀ {tree other : FileTree}, tree.Relisted other → tree.IsDistinct →
    other.IsDistinct
  | _, _, .file content, _ => .file content
  | _, _, .directory trees order, .directory names distinct => by
    obtain ⟨hnames, hdistinct⟩ := trees.isDistinct distinct
    refine .directory ?_ fun e he => hdistinct e (order.mem_iff.2 he)
    exact (order.map Prod.fst).nodup_iff.1 (hnames ▸ names)

theorem EntriesRelisted.isDistinct : ∀ {entries others : List (String × FileTree)},
    EntriesRelisted entries others → (∀ e ∈ entries, e.2.IsDistinct) →
      entries.map Prod.fst = others.map Prod.fst ∧ ∀ e ∈ others, e.2.IsDistinct
  | _, _, .nil, _ => ⟨rfl, by simp⟩
  | _, _, .cons name first rest, h => by
    rw [List.forall_mem_cons] at h
    obtain ⟨hnames, hrest⟩ := rest.isDistinct h.2
    refine ⟨by rw [List.map_cons, List.map_cons, hnames], ?_⟩
    exact List.forall_mem_cons.2 ⟨first.isDistinct h.1, hrest⟩

end

/-! ## What the search finds -/

theorem jsonFilesOf_eq (path : String) (entries : List (String × FileTree)) :
    jsonFilesOf path entries
      = entries.map fun e => (e.1, jsonFilesAt (FilePath.join path e.1) e.1 e.2) := by
  induction entries with
  | nil => rfl
  | cons e rest ih => rw [jsonFilesOf, ih, List.map_cons]

/-- A directory that can be opened is searched entry by entry, in the order of their names. -/
theorem jsonFilesAt_directory {path : String} (h : FilePath.isTooLong path = false) (name : String)
    (entries : List (String × FileTree)) :
    jsonFilesAt path name (.directory entries)
      = (sortedByName Prod.fst entries).flatMap fun e =>
        jsonFilesAt (FilePath.join path e.1) e.1 e.2 := by
  rw [jsonFilesAt, h, if_neg Bool.false_ne_true, jsonFilesOf_eq, sortedByName]
  rw [← List.map_mergeSort (r := fun a b => !decide (b.1 < a.1)) (by simp), List.flatMap_map]

theorem le_join (path name : String) :
    path.utf8ByteSize ≤ (FilePath.join path name).utf8ByteSize := by
  rw [FilePath.join]
  split
  · rw [String.utf8ByteSize_append]
    omega
  · rw [String.utf8ByteSize_append, String.utf8ByteSize_append]
    omega

/-- What lies below a path that is too long has a path that is too long. -/
theorem isTooLong_path {root : String} (h : FilePath.isTooLong root = true) (l : Leaf) :
    FilePath.isTooLong (l.path root) = true := by
  obtain ⟨names, content⟩ := l
  induction names generalizing root with
  | nil => exact h
  | cons name rest ih =>
    have hjoin : FilePath.isTooLong (FilePath.join root name) = true := by
      rw [FilePath.isTooLong, decide_eq_true_iff] at h ⊢
      exact Nat.lt_of_lt_of_le h (le_join root name)
    exact ih hjoin

theorem isJsonIn_below (name other : String) (l : Leaf) :
    (l.below name).isJsonIn other = l.isJsonIn name := by
  obtain ⟨names, content⟩ := l
  rw [Leaf.isJsonIn, Leaf.isJsonIn, Leaf.below, List.getLastD_cons]

/-- The leaves are those that the search finds in a tree that is called `name` and lies at `root`:
its JSON files, each once, in order. -/
structure Found (root name : String) (tree : FileTree) (ls : List Leaf) : Prop where
  files : jsonFilesAt root name tree = ls.map fun l => (l.path root, l.content)
  perm : ls.Perm (tree.leaves.filter (Leaf.isJsonIn name))
  order : ls.Pairwise Leaf.Before

/-- A file is found if it has the name of a JSON file. -/
theorem found_file {root name : String} (content : ByteArray) :
    ∃ ls, Found root name (.file content) ls := by
  cases hjson : FilePath.isJson name with
  | true =>
    refine ⟨[⟨[], content⟩], ?_, ?_, List.pairwise_singleton _ _⟩
    · rw [jsonFilesAt, hjson, if_pos rfl]
      rfl
    · rw [leaves, List.filter_cons_of_pos (by exact hjson), List.filter_nil]
  | false =>
    refine ⟨[], ?_, ?_, .nil⟩
    · rw [jsonFilesAt, hjson, if_neg Bool.false_ne_true]
      rfl
    · rw [leaves, List.filter_cons_of_neg (by simp [Leaf.isJsonIn, hjson]), List.filter_nil]

/-- What is found below entries that stand in the order of their names. -/
theorem found_entries {root : String} (name : String) {entries : List (String × FileTree)}
    (h : ∀ e ∈ entries, ∃ ls, Found (FilePath.join root e.1) e.1 e.2 ls)
    (hsorted : entries.Pairwise fun e f => e.1 < f.1) :
    ∃ ls : List Leaf,
      (entries.flatMap fun e => jsonFilesAt (FilePath.join root e.1) e.1 e.2)
        = ls.map (fun l => (l.path root, l.content)) ∧
      ls.Perm ((leavesOf entries).filter (Leaf.isJsonIn name)) ∧ ls.Pairwise Leaf.Before := by
  induction entries with
  | nil => exact ⟨[], rfl, .refl _, .nil⟩
  | cons e rest ih =>
    rw [List.forall_mem_cons] at h
    rw [List.pairwise_cons] at hsorted
    obtain ⟨first, hfirst⟩ := h.1
    obtain ⟨more, hfiles, hperm, horder⟩ := ih h.2 hsorted.2
    have hbelow : (e.2.leaves.map (Leaf.below e.1)).filter (Leaf.isJsonIn name)
        = (e.2.leaves.filter (Leaf.isJsonIn e.1)).map (Leaf.below e.1) := by
      rw [List.filter_map]
      exact congrArg _ (List.filter_congr fun l _ => isJsonIn_below e.1 name l)
    refine ⟨first.map (Leaf.below e.1) ++ more, ?_, ?_, ?_⟩
    · rw [List.flatMap_cons, hfirst.files, hfiles, List.map_append, List.map_map]
      rfl
    · rw [leavesOf, List.filter_append, hbelow]
      exact (hfirst.perm.map _).append hperm
    · refine List.pairwise_append.2 ⟨?_, horder, fun l hl k hk => ?_⟩
      · exact List.pairwise_map.2 (hfirst.order.imp fun hlk =>
          namesBefore_cons_iff.2 (Or.inr ⟨rfl, hlk⟩))
      · -- The entries in which the two are found have names in this order.
        obtain ⟨first, -, rfl⟩ := List.mem_map.1 hl
        have hmem := (List.mem_filter.1 (hperm.mem_iff.1 hk)).1
        rw [leavesOf_eq, List.mem_flatMap] at hmem
        obtain ⟨f, hf, hmem⟩ := hmem
        obtain ⟨later, -, rfl⟩ := List.mem_map.1 hmem
        exact namesBefore_cons_iff.2 (Or.inl (hsorted.1 f hf))

/-- Sorted entries of distinct names stand in the strict order of their names. -/
theorem pairwise_sorted_entries {entries : List (String × FileTree)}
    (h : (entries.map Prod.fst).Nodup) :
    (sortedByName Prod.fst entries).Pairwise fun e f => e.1 < f.1 := by
  have hnodup := ((sortedByName_perm Prod.fst entries).map Prod.fst).nodup_iff.2 h
  refine ((pairwise_sortedByName Prod.fst entries).and (List.pairwise_map.1 hnodup)).imp ?_
  rintro e f ⟨hle, hne⟩
  exact Std.lt_of_le_of_ne hle hne

/-- **The search finds the JSON files of a tree**, each once and in order, if none of them has a
path that is too long. -/
theorem exists_leaves {root name : String} {tree : FileTree} (h : tree.IsDistinct)
    (hopen : ∀ l ∈ tree.leaves, l.isJsonIn name = true →
      FilePath.isTooLong (l.path root) = false) : ∃ ls, Found root name tree ls := by
  induction tree using FileTree.induct generalizing root name with
  | file content => exact found_file content
  | directory entries ih =>
    cases h with
    | directory names trees =>
    cases hlong : FilePath.isTooLong root with
    | true =>
      -- There is nothing to be found in a directory that cannot be opened.
      refine ⟨[], by rw [jsonFilesAt, hlong, if_pos rfl]; rfl, ?_, .nil⟩
      rw [List.filter_eq_nil_iff.2 fun l hl hjson => ?_]
      have hshort := hopen l hl hjson
      rw [isTooLong_path hlong l] at hshort
      cases hshort
    | false =>
      have hentries : ∀ e ∈ sortedByName Prod.fst entries,
          ∃ ls, Found (FilePath.join root e.1) e.1 e.2 ls := by
        intro e he
        rw [mem_sortedByName] at he
        refine ih e he (trees e he) fun l hl hjson => hopen (l.below e.1) ?_ ?_
        · rw [leaves, leavesOf_eq]
          exact List.mem_flatMap.2 ⟨e, he, List.mem_map_of_mem hl⟩
        · rw [isJsonIn_below, hjson]
      obtain ⟨ls, hfiles, hperm, horder⟩ :=
        found_entries name hentries (pairwise_sorted_entries names)
      refine ⟨ls, by rw [jsonFilesAt_directory hlong, hfiles], hperm.trans ?_, horder⟩
      rw [leaves, leavesOf_eq, leavesOf_eq]
      exact ((sortedByName_perm Prod.fst entries).flatMap_right _).filter _

/-- What is found is determined by the files of the tree. -/
theorem Found.eq_of_perm {root name : String} {tree other : FileTree} {ls ks : List Leaf}
    (hls : Found root name tree ls) (hks : Found root name other ks)
    (h : tree.leaves.Perm other.leaves) : ls = ks := by
  have hperm : ls.Perm ks := hls.perm.trans ((h.filter _).trans hks.perm.symm)
  exact hperm.eq_of_pairwise (fun l k _ _ hlk hkl => absurd hkl hlk.asymm) hls.order hks.order

end FileTree
end Ambient
