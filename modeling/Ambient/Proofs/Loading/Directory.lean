import Ambient.Proofs.Loading.Collected
import Ambient.Proofs.Loading.Leaves

/-!
# What a directory adds to a draft

The JSON files below a directory are read one after the other.  Each is read as a whole before any
of its modules is added, so a file either adds all of its modules or ends the reading and adds none.

## What is here

* `Leaf.modules` — the modules of a file, or why they cannot be read; `Failure.origin?` — the file
  at which something failed.
* `run_file` — what reading one file does.
* `run_leaves_of_ok`, `run_leaves_of_error` — what reading several files does, if all of them can be
  read, and if one of them cannot.
* `directory_of_tree` — reading a directory is reading the JSON files below it in order.
-/

set_option autoImplicit false

namespace Ambient

open FileTree

/-! ## One file -/

/-- The modules of a file, or why they cannot be read. -/
def FileTree.Leaf.modules (root : String) (l : Leaf) : Except Failure (List Module) :=
  match readText (.file l.content) with
  | .error e => .error (.file (l.path root) e)
  | .ok text => modulesOf (l.path root) text

/-- The document or file at which something failed. -/
def Failure.origin? : Failure → Option String
  | missingName _ => none
  | metadata origin _ => some origin
  | file path _ => some path
  | outputFull => none

/-- What fails in a file carries the path of the file. -/
theorem origin_of_modules {root : String} {l : Leaf} {e : Failure}
    (h : l.modules root = .error e) : e.origin? = some (l.path root) := by
  rw [Leaf.modules] at h
  split at h
  · cases h
    rfl
  · rw [modulesOf] at h
    split at h
    · cases h
      rfl
    · split at h
      · cases h
        rfl
      · cases h

theorem modules_eq (root : String) (l : Leaf) :
    l.modules root = fileModules (l.path root) (.ok (.file l.content)) := by
  rw [Leaf.modules, fileModules]
  rfl

/-- A file adds all of its modules, or it fails and adds none. -/
theorem run_file (root : String) (l : Leaf) (draft : Draft) :
    (Loading.file (l.path root) (.ok (.file l.content))).run draft =
      match l.modules root with
      | .ok ms => (.ok (), draft.add ms)
      | .error e => (.error e, draft) := by
  rw [modules_eq]
  exact run_file_eq _ _ draft

/-! ## Several files -/

/-- The files can be read, and have these modules. -/
def HaveModules (root : String) (ls : List Leaf) (mss : List (List Module)) : Prop :=
  List.Forall₂ (fun l ms => l.modules root = .ok ms) ls mss

/-- The files are read one after the other. -/
def Loading.leaves (root : String) (ls : List Leaf) : Loading Unit :=
  ls.forM fun l => Loading.file (l.path root) (.ok (.file l.content))

theorem run_leaves_cons_of_ok {root : String} {l : Leaf} {ms : List Module}
    (h : l.modules root = .ok ms) (rest : List Leaf) (draft : Draft) :
    (Loading.leaves root (l :: rest)).run draft
      = (Loading.leaves root rest).run (draft.add ms) := by
  have hfile := run_file root l draft
  rw [h] at hfile
  exact run_bind_eq _ hfile

theorem run_leaves_cons_of_error {root : String} {l : Leaf} {e : Failure}
    (h : l.modules root = .error e) (rest : List Leaf) (draft : Draft) :
    (Loading.leaves root (l :: rest)).run draft = (.error e, draft) := by
  have hfile := run_file root l draft
  rw [h] at hfile
  exact run_bind_eq _ hfile

/-- Files that can be read add their modules in order, and what is read then goes on from there. -/
theorem run_leaves_append {root : String} {front : List Leaf} {mss : List (List Module)}
    (h : HaveModules root front mss) (back : List Leaf) (draft : Draft) :
    (Loading.leaves root (front ++ back)).run draft
      = (Loading.leaves root back).run (draft.add mss.flatten) := by
  induction h generalizing draft with
  | nil => rw [List.nil_append, List.flatten_nil, add_nil]
  | cons hl _ ih =>
    rw [List.cons_append, run_leaves_cons_of_ok hl, ih, List.flatten_cons, add_add]

/-- If all files can be read, all of their modules are added. -/
theorem run_leaves_of_ok {root : String} {ls : List Leaf} {mss : List (List Module)}
    (h : HaveModules root ls mss) (draft : Draft) :
    (Loading.leaves root ls).run draft = (.ok (), draft.add mss.flatten) := by
  have hrun := run_leaves_append h [] draft
  rwa [List.append_nil] at hrun

/-- The first file that fails ends the reading. -/
theorem run_leaves_of_error {root : String} {front : List Leaf} {l : Leaf}
    {mss : List (List Module)} {e : Failure} (h : HaveModules root front mss)
    (hl : l.modules root = .error e) (back : List Leaf) (draft : Draft) :
    (Loading.leaves root (front ++ l :: back)).run draft = (.error e, draft.add mss.flatten) := by
  rw [run_leaves_append h, run_leaves_cons_of_error hl]

/-! ## Directories -/

/-- The JSON files of the tree can be opened, if the tree lies at `root`. -/
def FileTree.IsReadable (root : String) (tree : FileTree) : Prop :=
  ∀ l ∈ tree.leaves, l.isJson root = true → FilePath.check (l.path root) = .ok ()

theorem isTooLong_of_check {path : String} (h : FilePath.check path = .ok ()) :
    FilePath.isTooLong path = false := by
  rw [FilePath.check] at h
  split at h
  · cases h
  · split at h
    · cases h
    · split at h
      · cases h
      · rename_i hshort
        exact Bool.not_eq_true _ ▸ hshort

/-- A directory is read file by file. -/
theorem exists_directory_eq {root : String} {tree : FileTree} (h : tree.IsDistinct)
    (hread : tree.IsReadable root) :
    ∃ ls, Found root ((FilePath.fileName? root).getD "") tree ls ∧
      Loading.directory root (.ok tree) = Loading.leaves root ls := by
  obtain ⟨ls, hls⟩ := exists_leaves h fun l hl hjson => isTooLong_of_check (hread l hl hjson)
  refine ⟨ls, hls, ?_⟩
  have hcheck : ∀ l ∈ ls, FilePath.check (l.path root) = .ok () := fun l hl =>
    have hmem := List.mem_filter.1 (hls.perm.mem_iff.1 hl)
    hread l hmem.1 hmem.2
  rw [Loading.directory, jsonFiles, hls.files, Loading.leaves]
  clear hls
  induction ls with
  | nil => rfl
  | cons l rest ih =>
    rw [List.forall_mem_cons] at hcheck
    rw [List.map_cons]
    simp only [List.forM_eq_forM, List.forM_cons] at ih ⊢
    rw [hcheck.1, ih hcheck.2]
    rfl

/-- **Reading a directory is reading the JSON files below it**, in the order of the names that lead
to them.  If all of them can be read, the draft has all of their modules behind its own.  If not,
the first that cannot be read ends the reading with an error that carries its path, and the draft
has the modules of the files in front of it.  In which order directories list their entries plays no
part. -/
theorem directory_of_tree {root : String} {tree : FileTree} (h : tree.IsDistinct)
    (hread : tree.IsReadable root) :
    ∃ ls : List Leaf, ls.Perm (tree.leaves.filter (Leaf.isJson root)) ∧ ls.Pairwise Leaf.Before ∧
      ∀ draft : Draft,
        (∀ mss, HaveModules root ls mss →
          (Loading.directory root (.ok tree)).run draft = (.ok (), draft.add mss.flatten)) ∧
        (∀ front l back mss e, ls = front ++ l :: back → HaveModules root front mss →
          l.modules root = .error e → e.origin? = some (l.path root) ∧
            (Loading.directory root (.ok tree)).run draft = (.error e, draft.add mss.flatten)) ∧
        ∀ other, tree.Relisted other →
          (Loading.directory root (.ok other)).run draft
            = (Loading.directory root (.ok tree)).run draft := by
  obtain ⟨ls, hls, hdirectory⟩ := exists_directory_eq h hread
  refine ⟨ls, hls.perm, hls.order, fun draft => ⟨fun mss hmss => ?_, ?_, fun other hother => ?_⟩⟩
  · rw [hdirectory, run_leaves_of_ok hmss]
  · rintro front l back mss e rfl hmss hl
    exact ⟨origin_of_modules hl, by rw [hdirectory, run_leaves_of_error hmss hl]⟩
  · have hread2 : other.IsReadable root := fun l hl => hread l (hother.perm.mem_iff.2 hl)
    obtain ⟨ks, hks, hdirectory2⟩ := exists_directory_eq (hother.isDistinct h) hread2
    rw [hdirectory, hdirectory2, hls.eq_of_perm hks hother.perm]

/-- A JSON file in a directory `a`. -/
def innerLeaf : Leaf := ⟨["a", "x.json"], "[[\"app\"]]".toUTF8⟩

/-- A JSON file beside the directory, in which an array is not closed. -/
def brokenLeaf : Leaf := ⟨["a-b.json"], "[".toUTF8⟩

/-- A directory that lists the broken file in front of the directory `a`. -/
def nestedTree : FileTree := .directory [
  ("notes.txt", .file "".toUTF8),
  ("a-b.json", .file brokenLeaf.content),
  ("a", .directory [("x.json", .file innerLeaf.content)])]

/-- The file in `a` is read first, although `api/a-b.json` stands before `api/a/x.json` as a text,
and its module stays when the next file fails. -/
theorem directory_of_tree_nested :
    nestedTree.IsDistinct ∧ nestedTree.IsReadable "api" ∧ "api/a-b.json" < "api/a/x.json" ∧
      ∃ e draft, (Loading.directory "api" (.ok nestedTree)).run {} = (.error e, draft) ∧
        e.origin? = some "api/a-b.json" ∧ draft.modules.map Module.name = ["app"] := by
  have hdistinct : nestedTree.IsDistinct := by
    refine .directory (by decide) ?_
    simp only [List.forall_mem_cons]
    refine ⟨.file _, .file _, .directory (by decide) ?_, by simp⟩
    exact List.forall_mem_singleton.2 (.file _)
  have hleaves : nestedTree.leaves.filter (Leaf.isJson "api") = [brokenLeaf, innerLeaf] := rfl
  have hread : nestedTree.IsReadable "api" := by
    intro l hl hjson
    have hmem : l ∈ [brokenLeaf, innerLeaf] := hleaves ▸ List.mem_filter.2 ⟨hl, hjson⟩
    simp only [List.mem_cons, List.not_mem_nil, or_false] at hmem
    rcases hmem with rfl | rfl <;> rfl
  obtain ⟨ls, hperm, horder, hruns⟩ := directory_of_tree hdistinct hread
  have hbefore : Leaf.Before innerLeaf brokenLeaf := by
    rw [Leaf.Before, NamesBefore]
    decide +kernel
  obtain rfl : ls = [innerLeaf, brokenLeaf] := by
    refine List.Perm.eq_of_pairwise (fun l k _ _ hlk hkl => absurd hkl hlk.asymm) horder
      (List.pairwise_pair.2 hbefore) (hperm.trans ?_)
    rw [hleaves]
    exact .swap _ _ _
  have hinner : (innerLeaf.modules "api").toOption.map (List.map Module.name) = some ["app"] := by
    decide +kernel
  have hbroken : (brokenLeaf.modules "api").toOption.isNone = true := by decide +kernel
  cases hms : innerLeaf.modules "api" with
  | error e =>
    rw [hms] at hinner
    cases hinner
  | ok ms =>
    cases he : brokenLeaf.modules "api" with
    | ok more =>
      rw [he] at hbroken
      cases hbroken
    | error e =>
      obtain ⟨horigin, hrun⟩ := (hruns {}).2.1 [innerLeaf] brokenLeaf [] [ms] e rfl
        (.cons hms .nil) he
      rw [hms] at hinner
      refine ⟨hdistinct, hread, by decide, e, _, hrun, horigin, ?_⟩
      rw [Draft.add, List.nil_append, List.flatten_singleton]
      exact Option.some.inj hinner

end Ambient
