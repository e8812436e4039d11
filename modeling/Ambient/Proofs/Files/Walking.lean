import Ambient.FileSystem

/-!
# Ways through a tree of files

A place that a path leads to lies in the tree: the names above it lead from the root down to it.
So a place is known by these names, and where they lead to a directory in another tree as well, the
path leads to the same names there.

## What is here

* `FileTree.at? ns` — what lies below a tree at the end of a list of names.
* `FileSystem.Goes part p q` — one part of a path leads from one place to another;
  `walk_singleton_iff`, `walk_cons`.
* `Place.names`, `Place.IsIn` — the names that lead to a place, and that it lies in a tree;
  `isIn_of_walk`.
* `FileTree.KeepsDirectories` — where a directory lies in one tree, one lies in another.
* `exists_walk_of_keepsDirectories` — a path that leads to a directory leads to the same place in
  such a tree.
-/

set_option autoImplicit false

namespace Ambient

namespace FileTree

/-! ## Below a tree -/

/-- What lies at the end of a list of names, the first of which is one of an entry of the tree. -/
def at? : FileTree → List String → Option FileTree
  | tree, [] => some tree
  | .file _, _ :: _ => none
  | .directory entries, name :: rest => (entries.lookup name).bind fun tree => tree.at? rest

theorem at?_nil (tree : FileTree) : tree.at? [] = some tree := by
  cases tree <;> rfl

theorem at?_append (tree : FileTree) (front back : List String) :
    tree.at? (front ++ back) = (tree.at? front).bind fun t => t.at? back := by
  induction front generalizing tree with
  | nil => rw [List.nil_append, at?_nil, Option.bind_some]
  | cons name rest ih =>
    cases tree with
    | file content => rfl
    | directory entries =>
      rw [List.cons_append, at?, at?, Option.bind_assoc]
      exact congrArg (Option.bind _) (funext fun t => ih t)

/-- Where a directory lies in the tree, one lies in the other. -/
def KeepsDirectories (tree other : FileTree) : Prop :=
  ∀ ns entries, tree.at? ns = some (.directory entries) →
    ∃ more, other.at? ns = some (.directory more)

end FileTree

namespace FileSystem

/-! ## One part of a path -/

/-- What is computed in two steps is the result of the second. -/
theorem exists_of_bind_eq_ok {ε α β : Type} {x : Except ε α} {f : α → Except ε β} {b : β}
    (h : x >>= f = .ok b) : ∃ a, x = .ok a ∧ f a = .ok b := by
  cases x with
  | error e => cases h
  | ok a => exact ⟨a, rfl, h⟩

/-- The part is the name of an entry. -/
structure IsName (part : String) : Prop where
  ne_empty : part ≠ ""
  ne_here : part ≠ "."
  ne_above : part ≠ ".."

/-- One part of a path leads from one place to another. -/
inductive Goes (part : String) : Place → Place → Prop
  | stay {above : List (String × List (String × FileTree))} {entries : List (String × FileTree)}
      (here : part = "" ∨ part = ".") :
      Goes part ⟨above, .directory entries⟩ ⟨above, .directory entries⟩
  | top {entries : List (String × FileTree)} (dots : part = "..") :
      Goes part ⟨[], .directory entries⟩ ⟨[], .directory entries⟩
  | up {name : String} {outer entries : List (String × FileTree)}
      {above : List (String × List (String × FileTree))} (dots : part = "..") :
      Goes part ⟨(name, outer) :: above, .directory entries⟩ ⟨above, .directory outer⟩
  | down {above : List (String × List (String × FileTree))} {entries : List (String × FileTree)}
      {node : FileTree} (name : IsName part) (short : part.utf8ByteSize ≤ FilePath.greatestPart)
      (found : entries.lookup part = some node) :
      Goes part ⟨above, .directory entries⟩ ⟨(part, entries) :: above, node⟩

variable {p q : Place} {part : String} {parts : List String}

theorem walk_singleton_iff : walk p [part] = .ok q ↔ Goes part p q := by
  obtain ⟨above, node⟩ := p
  constructor
  · intro h
    cases node with
    | file content => cases h
    | directory entries =>
      rw [walk] at h
      dsimp only at h
      split at h
      · rename_i hhere
        cases h
        exact .stay hhere
      · rename_i hhere
        split at h
        · rename_i hdots
          split at h
          · cases h
            exact .top hdots
          · cases h
            exact .up hdots
        · rename_i hdots
          split at h
          · cases h
          · rename_i hshort
            split at h
            · cases h
            · rename_i hfound
              cases h
              exact .down ⟨fun h => hhere (.inl h), fun h => hhere (.inr h), hdots⟩
                (Nat.le_of_not_lt hshort) hfound
  · intro h
    cases h with
    | stay here => simp [walk, here]
    | top dots => simp [walk, dots]
    | up dots => simp [walk, dots]
    | down name short found =>
      simp [walk, name.ne_empty, name.ne_here, name.ne_above, found, Nat.not_lt.2 short]

/-- A path is followed part by part. -/
theorem walk_cons (p : Place) (part : String) (rest : List String) :
    walk p (part :: rest) = walk p [part] >>= fun r => walk r rest :=
  walk_append p [part] rest

theorem exists_of_walk_cons {rest : List String} (h : walk p (part :: rest) = .ok q) :
    ∃ r, Goes part p r ∧ walk r rest = .ok q := by
  rw [walk_cons] at h
  obtain ⟨r, hone, hrest⟩ := exists_of_bind_eq_ok h
  exact ⟨r, walk_singleton_iff.1 hone, hrest⟩

theorem walk_cons_of_goes {r : Place} (h : Goes part p r) (rest : List String) :
    walk p (part :: rest) = walk r rest := by
  rw [walk_cons, walk_singleton_iff.2 h]
  rfl

/-! ## Places in a tree -/

/-- The directories above a node lead from the root down to it. -/
def LeadsTo (root : FileTree) : List (String × List (String × FileTree)) → FileTree → Prop
  | [], node => node = root
  | (name, entries) :: above, node =>
    entries.lookup name = some node ∧ LeadsTo root above (.directory entries)

/-- The place lies in the tree. -/
def Place.IsIn (p : Place) (root : FileTree) : Prop := LeadsTo root p.above p.node

/-- The names that lead from the root to the place. -/
def Place.names (p : Place) : List String := (p.above.map Prod.fst).reverse

variable {root other : FileTree}

/-- A place in a tree is found under its names. -/
theorem at?_names (h : p.IsIn root) : root.at? p.names = some p.node := by
  obtain ⟨above, node⟩ := p
  induction above generalizing node with
  | nil =>
    obtain rfl : node = root := h
    exact FileTree.at?_nil node
  | cons frame above ih =>
    obtain ⟨name, entries⟩ := frame
    obtain ⟨hfound, habove⟩ := h
    have hnames : Place.names ⟨(name, entries) :: above, node⟩
        = Place.names ⟨above, .directory entries⟩ ++ [name] := by
      simp [Place.names]
    rw [hnames, FileTree.at?_append, ih _ habove]
    show (entries.lookup name).bind _ = some node
    rw [hfound]
    exact FileTree.at?_nil node

theorem isIn_of_goes (h : Goes part p q) (hp : p.IsIn root) : q.IsIn root := by
  cases h with
  | stay => exact hp
  | top => exact hp
  | up => exact hp.2
  | down name short found => exact ⟨found, hp⟩

/-- A path stays in the tree. -/
theorem isIn_of_walk (h : walk p parts = .ok q) (hp : p.IsIn root) : q.IsIn root := by
  induction parts generalizing p with
  | nil =>
    cases h
    exact hp
  | cons part rest ih =>
    obtain ⟨r, hgoes, hwalk⟩ := exists_of_walk_cons h
    exact ih hwalk (isIn_of_goes hgoes hp)

/-! ## The same path in another tree -/

/-- A path starts in a directory if it ends in one. -/
theorem exists_directory_of_walk {entries : List (String × FileTree)} (h : walk p parts = .ok q)
    (hq : q.node = .directory entries) : ∃ first, p.node = .directory first := by
  cases parts with
  | nil =>
    cases h
    exact ⟨entries, hq⟩
  | cons part rest =>
    obtain ⟨r, hgoes, -⟩ := exists_of_walk_cons h
    cases hgoes <;> exact ⟨_, rfl⟩

/-- One part of a path that leads on to a directory leads to the same names in the other tree. -/
theorem exists_goes_of_keepsDirectories {p2 : Place} {entries : List (String × FileTree)}
    (h : root.KeepsDirectories other) (hgoes : Goes part p q) (hq : q.node = .directory entries)
    (hp : p.IsIn root) (hp2 : p2.IsIn other) (hnames : p2.names = p.names) :
    ∃ q2, Goes part p2 q2 ∧ q2.names = q.names := by
  obtain ⟨above2, node2⟩ := p2
  -- The place in the other tree is a directory, as the one in the tree is.
  have hdirectory : ∃ first, p.node = .directory first := by cases hgoes <;> exact ⟨_, rfl⟩
  obtain ⟨first, hfirst⟩ := hdirectory
  obtain ⟨more, hmore⟩ := h p.names first (by rw [at?_names hp, hfirst])
  rw [← hnames, at?_names hp2, Option.some.injEq] at hmore
  obtain rfl : node2 = .directory more := hmore
  cases hgoes with
  | stay here => exact ⟨_, .stay here, hnames⟩
  | top dots =>
    cases above2 with
    | nil => exact ⟨_, .top dots, rfl⟩
    | cons frame rest => simp [Place.names] at hnames
  | @up name outer inner above dots =>
    cases above2 with
    | nil => simp [Place.names] at hnames
    | cons frame rest =>
      refine ⟨_, .up dots, ?_⟩
      simp only [Place.names, List.map_cons, List.reverse_cons] at hnames ⊢
      exact (List.append_inj' hnames rfl).1
  | @down above inner node name short found =>
    obtain rfl : node = .directory entries := hq
    have hbelow : root.at? (Place.names ⟨above, .directory inner⟩ ++ [part])
        = some (.directory entries) := by
      rw [FileTree.at?_append, at?_names hp]
      show (inner.lookup part).bind _ = _
      rw [found]
      rfl
    obtain ⟨deeper, hdeeper⟩ := h _ _ hbelow
    rw [← hnames, FileTree.at?_append, at?_names hp2] at hdeeper
    have hfound : more.lookup part = some (.directory deeper) := by
      change (more.lookup part).bind _ = _ at hdeeper
      obtain ⟨t, ht, hsome⟩ := Option.bind_eq_some_iff.1 hdeeper
      rw [FileTree.at?_nil, Option.some.injEq] at hsome
      rw [ht, hsome]
    refine ⟨_, .down name short hfound, ?_⟩
    simp only [Place.names, List.map_cons, List.reverse_cons] at hnames ⊢
    rw [hnames]

/-- **A path that leads to a directory leads to the same names in the other tree.** -/
theorem exists_walk_of_keepsDirectories {p2 : Place} {entries : List (String × FileTree)}
    (h : root.KeepsDirectories other) (hwalk : walk p parts = .ok q)
    (hq : q.node = .directory entries) (hp : p.IsIn root) (hp2 : p2.IsIn other)
    (hnames : p2.names = p.names) :
    ∃ q2, walk p2 parts = .ok q2 ∧ q2.IsIn other ∧ q2.names = q.names := by
  induction parts generalizing p p2 with
  | nil =>
    cases hwalk
    exact ⟨p2, rfl, hp2, hnames⟩
  | cons part rest ih =>
    obtain ⟨r, hgoes, hrest⟩ := exists_of_walk_cons hwalk
    obtain ⟨first, hfirst⟩ := exists_directory_of_walk hrest hq
    obtain ⟨r2, hgoes2, hnames2⟩ :=
      exists_goes_of_keepsDirectories h hgoes hfirst hp hp2 hnames
    obtain ⟨q2, hwalk2, hq2⟩ := ih hrest (isIn_of_goes hgoes hp) (isIn_of_goes hgoes2 hp2) hnames2
    exact ⟨q2, (walk_cons_of_goes hgoes2 rest).trans hwalk2, hq2⟩

end FileSystem
end Ambient
