import Ambient.Dictionary
import Ambient.FileTree

/-!
# File systems

The tree below the root, seen from a working directory.  A path is followed part by part: an empty
part and `.` stay where they are, `..` goes one directory up, and at the root it stays.

## What is here

* `FileSystem` — the tree and the working directory.
* `FileSystem.find` — what lies at a path.
* `FileSystem.write` — the file system with a file replaced or added.
* `walk_append` — a path that is followed in two steps leads to the same place.
-/

set_option autoImplicit false

namespace Ambient

/-- A tree of files, and the names that lead from its root to the working directory. -/
structure FileSystem where
  root : FileTree
  workingDirectory : List String

namespace FileSystem

/-! ## Places -/

/-- What lies at a place, and the directories above it with the names that lead down, innermost
first. -/
structure Place where
  above : List (String × List (String × FileTree))
  node : FileTree

/-- Goes on from a place, part by part.  Every part needs a directory, also the empty ones. -/
def walk (place : Place) : List String → Except FileError Place
  | [] => .ok place
  | part :: rest =>
    match place.node with
    | .file _ => .error .notDirectory
    | .directory entries =>
      if part = "" ∨ part = "." then walk place rest
      else if part = ".." then
        match place.above with
        | [] => walk place rest
        | (_, outer) :: above => walk ⟨above, .directory outer⟩ rest
      else if FilePath.greatestPart < part.utf8ByteSize then .error .nameTooLong
      else match entries.lookup part with
        | none => .error .notFound
        | some node => walk ⟨(part, entries) :: place.above, node⟩ rest

theorem walk_append (place : Place) (front back : List String) :
    walk place (front ++ back) = walk place front >>= fun p => walk p back := by
  induction front generalizing place with
  | nil => rfl
  | cons part rest ih =>
    obtain ⟨above, node⟩ := place
    simp only [List.cons_append, walk, ih]
    repeat' split
    all_goals rfl

/-- The names in front of the parts of a path: the way to the working directory, unless the path
starts at the root. -/
def base (files : FileSystem) (path : String) : List String :=
  if FilePath.isAbsolute path then [] else files.workingDirectory

/-- The place that the parts lead to from the start of a path. -/
def placeOf (files : FileSystem) (path : String) (parts : List String) : Except FileError Place :=
  walk ⟨[], files.root⟩ (files.base path ++ parts)

/-! ## Reading -/

/-- What lies at a path. -/
def find (files : FileSystem) (path : String) : Except FileError FileTree := do
  FilePath.check path
  let place ← files.placeOf path (FilePath.parts path)
  return place.node

/-! ## Writing -/

/-- The whole tree, when `node` lies below the directories `above`. -/
def rebuild (node : FileTree) : List (String × List (String × FileTree)) → FileTree
  | [] => node
  | (name, entries) :: above => rebuild (.directory (Entries.insert name node entries)) above

/-- The whole tree with the file `name` in the directory at `place`. -/
def writeAt (place : Place) (name : String) (content : ByteArray) : Except FileError FileTree :=
  match place.node with
  | .file _ => .error .notDirectory
  | .directory entries =>
    if FilePath.greatestPart < name.utf8ByteSize then .error .nameTooLong
    else match entries.lookup name with
      | some (.directory _) => .error .isDirectory
      | _ => .ok (rebuild (.directory (Entries.insert name (.file content) entries)) place.above)

/-- The file system with a file at `path`.  A path that ends in a slash or in points means a
directory. -/
def write (files : FileSystem) (path : String) (content : ByteArray) :
    Except FileError FileSystem := do
  FilePath.check path
  let parts := FilePath.parts path
  let named := FilePath.withoutSlashes parts
  let place ← files.placeOf path named.dropLast
  match named.getLast? with
  | none => .error .isDirectory
  | some last =>
    if !place.node.isDirectory then .error .notDirectory
    else if named.length < parts.length ∨ last = "." ∨ last = ".." then .error .isDirectory
    else return { files with root := ← writeAt place last content }

end FileSystem
end Ambient
