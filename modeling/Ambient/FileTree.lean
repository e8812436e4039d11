import Ambient.FilePath

/-!
# Trees of files

A file, or a directory with all that lies below it, as a value.

## What is here

* `FileTree` — a file with its bytes, or a directory with named entries.
* `FileTree.readText` — the text of a file.
* `FileTree.jsonFiles` — the files below a directory whose names end in `.json`, each with its path,
  depth first, the entries of each directory in the order of their names.
-/

set_option autoImplicit false

namespace Ambient

/-- A file with its bytes, or a directory with named entries. -/
inductive FileTree where
  | file (content : ByteArray)
  | directory (entries : List (String × FileTree))

namespace FileTree

/-! ## Files -/

/-- The text of a file. -/
def readText : FileTree → Except FileError String
  | directory _ => .error .isDirectory
  | file content =>
    match String.fromUTF8? content with
    | some text => .ok text
    | none => .error .notText

/-! ## Directories -/

/-- The tree is a directory. -/
def isDirectory : FileTree → Bool
  | directory _ => true
  | file _ => false

mutual

/-- The JSON files of a tree that lies at `path` and is called `name`, with their paths.  A
directory whose path is too long cannot be opened, so nothing below it is found. -/
def jsonFilesAt (path name : String) : FileTree → List (String × ByteArray)
  | file content => if FilePath.isJson name then [(path, content)] else []
  | directory entries =>
    if FilePath.isTooLong path then []
    else ((jsonFilesOf path entries).mergeSort fun a b => !decide (b.1 < a.1)).flatMap Prod.snd

/-- For each entry of the directory at `path` its name and its JSON files. -/
def jsonFilesOf (path : String) :
    List (String × FileTree) → List (String × List (String × ByteArray))
  | [] => []
  | (name, tree) :: rest =>
    (name, jsonFilesAt (FilePath.join path name) name tree) :: jsonFilesOf path rest

end

/-- The JSON files of a tree that lies at `path`, with their paths. -/
def jsonFiles (path : String) (tree : FileTree) : List (String × ByteArray) :=
  jsonFilesAt path ((FilePath.fileName? path).getD "") tree

end FileTree
end Ambient
