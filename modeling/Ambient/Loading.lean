import Ambient.Document
import Ambient.Failure
import Ambient.Host
import Ambient.Json.Reader
import Ambient.Metadata.Decode

/-!
# Collecting metadata

Documents are read from texts, from files and from directories, and their modules are added to a
draft.  A directory stands for all JSON files below it; they are read one after the other, and the
first that fails ends the reading, with the modules of the earlier ones in the draft.

## What is here

* `modulesOf origin text` — the modules of a document.
* `Loading` — a computation that adds to a draft and may fail; the draft stays either way.
* `Loading.text`, `Loading.file`, `Loading.directory` — the three sources.
* `Draft.writeOn`, `Draft.writeWithin` — the other direction: the text of a draft as a file of a
  host, and to an output that takes so many bytes; `Draft.writeFile` — the former, for a file
  system.
-/

set_option autoImplicit false

namespace Ambient

/-! ## Documents -/

/-- The modules of a document. -/
def modulesOf (origin text : String) : Except Failure (List Module) :=
  match Json.read text with
  | .error e => .error (.metadata origin (.malformed e))
  | .ok value =>
    match Module.decodeAll value with
    | .error e => .error (.metadata origin (.misshapen e))
    | .ok ms => .ok ms

/-! ## Sources -/

/-- A computation that adds to a draft and may fail. -/
abbrev Loading (α : Type) := ExceptT Failure (StateM Draft) α

namespace Loading

/-- Adds the modules of a document. -/
def document (origin text : String) : Loading Unit :=
  match modulesOf origin text with
  | .error e => throw e
  | .ok ms => modify (·.add ms)

/-- Adds the modules of a document that is given as a text. -/
def text (text : String) : Loading Unit := document "<string>" text

/-- Adds the modules of the file at a path, given what lies there. -/
def file (path : String) (source : Except FileError FileTree) : Loading Unit :=
  match source.bind FileTree.readText with
  | .error e => throw (.file path e)
  | .ok text => document path text

/-- Adds the modules of all JSON files below a path, given what lies there.  If nothing does, there
is nothing to add.  A file may lie so deep that its own path is too long, which fails as it would
for the file alone. -/
def directory (path : String) (source : Except FileError FileTree) : Loading Unit :=
  match source with
  | .error _ => return ()
  | .ok tree =>
    (tree.jsonFiles path).forM fun f => file f.1 ((FilePath.check f.1).map fun _ => .file f.2)

end Loading

/-! ## Results -/

namespace Draft

/-- Puts the text of a draft at a path of a host. -/
def writeOn {m : Type → Type} [Monad m] (draft : Draft) (host : Host m) (path : String) :
    m (Except Failure Unit) :=
  match draft.text with
  | .error e => return .error (.missingName e)
  | .ok text => return (← host.write path text.toUTF8).mapError (.file path)

/-- The file system with the text of a draft at a path. -/
def writeFile (draft : Draft) (files : FileSystem) (path : String) : Except Failure FileSystem :=
  let (result, after) := (draft.writeOn FileSystem.host path).run files
  result.map fun _ => after

/-- The text of a draft, if it has no more than `limit` bytes. -/
def writeWithin (draft : Draft) (limit : Nat) : Except Failure String :=
  match draft.text with
  | .error e => .error (.missingName e)
  | .ok text => if text.utf8ByteSize ≤ limit then .ok text else .error .outputFull

end Draft
end Ambient
