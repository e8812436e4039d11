import Ambient.FileSystem

/-!
# Hosts

The program asks two things of the system in which it runs: what lies at a path, and to put a file
there.  How it asks does not depend on the system, and what it does to a file system can be
computed.

## What is here

* `Host m` — a system, as what it does in the monad `m` when it is asked.
* `FileSystem.host` — file systems, which change when a file is put somewhere.
-/

set_option autoImplicit false

namespace Ambient

/-- A system in which the program runs. -/
structure Host (m : Type → Type) where
  /-- What lies at a path. -/
  find : String → m (Except FileError FileTree)
  /-- Puts a file at a path. -/
  write : String → ByteArray → m (Except FileError Unit)

namespace FileSystem

/-- File systems as hosts.  What cannot be written changes nothing. -/
def host : Host (StateM FileSystem) where
  find path files := (files.find path, files)
  write path content files :=
    match files.write path content with
    | .ok after => (.ok (), after)
    | .error e => (.error e, files)

variable {files after : FileSystem} {path : String} {content : ByteArray} {e : FileError}

theorem run_find (files : FileSystem) (path : String) :
    (host.find path).run files = pure (files.find path, files) := rfl

theorem run_write_of_ok (h : files.write path content = .ok after) :
    (host.write path content).run files = (.ok (), after) := by
  rw [host, StateT.run]
  dsimp only
  rw [h]

theorem run_write_of_error (h : files.write path content = .error e) :
    (host.write path content).run files = (.error e, files) := by
  rw [host, StateT.run]
  dsimp only
  rw [h]

end FileSystem
end Ambient
