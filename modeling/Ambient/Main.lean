import Ambient.CommandLine.Run

/-!
# The program

The outer layer: the operating system as a host, and what the program prints.  The program itself is
`Ambient.runOn`.
-/

set_option autoImplicit false

namespace Ambient
namespace Program

/-- A failure of the system as the library names it. -/
def fileErrorOf : IO.Error → FileError
  | .noFileOrDirectory .. => .notFound
  | .inappropriateType .. => .notDirectory
  | e => .other (toString e)

/-- An entry of the current directory, or what an absolute path leads to. -/
def entryAt (path : String) : IO.FS.DirEntry := ⟨".", path⟩

/-- What lies in a directory; one that cannot be opened is taken for empty. -/
def entriesOf (path : String) : IO (Array IO.FS.DirEntry) := do
  try (entryAt path).path.readDir
  catch _ => return #[]

/-- What lies at a path. -/
partial def snapshot (path : String) : IO FileTree := do
  if ← (entryAt path).path.isDir then
    let entries ← entriesOf path
    let children ← entries.toList.mapM fun entry => do
      return (entry.fileName, ← snapshot (FilePath.join path entry.fileName))
    return .directory children
  else
    return .file (← IO.FS.readBinFile path)

/-- What an action gives, or why it gives nothing. -/
def attempt {α : Type} (action : IO α) : IO (Except FileError α) := do
  try return .ok (← action)
  catch e => return .error (fileErrorOf e)

/-- The operating system. -/
def host : Host IO where
  find path := attempt (snapshot path)
  write path content := attempt (IO.FS.writeBinFile path content)

/-- Runs the program with its arguments, and gives its exit code. -/
def start (arguments : List String) : IO UInt32 := do
  let ending ← runOn host arguments
  IO.print ending.stdout
  if !ending.stderr.isEmpty then IO.eprintln ending.stderr
  return ending.code.toUInt32

end Program
end Ambient

/-- The program. -/
def main (arguments : List String) : IO UInt32 := Ambient.Program.start arguments
