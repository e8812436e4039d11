/-!
# Paths

A path is a text whose parts stand between slashes.

## What is here

* `FileError` — why a path cannot be read or written, and the usual text for it.
* `FilePath.parts`, `FilePath.join` — taking paths apart and putting them together.
* `FilePath.fileName?`, `FilePath.extension?`, `FilePath.isJson` — what the end of a path says.
* `FilePath.check` — what makes a path unusable whatever lies at it.
-/

set_option autoImplicit false

namespace Ambient

/-! ## Errors -/

/-- Why a path cannot be read or written. -/
inductive FileError where
  | notFound
  | notDirectory
  | isDirectory
  | nameTooLong
  | nulInPath
  | notText
  /-- A cause that has no name here, in the words of the system. -/
  | other (text : String)
deriving Repr, BEq, DecidableEq

/-- The usual text for an error. -/
def FileError.message : FileError → String
  | notFound => "No such file or directory (os error 2)"
  | notDirectory => "Not a directory (os error 20)"
  | isDirectory => "Is a directory (os error 21)"
  | nameTooLong => "File name too long (os error 36)"
  | nulInPath => "file name contained an unexpected NUL byte"
  | notText => "stream did not contain valid UTF-8"
  | other text => text

namespace FilePath

/-! ## Parts -/

/-- What stands between the slashes of a path. -/
def parts (path : String) : List String := (path.toList.splitOn '/').map String.ofList

/-- The parts without the empty ones at the end. -/
def withoutSlashes (parts : List String) : List String :=
  (parts.reverse.dropWhile (·.isEmpty)).reverse

/-- The path starts at the root and not at the working directory. -/
def isAbsolute (path : String) : Bool := path.toList.head? = some '/'

/-- The path of an entry of a directory. -/
def join (path name : String) : String :=
  if path.isEmpty || path.toList.getLast? = some '/' then path ++ name else path ++ "/" ++ name

/-! ## Names -/

/-- The name of the file or directory at the end of a path, if the path ends in one. -/
def fileName? (path : String) : Option String :=
  match ((parts path).filter fun part => part ≠ "" ∧ part ≠ ".").getLast? with
  | some ".." => none
  | name => name

/-- What stands behind the last point of a name, if something stands in front of it. -/
def extension? (name : String) : Option String :=
  let backwards := name.toList.reverse
  let behind := backwards.takeWhile (· ≠ '.')
  match backwards.dropWhile (· ≠ '.') with
  | _ :: _ :: _ => some (String.ofList behind.reverse)
  | _ => none

/-- The name is one of a JSON file. -/
def isJson (name : String) : Bool := extension? name == some "json"

/-! ## Limits -/

/-- The greatest number of bytes of a part. -/
def greatestPart : Nat := 255

/-- The greatest number of bytes of a path. -/
def greatestPath : Nat := 4095

/-- The path has more bytes than a path may have. -/
def isTooLong (path : String) : Bool := greatestPath < path.utf8ByteSize

/-- What makes a path unusable whatever lies at it. -/
def check (path : String) : Except FileError Unit :=
  if path.toList.contains '\x00' then .error .nulInPath
  else if path.isEmpty then .error .notFound
  else if isTooLong path then .error .nameTooLong
  else .ok ()

end FilePath
end Ambient
