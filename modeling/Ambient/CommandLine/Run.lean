import Ambient.CommandLine.Arguments
import Ambient.Loading

/-!
# Running the program

What the program does with its arguments on a host: it collects the metadata of the input, and
writes the declarations to the output file or to standard output.

## What is here

* `Arguments.draft` — the draft that the options ask for, still without modules.
* `Arguments.load` — the same with the modules of the input.
* `Ending` — how the program ends.
* `runOn` — the program.  It is the same for all hosts.
* `run` — what it leaves behind in a file system.  If something fails, nothing is written.
-/

set_option autoImplicit false

namespace Ambient

/-! ## Drafts -/

namespace Arguments

/-- The draft that the options ask for. -/
def draft (a : Arguments) : Draft :=
  let base : Draft := { header := a.header, withPrelude := !a.noPrelude }
  let named := match a.space with
    | some space => { base with space }
    | none => base
  let silenced := a.silent.foldl Draft.addSilent named
  a.mappings.foldl (fun d m => d.registerType m.1 m.2) silenced

/-- Where the input lies. -/
def inputPath (a : Arguments) : String := a.input.getD ""

/-- The draft with the modules of the input, given what lies there. -/
def load (a : Arguments) (source : Except FileError FileTree) : Except Failure Draft :=
  let isDirectory := match source with
    | .ok tree => tree.isDirectory
    | .error _ => false
  let loading :=
    if isDirectory then Loading.directory a.inputPath source else Loading.file a.inputPath source
  match loading.run a.draft with
  | (.ok (), draft) => .ok draft
  | (.error e, _) => .error e

end Arguments

/-! ## Endings -/

/-- How the program ends. -/
structure Ending where
  code : Nat
  stdout : String
  stderr : String

/-- The name and the version of the program. -/
def versionText : String := "electron-dts 0.1.0\n"

/-- How the program is called. -/
def helpText : String :=
  "Usage: electron-dts [OPTIONS] <INPUT>\n\n" ++
  "  <INPUT>                 Metadata file, or a directory of such files\n" ++
  "  -o, --output <OUTPUT>   Output file; standard output if omitted\n" ++
  "  --namespace <NAMESPACE> Namespace around the declarations\n" ++
  "  --header <HEADER>       Comment at the head of the file\n" ++
  "  --no-prelude            Omit the declarations that the others rely on\n" ++
  "  --non-emitter <MODULE>  Module that does not emit events (repeatable)\n" ++
  "  --map-type <NAME=TYPE>  Spelling of a type (repeatable)\n" ++
  "  -v, --verbose           Show more of what happens\n" ++
  "  -h, --help              Show this text\n" ++
  "  -V, --version           Show the version\n"

namespace Ending

/-- All is well. -/
def success (stdout : String) : Ending := ⟨0, stdout, ""⟩

/-- Something failed. -/
def failure (context : String) (f : Failure) : Ending := ⟨1, "", report context f.chain⟩

/-- The arguments were not understood, or asked for nothing to be made. -/
def stopped : Stop → Ending
  | .help => success helpText
  | .version => success versionText
  | .usage e => ⟨2, "", e.report⟩

end Ending

/-! ## The program -/

section

variable {m : Type → Type} [Monad m]

/-- Writes the declarations of a draft. -/
def Arguments.write (a : Arguments) (draft : Draft) (host : Host m) : m Ending :=
  match a.output with
  | some path => do
    match ← draft.writeOn host path with
    | .ok () => return .success ""
    | .error e => return .failure ("writing " ++ path) e
  | none =>
    match draft.text with
    | .ok text => return .success text
    | .error e => return .failure "writing declarations to stdout" (.missingName e)

/-- The program, called with these arguments on this host. -/
def runOn (host : Host m) (arguments : List String) : m Ending := do
  match Arguments.read arguments with
  | .error stop => return .stopped stop
  | .ok a =>
    match a.load (← host.find a.inputPath) with
    | .error e => return .failure ("loading metadata from " ++ a.inputPath) e
    | .ok draft => a.write draft host

end

/-! ## Outcomes -/

/-- What the program leaves behind. -/
structure Outcome extends Ending where
  files : FileSystem

/-- An ending, and the file system behind it. -/
def Outcome.of (result : Ending × FileSystem) : Outcome := { result.1 with files := result.2 }

/-- What the program leaves behind, called with these arguments in this file system. -/
def run (arguments : List String) (files : FileSystem) : Outcome :=
  .of ((runOn FileSystem.host arguments).run files)

end Ambient
