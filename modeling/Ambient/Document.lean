import Ambient.Draft

/-!
# The declaration file

The text of a declaration file: a comment, the namespace with all declarations, and the module
under which they are imported.

## What is here

* `preludeLines` — the declarations on which the others rely.
* `group header body` — a declaration within the namespace: its first line at two blanks, its body
  at four, its last line, and an empty line.
* `Draft.lines`, `Draft.text` — the file of a draft, if everything has its name.
-/

set_option autoImplicit false

namespace Ambient

open Text

/-! ## Parts -/

/-- The declarations on which the others rely. -/
def preludeLines : List String := [
  "  class EventEmitter \x7b",
  "    addListener(event: string, listener: Function): this;",
  "    on(event: string, listener: Function): this;",
  "    once(event: string, listener: Function): this;",
  "    removeListener(event: string, listener: Function): this;",
  "    removeAllListeners(event?: string): this;",
  "    setMaxListeners(n: number): this;",
  "    getMaxListeners(): number;",
  "    listeners(event: string): Function[];",
  "    emit(event: string, ...args: any[]): boolean;",
  "    listenerCount(type: string): number;",
  "    prependListener(event: string, listener: Function): this;",
  "    prependOnceListener(event: string, listener: Function): this;",
  "    eventNames(): string[];",
  "  \x7d",
  "",
  "  class Accelerator extends String \x7b",
  "  \x7d",
  "",
  "  interface Event \x7b",
  "    preventDefault: Function;",
  "    sender: WebContents;",
  "    returnValue?: any;",
  "    ctrlKey?: boolean;",
  "    metaKey?: boolean;",
  "    shiftKey?: boolean;",
  "  \x7d"]

/-- A line of the body of a declaration. -/
def bodyLine (line : String) : String := if line.isEmpty then "" else "    " ++ line

/-- A declaration within the namespace. -/
def group (header : String) (body : List String) : List String :=
  ("  " ++ header) :: body.map bodyLine ++ ["  \x7d", ""]

/-- A line of the comment at the head of the file. -/
def headLine (line : List Char) : String := String.ofList (trimEnd (' ' :: '*' :: ' ' :: line))

/-- The comment at the head of the file. -/
def headLines (header : Option String) : List String :=
  let body := match header with
    | some text => (lines text.toList).map headLine
    | none => [" * Auto-generated by electron-dts-codegen", " * DO NOT EDIT MANUALLY"]
  "/**" :: body ++ [" */", ""]

/-- The groups of all declarations, in order. -/
def Declarations.groups (d : Declarations) (terminator : String) : List (List String) :=
  d.blocks.toList.map (fun b => group b.header b.body) ++
  d.interfaces.map (fun i => group i.header i.lines) ++
  d.composites.toList.map (fun c => group c.header (c.members.map (· ++ terminator)))

/-- The module under which the declarations are imported. -/
def footLines (specifier space : String) : List String := [
  "declare module '" ++ specifier ++ "' \x7b",
  "  const electron: " ++ space ++ ".AllElectron;",
  "  export = electron;",
  "\x7d",
  "",
  "interface NodeRequireFunction \x7b",
  "  (moduleName: '" ++ specifier ++ "'): " ++ space ++ ".AllElectron;",
  "\x7d"]

/-! ## The file -/

namespace Draft

/-- The lines of the file that declares `d`. -/
def linesFor (draft : Draft) (d : Declarations) : List String :=
  headLines draft.header ++
  ["declare namespace " ++ draft.space ++ " \x7b"] ++
  (if draft.withPrelude then preludeLines ++ [""] else []) ++
  (d.groups draft.terminator).flatten ++
  ["\x7d", ""] ++
  footLines draft.specifier draft.space

/-- The lines of the file. -/
def lines (draft : Draft) : Except MissingName (List String) := draft.build.map draft.linesFor

/-- The text of the file. -/
def text (draft : Draft) : Except MissingName String :=
  draft.lines.map fun ls => String.intercalate "\n" ls ++ "\n"

end Draft
end Ambient
