import Ambient.Text.Terminal

/-!
# Arguments of the command line

The program takes one input and a number of options.  Arguments are read from left to right.  The
value of an option may be the next argument, and it is looked at only when that argument has been
followed by another or by the end; so an argument that no option explains is reported before a value
that is wrong.

## What is here

* `Setting`, `Switch` — what takes a value, and what takes none.
* `Arguments` — all that has been given.
* `UsageError` — what can be wrong, with a sentence for each, written for a terminal, and with the
  report that goes to any output.
* `Stop` — why the reading ends early: an error, or a request for the help text or the version.
* `Arguments.read` — reads the arguments.
-/

set_option autoImplicit false

namespace Ambient

open Text.Terminal (marked plain)

/-! ## What can be given -/

/-- Something that takes a value. -/
inductive Setting where
  | input
  | output
  | space
  | header
  | silent
  | mapType
deriving Repr, BEq, DecidableEq

namespace Setting

/-- A setting as a message names it. -/
def described : Setting → String
  | input => "<INPUT>"
  | output => "--output <OUTPUT>"
  | space => "--namespace <NAMESPACE>"
  | header => "--header <HEADER>"
  | silent => "--non-emitter <MODULE>"
  | mapType => "--map-type <NAME=TYPE>"

/-- The setting with a long name. -/
def ofLong? : String → Option Setting
  | "output" => some output
  | "namespace" => some space
  | "header" => some header
  | "non-emitter" => some silent
  | "map-type" => some mapType
  | _ => none

/-- The setting with a short name. -/
def ofShort? : Char → Option Setting
  | 'o' => some output
  | _ => none

end Setting

/-- Something that takes no value. -/
inductive Switch where
  | noPrelude
  | verbose
  | help
  | version
deriving Repr, BEq, DecidableEq

namespace Switch

/-- A switch as a message names it. -/
def described : Switch → String
  | noPrelude => "--no-prelude"
  | verbose => "--verbose..."
  | help => "--help"
  | version => "--version"

/-- The switch with a long name. -/
def ofLong? : String → Option Switch
  | "no-prelude" => some noPrelude
  | "verbose" => some verbose
  | "help" => some help
  | "version" => some version
  | _ => none

/-- The switch with a short name. -/
def ofShort? : Char → Option Switch
  | 'v' => some verbose
  | 'h' => some help
  | 'V' => some version
  | _ => none

end Switch

/-- What has been given. -/
structure Arguments where
  input : Option String := none
  output : Option String := none
  space : Option String := none
  header : Option String := none
  noPrelude : Bool := false
  silent : List String := []
  mappings : List (String × String) := []
  verbosity : Nat := 0
deriving Repr, BEq, DecidableEq

/-! ## What can be wrong -/

/-- What is wrong with the arguments. -/
inductive UsageError where
  | unexpectedArgument (argument : String)
  | missingValue (setting : Setting)
  | badMapping (value : String)
  | repeatedSetting (setting : Setting)
  | repeatedSwitch (switch : Switch)
  | unexpectedValue (value : String) (switch : Switch)
  | missingInput
deriving Repr, BEq, DecidableEq

/-- What is wrong, in one sentence with the parts marked that it is about. -/
def UsageError.message : UsageError → String
  | unexpectedArgument argument => s!"unexpected argument '{marked argument}' found"
  | missingValue setting =>
    s!"a value is required for '{marked setting.described}' but none was supplied"
  | badMapping value =>
    s!"invalid value '{marked value}' for '{marked Setting.mapType.described}': " ++
      s!"expected NAME=TYPE, got '{value}'"
  | repeatedSetting setting =>
    s!"the argument '{marked setting.described}' cannot be used multiple times"
  | repeatedSwitch switch =>
    s!"the argument '{marked switch.described}' cannot be used multiple times"
  | unexpectedValue value switch =>
    s!"unexpected value '{marked value}' for '{marked switch.described}' found; " ++
      "no more were expected"
  | missingInput => "the following required arguments were not provided:"

/-- What is wrong, and where to look for help, without control sequences. -/
def UsageError.report (e : UsageError) : String :=
  plain (marked "error:" ++ " " ++ e.message ++
    "\n\nFor more information, try '" ++ marked "--help" ++ "'.")

/-- Why the reading of the arguments ends early. -/
inductive Stop where
  | usage (e : UsageError)
  | help
  | version
deriving Repr, BEq, DecidableEq

namespace Arguments

/-! ## Values -/

/-- A name and a type around the first equals sign, neither of them empty. -/
def mapping? (value : String) : Option (String × String) :=
  let cs := value.toList
  match cs.takeWhile (· ≠ '='), cs.dropWhile (· ≠ '=') with
  | c :: name, _ :: d :: type => some (String.ofList (c :: name), String.ofList (d :: type))
  | _, _ => none

/-- A value for a setting that can be given once. -/
def once (setting : Setting) (given : Option String) (value : String) :
    Except Stop (Option String) :=
  if given.isSome then .error (.usage (.repeatedSetting setting)) else .ok (some value)

/-- A path, which must not be empty, for a setting that can be given once. -/
def oncePath (setting : Setting) (given : Option String) (value : String) :
    Except Stop (Option String) := do
  let path ← once setting given value
  if value.isEmpty then .error (.usage (.missingValue setting)) else .ok path

/-- Takes the value of a setting. -/
def set (a : Arguments) (setting : Setting) (value : String) : Except Stop Arguments :=
  match setting with
  | .input => return { a with input := ← oncePath .input a.input value }
  | .output => return { a with output := ← oncePath .output a.output value }
  | .space => return { a with space := ← once .space a.space value }
  | .header => return { a with header := ← once .header a.header value }
  | .silent => return { a with silent := a.silent ++ [value] }
  | .mapType =>
    match mapping? value with
    | some mapping => .ok { a with mappings := a.mappings ++ [mapping] }
    | none => .error (.usage (.badMapping value))

/-- Turns a switch on. -/
def turnOn (a : Arguments) (switch : Switch) : Except Stop Arguments :=
  match switch with
  | .noPrelude =>
    if a.noPrelude then .error (.usage (.repeatedSwitch .noPrelude))
    else .ok { a with noPrelude := true }
  | .verbose => .ok { a with verbosity := a.verbosity + 1 }
  | .help => .error .help
  | .version => .error .version

end Arguments

/-! ## Reading -/

/-- What has been read so far. -/
structure Reading where
  given : Arguments := {}
  /-- A setting that has been named but not yet taken, with its value once that has been read. -/
  pending : Option (Setting × Option String) := none
  /-- Everything that follows is an input. -/
  escaped : Bool := false
deriving Repr, BEq, DecidableEq

namespace Reading

/-- Takes the pending setting. -/
def settle (r : Reading) : Except Stop Reading :=
  match r.pending with
  | none => .ok r
  | some (setting, none) => .error (.usage (.missingValue setting))
  | some (setting, some value) =>
    return { r with given := ← r.given.set setting value, pending := none }

/-- Names a setting whose value follows. -/
def await (r : Reading) (setting : Setting) : Except Stop Reading :=
  return { ← r.settle with pending := some (setting, none) }

/-- Takes a setting whose value is part of the argument. -/
def set (r : Reading) (setting : Setting) (value : String) : Except Stop Reading := do
  let r ← r.settle
  return { r with given := ← r.given.set setting value }

/-- Turns a switch on. -/
def turnOn (r : Reading) (switch : Switch) : Except Stop Reading := do
  let r ← r.settle
  return { r with given := ← r.given.turnOn switch }

/-- The input has been read, whether or not it has been taken. -/
def hasInput (r : Reading) : Bool :=
  r.given.input.isSome || r.pending.any fun p => p.1 == .input

/-- An argument that is no option. -/
def plain (r : Reading) (argument : String) : Except Stop Reading :=
  if r.hasInput then .error (.usage (.unexpectedArgument argument))
  else return { ← r.settle with pending := some (.input, some argument) }

/-- An argument behind two dashes: a long name, and a value behind an equals sign. -/
def long (r : Reading) (body : List Char) : Except Stop Reading :=
  let name := String.ofList (body.takeWhile (· ≠ '='))
  let value := match body.dropWhile (· ≠ '=') with
    | [] => none
    | _ :: value => some (String.ofList value)
  match Setting.ofLong? name, Switch.ofLong? name, value with
  | some setting, _, some value => r.set setting value
  | some setting, _, none => r.await setting
  | none, some switch, some value => .error (.usage (.unexpectedValue value switch))
  | none, some switch, none => r.turnOn switch
  | none, none, _ => .error (.usage (.unexpectedArgument ("--" ++ name)))

/-- Short names behind a dash.  What follows the name of a setting is its value, with or without an
equals sign in front. -/
def short (r : Reading) : List Char → Except Stop Reading
  | [] => .ok r
  | c :: rest =>
    match Setting.ofShort? c, Switch.ofShort? c with
    | some setting, _ =>
      match rest with
      | [] => r.await setting
      | '=' :: value => r.set setting (String.ofList value)
      | value => r.set setting (String.ofList value)
    | none, some switch => do short (← r.turnOn switch) rest
    | none, none => .error (.usage (.unexpectedArgument (String.ofList ['-', c])))

/-- One argument. -/
def step (r : Reading) (argument : String) : Except Stop Reading :=
  match r.escaped, argument.toList with
  | false, ['-', '-'] => .ok { r with escaped := true }
  | false, '-' :: '-' :: body => r.long body
  | false, '-' :: c :: rest => r.short (c :: rest)
  | false, _ =>
    match r.pending with
    | some (setting, none) => .ok { r with pending := some (setting, some argument) }
    | _ => r.plain argument
  | true, _ => r.plain argument

end Reading

namespace Arguments

/-- Reads the arguments. -/
def read (arguments : List String) : Except Stop Arguments := do
  let r ← arguments.foldlM Reading.step {}
  let r ← r.settle
  if r.given.input.isSome then return r.given else .error (.usage .missingInput)

end Arguments
end Ambient
