import Ambient.Json.Token

/-!
# Reading JSON

The grammar of JSON as an automaton with a stack: the tokens of a text are taken one by one, the
stack holds the arrays and objects that are open, and the state says what may come next.  The
flaw that is reported is the first at which the automaton gets stuck.

## What is here

* `Frame` — an open array or object whose next value is being read.
* `State` — the stack, and what is expected next.
* `State.step`, `State.finish` — one token, and the end of the text.
* `Json.read` — the value of a text.
-/

set_option autoImplicit false

namespace Ambient
namespace Json

/-! ## States -/

/-- An array or object that is open around the value being read. -/
inductive Frame where
  /-- An array, with the items before the value, latest first. -/
  | array (items : List Json)
  /-- An object, with the fields before the value, and the key of the value. -/
  | object (fields : List (String × Json)) (key : String)
deriving Repr

/-- What may come next. -/
inductive Expected where
  | value
  | firstItem
  /-- An item after a comma. -/
  | nextItem (items : List Json)
  /-- A comma or the end of an array. -/
  | arraySeparator (items : List Json)
  | firstKey
  /-- A key after a comma. -/
  | nextKey (fields : List (String × Json))
  | colon (fields : List (String × Json)) (key : String)
  /-- A comma or the end of an object. -/
  | objectSeparator (fields : List (String × Json))
  /-- Nothing: the value is complete. -/
  | nothing (value : Json)
deriving Repr

/-- The open arrays and objects, innermost first, and what may come next. -/
structure State where
  frames : List Frame
  expected : Expected
deriving Repr

namespace State

/-- Before the first token. -/
def initial : State := ⟨[], .value⟩

/-- How many arrays and objects may be open at a time. -/
def greatestDepth : Nat := 127

/-! ## Steps -/

/-- A value is complete, and goes to the innermost array or object. -/
def complete (value : Json) : List Frame → State
  | [] => ⟨[], .nothing value⟩
  | .array items :: frames => ⟨frames, .arraySeparator (value :: items)⟩
  | .object fields key :: frames => ⟨frames, .objectSeparator (insertField key value fields)⟩

/-- The character at which a token starts was refused. -/
def refuse (flaw : Flaw) (token : Token) : Except Found State := .error ⟨flaw, token.start + 1⟩

/-- Opens an array or object, if not too many are open. -/
def opened (token : Token) (frames : List Frame) (expected : Expected) : Except Found State :=
  if frames.length < greatestDepth then .ok ⟨frames, expected⟩ else refuse .tooDeep token

/-- A token where a value should start. -/
def startValue (frames : List Frame) (token : Token) : Except Found State :=
  match token.kind with
  | .string s => .ok (complete (.string s) frames)
  | .scalar v => .ok (complete v frames)
  | .openArray => opened token frames .firstItem
  | .openObject => opened token frames .firstKey
  | .brokenString found => .error found
  | .brokenScalar found => .error found
  | _ => refuse .valueExpected token

/-- A token where a key should stand. -/
def startKey (frames : List Frame) (fields : List (String × Json)) (token : Token) :
    Except Found State :=
  match token.kind with
  | .string s => .ok ⟨frames, .colon fields s⟩
  | .brokenString found => .error found
  | _ => refuse .keyNotString token

/-- One token. -/
def step (state : State) (token : Token) : Except Found State :=
  match state.expected, token.kind with
  | .value, _ => startValue state.frames token
  | .firstItem, .closeArray => .ok (complete (.array []) state.frames)
  | .firstItem, _ => startValue (.array [] :: state.frames) token
  | .nextItem _, .closeArray => refuse .trailingComma token
  | .nextItem items, _ => startValue (.array items :: state.frames) token
  | .arraySeparator items, .comma => .ok ⟨state.frames, .nextItem items⟩
  | .arraySeparator items, .closeArray => .ok (complete (.array items.reverse) state.frames)
  | .arraySeparator _, _ => refuse .arraySeparatorExpected token
  | .firstKey, .closeObject => .ok (complete (.object []) state.frames)
  | .firstKey, _ => startKey state.frames [] token
  | .nextKey _, .closeObject => refuse .trailingComma token
  | .nextKey fields, _ => startKey state.frames fields token
  | .colon fields key, .colon => .ok ⟨.object fields key :: state.frames, .value⟩
  | .colon _ _, _ => refuse .colonExpected token
  | .objectSeparator fields, .comma => .ok ⟨state.frames, .nextKey fields⟩
  | .objectSeparator fields, .closeObject => .ok (complete (.object fields) state.frames)
  | .objectSeparator _, _ => refuse .objectSeparatorExpected token
  | .nothing _, _ => refuse .trailingCharacters token

/-- The end of the text: the value, or what is missing. -/
def finish (state : State) : Except Flaw Json :=
  match state.expected with
  | .value => .error .unfinishedValue
  | .firstItem => .error .unfinishedArray
  | .nextItem _ => .error .unfinishedValue
  | .arraySeparator _ => .error .unfinishedArray
  | .firstKey => .error .unfinishedObject
  | .nextKey _ => .error .unfinishedValue
  | .colon _ _ => .error .unfinishedObject
  | .objectSeparator _ => .error .unfinishedObject
  | .nothing value => .ok value

/-- All tokens one by one. -/
def run (state : State) (ts : List Token) : Except Found State := ts.foldlM step state

end State

/-! ## Texts -/

/-- The value of a text, or its first flaw. -/
def readChars (s : List Char) : Except Found Json := do
  let state ← State.initial.run (tokens s)
  match state.finish with
  | .ok value => .ok value
  | .error flaw => .error ⟨flaw, byteLength s⟩

/-- The value of a text, or its first flaw with the place. -/
def read (text : String) : Except SyntaxError Json :=
  (readChars text.toList).mapError (·.located text.toList)

end Json
end Ambient
