import Ambient.Text.Casing

/-!
# Names of parameters

A parameter whose name is a word that the declarations reserve is given another name.

## What is here

* `reservedWords` — the words that cannot be names of parameters.
* `parameterName` — the name of a parameter as it is declared: `switch` becomes `theSwitch`.
-/

set_option autoImplicit false

namespace Ambient

open Text

/-- Words that cannot be names of parameters. -/
def reservedWords : List String := [
  "class", "default", "delete", "enum", "export", "function", "import", "in", "new", "return",
  "switch", "this", "typeof", "var", "void", "with"]

/-- The name is a reserved word, in whatever case its ASCII letters are. -/
def isReservedWord (name : String) : Bool :=
  reservedWords.contains (String.ofList (lowercaseAscii name))

/-- The name of a parameter as it is declared. -/
def parameterName (name : String) : String :=
  if isReservedWord name then "the" ++ upperFirst name else name

/-- Every other name is kept. -/
theorem parameterName_of_not_isReservedWord {name : String} (h : isReservedWord name = false) :
    parameterName name = name := by
  simp [parameterName, h]

end Ambient
