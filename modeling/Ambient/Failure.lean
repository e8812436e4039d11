import Ambient.FilePath
import Ambient.Json.SyntaxError
import Ambient.Metadata.DecodeError
import Ambient.MissingName

/-!
# Failures

Everything that can keep a declaration file from being made, and how it is reported.

## What is here

* `MetadataError` — a document is not JSON, or it is not metadata.
* `Failure` — the causes, with a sentence for each in `Failure.message`, and with the chain of
  sentences from the cause at hand to the innermost in `Failure.chain`.
* `report` — a sentence with the chain of its causes, one under the other.
-/

set_option autoImplicit false

namespace Ambient

/-! ## Causes -/

/-- What is wrong with a document. -/
inductive MetadataError where
  | malformed (e : Json.SyntaxError)
  | misshapen (e : DecodeError)
deriving Repr

/-- What is wrong with a document, in one sentence. -/
def MetadataError.message : MetadataError → String
  | malformed e => e.message
  | misshapen e => e.message

/-- What keeps a declaration file from being made. -/
inductive Failure where
  | missingName (e : MissingName)
  /-- A document from a place cannot be read as metadata. -/
  | metadata (origin : String) (e : MetadataError)
  /-- A file cannot be read or written. -/
  | file (path : String) (e : FileError)
  /-- What the declarations are written to takes no more bytes. -/
  | outputFull
deriving Repr

/-- What a full output says. -/
def outputFullMessage : String := "failed to write whole buffer"

/-- The failure in one sentence. -/
def Failure.message : Failure → String
  | missingName e => e.message
  | metadata origin e => s!"failed to parse API metadata from {origin}: {e.message}"
  | file path e => s!"I/O error on {path}: {e.message}"
  | outputFull => s!"failed to write declarations: {outputFullMessage}"

/-- The failure and what is behind it, outermost first. -/
def Failure.chain (f : Failure) : List String :=
  match f with
  | missingName _ => [f.message]
  | metadata _ e => [f.message, e.message]
  | file _ e => [f.message, e.message]
  | outputFull => [f.message, outputFullMessage]

/-! ## Reports -/

/-- A cause below a report: its number if there are several, and its further lines under the
first. -/
def causeText (number : Option Nat) (text : String) : String :=
  let first := match number with
    | some n => "    " ++ toString n ++ ": "
    | none => "    "
  let margin := match number with
    | some _ => "       "
    | none => "    "
  match (text.toList.splitOn '\n').map String.ofList with
  | [] => first
  | line :: more => first ++ String.intercalate ("\n" ++ margin) (line :: more)

/-- The causes, numbered if there are several. -/
def causeTexts (causes : List String) : List String :=
  match causes with
  | [cause] => [causeText none cause]
  | causes => causes.zipIdx.map fun (cause, n) => causeText (some n) cause

/-- A sentence with the chain of its causes. -/
def report (context : String) (causes : List String) : String :=
  "Error: " ++ context ++ "\n\nCaused by:\n" ++ String.intercalate "\n" (causeTexts causes)

end Ambient
