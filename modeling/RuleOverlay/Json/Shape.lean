import RuleOverlay.Json.Value
/-! # Shapes of expected data

A shape says what a reader expects at one place of a document, so that one reader can check
a document against a record with named fields, a list, a map or a text, and fail with the
fault the first mismatch causes. Reading with a shape yields a plain `Value` of that shape:
a record becomes an object with the fields that were present, in field order.

A text may carry a check. A `text` check runs as the text is read and its fault is placed
right after the text; a `converted` check runs once the text has been read in full and its
fault is placed by the enclosing record.
-/
namespace RuleOverlay

namespace Json

/-- What is expected at one place of a document. -/
inductive Shape where
  /-- any value at all -/
  | any
  /-- a text; `check` answers the fault text for one it refuses -/
  | text (expecting : String) (check : String → Option String)
  /-- a text turned into something else after it is read -/
  | converted (check : String → Option String)
  /-- `null`, or the inner shape -/
  | optional (inner : Shape)
  /-- a record field that may be left out -/
  | defaulted (inner : Shape)
  /-- a list of items of one shape -/
  | list (item : Shape)
  /-- an object with text keys and values of one shape -/
  | dict (item : Shape)
  /-- a record with a name and named fields, in order -/
  | record (name : String) (fields : List (String × Shape))

def Shape.string : Shape := .text "a string" fun _ => none

def Shape.pathText : Shape := .text "path string" fun _ => none

def Shape.expecting : Shape → String
  | .any => "any valid JSON value"
  | .text e _ => e
  | .converted _ => "a string"
  | .optional s => s.expecting
  | .defaulted s => s.expecting
  | .list _ => "a sequence"
  | .dict _ => "a map"
  | .record name _ => "struct " ++ name

def Shape.isDefaulted : Shape → Bool
  | .defaulted _ => true
  | _ => false

def recordLength (name : String) (fields : List (String × Shape)) : String :=
  "struct " ++ name ++ " with " ++ toString fields.length ++ " elements"

end Json

end RuleOverlay
