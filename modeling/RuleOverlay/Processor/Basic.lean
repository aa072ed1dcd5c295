import RuleOverlay.Json.Print
import RuleOverlay.Json.Error
import RuleOverlay.Time.Timestamp
/-! # Processors

A processor is one step that turns a document into the next. Trees never look inside one; they
thread bytes through `Processor.run` in order. There are five kinds:

* `json` and `yaml` edit a structured document at a dotted key path;
* `tile` replaces the document with fixed content;
* `curl` replaces it with the body of an HTTP response;
* `raw` runs a function given in memory, and has no saved form.

Every processor carries the tree path it was written for (advisory only), an author and the
moment it was written. A step either answers the next document, fails with a
`ProcessError`, or panics; a panic is not an error of the step but stops whoever ran it.
-/
namespace RuleOverlay

/-- How a step can end without a result: with an error of its own, or with a panic. -/
inductive Failure (ε : Type) where
  | error (e : ε)
  | panic (message : String)

def Failure.map {ε δ : Type} (f : ε → δ) : Failure ε → Failure δ
  | .error e => .error (f e)
  | .panic m => .panic m

/-- Why a processor step failed. -/
inductive ProcessError where
  /-- the edit operation is not one the processor knows -/
  | unknownOperation (op : String)
  /-- the input could not be read in the processor's format -/
  | invalidDocument (message : String)
  /-- the key path cannot be addressed -/
  | invalidTarget (target reason : String)
  /-- a fetch failed -/
  | fetch (url reason : String)
  /-- the processor has no saved form -/
  | serializeNotSupported (kind : String)
  /-- the processor could not be saved or loaded -/
  | serialization (message : String)

def ProcessError.message : ProcessError → String
  | .unknownOperation op => "unknown processor type: " ++ op
  | .invalidDocument m => "invalid document: " ++ m
  | .invalidTarget t r => "invalid target '" ++ t ++ "': " ++ r
  | .fetch url r => "request " ++ url ++ " failed: " ++ r
  | .serializeNotSupported k => "serialization not supported for processor type '" ++ k ++ "'"
  | .serialization m => "serialization error: " ++ m

def ProcessError.kindName : ProcessError → String
  | .unknownOperation _ => "UnknownOperation"
  | .invalidDocument _ => "InvalidDocument"
  | .invalidTarget _ _ => "InvalidTarget"
  | .fetch _ _ => "Fetch"
  | .serializeNotSupported _ => "SerializeNotSupported"
  | .serialization _ => "Serialization"

/-- An edit of a structured document: operation, key path and value. -/
structure Edit where
  path : String
  op : String
  keyPath : String
  value : String
  author : String
  createdAt : Timestamp

/-- Fixed content. -/
structure Tile where
  path : String
  content : String
  author : String
  createdAt : Timestamp

/-- An HTTP request whose response body becomes the document. Headers are kept sorted by
name, each with its values in the order they were added. -/
structure Fetch where
  path : String
  url : String
  method : String
  body : Option String
  headers : List (String × List String)
  author : String
  createdAt : Timestamp

/-- A function given in memory. `label` names a tally that counts its runs. -/
structure Raw where
  author : String
  createdAt : Timestamp
  label : Option String
  run : Bytes → Except (Failure ProcessError) Bytes

def Edit.new (op keyPath value : String) (now : Timestamp) : Edit :=
  ⟨"", op, keyPath, value, "", now⟩

def Tile.new (content : String) (now : Timestamp) : Tile := ⟨"", content, "", now⟩

def Fetch.get (url : String) (now : Timestamp) : Fetch := ⟨"", url, "", none, [], "", now⟩

def addHeader (name value : String) : List (String × List String) → List (String × List String)
  | [] => [(name, [value])]
  | (n, vs) :: rest =>
    if name < n then (name, [value]) :: (n, vs) :: rest
    else if name == n then (n, vs ++ [value]) :: rest
    else (n, vs) :: addHeader name value rest

def Fetch.withHeader (f : Fetch) (name value : String) : Fetch :=
  { f with headers := addHeader name value f.headers }

def Raw.debug (r : Raw) : String :=
  "RawProcessor \x7b author: " ++ Json.debugQuote r.author ++ ", created_at: " ++
    r.createdAt.render ++ ", .. \x7d"

/-- A processor. -/
inductive Processor where
  | json (e : Edit)
  | yaml (e : Edit)
  | tile (t : Tile)
  | curl (f : Fetch)
  | raw (r : Raw)

namespace Processor

def kind : Processor → String
  | .json _ => "json"
  | .yaml _ => "yaml"
  | .tile _ => "tile"
  | .curl _ => "curl"
  | .raw _ => "raw"

def path : Processor → String
  | .json e => e.path
  | .yaml e => e.path
  | .tile t => t.path
  | .curl f => f.path
  | .raw _ => ""

def author : Processor → String
  | .json e => e.author
  | .yaml e => e.author
  | .tile t => t.author
  | .curl f => f.author
  | .raw r => r.author

def createdAt : Processor → Timestamp
  | .json e => e.createdAt
  | .yaml e => e.createdAt
  | .tile t => t.createdAt
  | .curl f => f.createdAt
  | .raw r => r.createdAt

def label : Processor → Option String
  | .raw r => r.label
  | _ => none

def Edit.toValue (e : Edit) (pathKey : String) : Json.Value :=
  .object [("path", .string e.path), ("op", .string e.op), (pathKey, .string e.keyPath),
    ("value", .string e.value), ("author", .string e.author),
    ("created_at", .string e.createdAt.render)]

def saved : Processor → Except ProcessError Json.Value
  | .json e => .ok (Edit.toValue e "json_path")
  | .yaml e => .ok (Edit.toValue e "yaml_path")
  | .tile t => .ok (.object [("path", .string t.path), ("content", .string t.content),
      ("author", .string t.author), ("created_at", .string t.createdAt.render)])
  | .curl f =>
    let body := match f.body with
      | some b => [("body", Json.Value.string b)]
      | none => []
    let headers := if f.headers.isEmpty then []
      else [("headers", Json.Value.object
        (f.headers.map fun h => (h.1, Json.Value.array (h.2.map .string))))]
    .ok (.object ([("path", .string f.path), ("url", .string f.url),
      ("method", .string f.method)] ++ body ++ headers ++
      [("author", .string f.author), ("created_at", .string f.createdAt.render)]))
  | .raw _ => .error (.serializeNotSupported "raw")

def save (p : Processor) : Except ProcessError Bytes := p.saved.map Json.Value.toBytes

end Processor

end RuleOverlay
