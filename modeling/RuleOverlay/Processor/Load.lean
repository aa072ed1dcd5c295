import RuleOverlay.Processor.Basic
import RuleOverlay.Json.Read
/-! # Loading processors from their saved form

Each kind that has a saved form is read back from JSON bytes as a record: `json` and `yaml`
need `op` and their key path (`json_path` or `yaml_path`), `tile` needs `content`, `curl` needs
`url`; every other field may be left out. A processor loaded without `created_at` was written
at `now`, which the caller supplies. A load failure is a `serialization` error whose text
starts with `unmarshal fail:`.
-/
namespace RuleOverlay

namespace Processor

open Json

def instantShape : Shape :=
  .text "an RFC 3339 formatted date and time string" fun s =>
    match Timestamp.parse s with
    | .ok _ => none
    | .error f => some f.text

def editShape (name pathKey : String) : Shape :=
  .record name [("path", .defaulted .string), ("op", .string), (pathKey, .string),
    ("value", .defaulted .string), ("author", .defaulted .string),
    ("created_at", .defaulted instantShape)]

def tileShape : Shape :=
  .record "TileProcessor" [("path", .defaulted .string), ("content", .string),
    ("author", .defaulted .string), ("created_at", .defaulted instantShape)]

def fetchShape : Shape :=
  .record "CurlProcessor" [("path", .defaulted .string), ("url", .string),
    ("method", .defaulted .string), ("body", .defaulted (.optional .string)),
    ("headers", .defaulted (.dict (.list .string))), ("author", .defaulted .string),
    ("created_at", .defaulted instantShape)]

def textField (v : Value) (key : String) : String :=
  match v with
  | .object entries =>
    match Entries.get? entries key with
    | some (.string s) => s
    | _ => ""
  | _ => ""

def stampField (v : Value) (now : Timestamp) : Timestamp :=
  match v with
  | .object entries =>
    match Entries.get? entries "created_at" with
    | some (.string s) =>
      match Timestamp.parse s with
      | .ok t => t
      | .error _ => now
    | _ => now
  | _ => now

def insertSorted {α : Type} (k : String) (v : α) : List (String × α) → List (String × α)
  | [] => [(k, v)]
  | (k', v') :: rest =>
    if k < k' then (k, v) :: (k', v') :: rest
    else if k == k' then (k, v) :: rest
    else (k', v') :: insertSorted k v rest

def headersField (v : Value) : List (String × List String) :=
  match v with
  | .object entries =>
    match Entries.get? entries "headers" with
    | some (.object hs) =>
      hs.foldl (fun acc h =>
        let values := match h.2 with
          | .array items => items.filterMap fun
              | .string s => some s
              | _ => none
          | _ => []
        insertSorted h.1 values acc) []
    | _ => []
  | _ => []

def bodyField (v : Value) : Option String :=
  match v with
  | .object entries =>
    match Entries.get? entries "body" with
    | some (.string s) => some s
    | _ => none
  | _ => none

def readSaved (shape : Shape) (data : Bytes) : Except ProcessError Value :=
  match readShaped shape data with
  | .ok v => .ok v
  | .error e => .error (.serialization ("unmarshal fail: " ++ e.message))

def loadEdit (yaml : Bool) (data : Bytes) (now : Timestamp) : Except ProcessError Processor := do
  let pathKey := if yaml then "yaml_path" else "json_path"
  let v ← readSaved (editShape (if yaml then "YamlProcessor" else "JsonProcessor") pathKey) data
  let e : Edit := ⟨textField v "path", textField v "op", textField v pathKey,
    textField v "value", textField v "author", stampField v now⟩
  return if yaml then .yaml e else .json e

def loadTile (data : Bytes) (now : Timestamp) : Except ProcessError Processor := do
  let v ← readSaved tileShape data
  return .tile ⟨textField v "path", textField v "content", textField v "author",
    stampField v now⟩

def loadFetch (data : Bytes) (now : Timestamp) : Except ProcessError Processor := do
  let v ← readSaved fetchShape data
  return .curl ⟨textField v "path", textField v "url", textField v "method", bodyField v,
    headersField v, textField v "author", stampField v now⟩

def loadableKinds : List String := ["json", "yaml", "tile", "curl"]

def load (kind : String) (data : Bytes) (now : Timestamp) : Option (Except ProcessError Processor) :=
  match kind with
  | "json" => some (loadEdit false data now)
  | "yaml" => some (loadEdit true data now)
  | "tile" => some (loadTile data now)
  | "curl" => some (loadFetch data now)
  | _ => none

end Processor

end RuleOverlay
