import RuleOverlay.Processor.Basic
import RuleOverlay.Json.Read
import RuleOverlay.Json.KeyPath
import RuleOverlay.Yaml.Read
import RuleOverlay.Yaml.Emit
import RuleOverlay.Http.Request
/-! # Running processors

What each kind does to a document.

* An edit checks its operation first: `create`, `append` and `replace` write the value as a
  string, `set` reads the value as a document of the edit's own format and writes that, and
  `delete` removes the key path. The document is then read: bytes that are all ASCII blanks
  count as `{}`, and for YAML a document that reads as `null` does too. The result is written
  back in the same format.
* A tile answers its content.
* A fetch answers the body of its response (`Http.Request.send`).
* A raw processor answers what its function answers.
-/
namespace RuleOverlay

namespace Processor

open Json

/-- What an edit does. -/
inductive EditOp where
  | setString
  | setRaw
  | delete

def EditOp.parse (op : String) : Except ProcessError EditOp :=
  match op with
  | "create" | "append" | "replace" => .ok .setString
  | "set" => .ok .setRaw
  | "delete" => .ok .delete
  | other => .error (.unknownOperation other)

def targetError (e : KeyPathError) : ProcessError := .invalidTarget e.target e.fault.reason

def isBlankDocument (bs : Bytes) : Bool := bs.all Text.isAsciiBlankByte

def readJsonDocument (bs : Bytes) : Except ProcessError Value :=
  if isBlankDocument bs then .ok (.object [])
  else
    match parse bs with
    | .ok v => .ok v
    | .error e => .error (.invalidDocument e.message)

def readYamlDocument (bs : Bytes) : Except ProcessError Value :=
  if isBlankDocument bs then .ok (.object [])
  else
    match Yaml.decode .any bs with
    | .ok .null => .ok (.object [])
    | .ok v => .ok v
    | .error e => .error (.invalidDocument e.text)

def applyEdit (e : Edit) (op : EditOp) (readRaw : String → Except String Value) (doc : Value) :
    Except ProcessError Value :=
  match op with
  | .setString => (doc.setAt e.keyPath (.string e.value)).mapError targetError
  | .setRaw =>
    match readRaw e.value with
    | .error msg => .error (.invalidTarget e.keyPath ("invalid raw value: " ++ msg))
    | .ok parsed => (doc.setAt e.keyPath parsed).mapError targetError
  | .delete => (doc.deleteAt e.keyPath).mapError targetError

def runJson (e : Edit) (before : Bytes) : Except ProcessError Bytes := do
  let op ← EditOp.parse e.op
  let doc ← readJsonDocument before
  let raw (s : String) : Except String Value := (parseText s).mapError Error.message
  let after ← applyEdit e op raw doc
  return after.toBytes

def runYaml (e : Edit) (before : Bytes) : Except ProcessError Bytes := do
  let op ← EditOp.parse e.op
  let doc ← readYamlDocument before
  let raw (s : String) : Except String Value := (Yaml.decode .any (Utf8.encode s)).mapError (·.text)
  let after ← applyEdit e op raw doc
  return Utf8.encode (Yaml.emit after)

def run (p : Processor) (before : Bytes) : Except (Failure ProcessError) Bytes :=
  match p with
  | .json e => (runJson e before).mapError .error
  | .yaml e => (runYaml e before).mapError .error
  | .tile t => .ok (Utf8.encode t.content)
  | .curl f =>
    match (Http.Request.ofParts f.url f.method f.headers f.body).bind Http.Request.send with
    | .ok body => .ok body
    | .error reason => .error (.error (.fetch f.url reason))
  | .raw r => r.run before

end Processor

end RuleOverlay
