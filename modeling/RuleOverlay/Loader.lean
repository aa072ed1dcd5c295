import RuleOverlay.Modem
import RuleOverlay.Config
import RuleOverlay.Forest.Basic
/-! # Rules files

A rules file is a JSON list of records, each a path and the processors to bind there, written
as envelopes the way modems write them; a record without processors binds none.

Loading rebuilds each processor through a registry. An envelope of a kind the registry does not
know is skipped; one that fails to load stops loading with an error naming its rule's path.

Files are read through a `Disk`, which answers the bytes at a path or the reason they can not
be read. The builder of a configuration reads its rules file again on every run, so a
refreshing forest follows edits to it.
-/
namespace RuleOverlay

open Json (Value)

/-- Why rules could not be loaded. -/
inductive LoadError where
  | io (path reason : String)
  | malformed (e : Json.Error)
  | invalidProcessor (path : String) (source : ModemError)

def LoadError.message : LoadError → String
  | .io path reason => "failed to read rules file " ++ path ++ ": " ++ reason
  | .malformed e => "malformed rules: " ++ e.message
  | .invalidProcessor path source => "rule '" ++ path ++ "' has an invalid processor: " ++ source.message

def LoadError.kindName : LoadError → String
  | .io _ _ => "Io"
  | .malformed _ => "Malformed"
  | .invalidProcessor _ _ => "InvalidProcessor"

def rulesShape : Json.Shape :=
  .list (.record "RuleRecord" [("path", .string), ("processors", .defaulted (.list envelopeShape))])

def ruleOfRecord (registry : Registry) (now : Timestamp) (v : Value) : Except LoadError Rule := do
  let (path, envs) := match v with
    | .object entries =>
      let path := match Json.Entries.get? entries "path" with
        | some (.string s) => s
        | _ => ""
      let envs := match Json.Entries.get? entries "processors" with
        | some (.array items) => items.map envelopeOf
        | _ => []
      (path, envs)
    | _ => ("", [])
  let known := envs.filter (registry.contains ·.kind)
  let ps ← known.mapM fun env =>
    (registry.loadEnvelope env now).mapError (LoadError.invalidProcessor path)
  return ⟨path, ps⟩

def loadRules (registry : Registry) (data : Bytes) (now : Timestamp) : Except LoadError (List Rule) := do
  let v ← (Json.readShaped rulesShape data).mapError LoadError.malformed
  match v with
  | .array records => records.mapM (ruleOfRecord registry now)
  | _ => return []

abbrev Disk := String → Except String Bytes

def loadRulesFile (disk : Disk) (registry : Registry) (path : String) (now : Timestamp) :
    Except LoadError (List Rule) := do
  let data ← (disk path).mapError (LoadError.io path)
  loadRules registry data now

/-- One run of the builder of a configuration: the eager JSON tree named by it over its
template, from the rules its file holds now. -/
def defaultBuild (disk : Disk) (config : EngineConfig) (registry : Registry) (now : Timestamp) :
    StateM Grove Outcome := do
  match loadRulesFile disk registry config.rulesFile now with
  | .error e => return .failed e.message
  | .ok rules =>
    let (r, g) := (Tree.build .json .eager config.treeName (Utf8.encode config.template) rules).run.run
      (← get)
    set g
    match r with
    | .ok root => return .built config.treeName root
    | .error (.error e) =>
      return .failed ("failed to build tree '" ++ config.treeName ++ "': " ++ e.message)
    | .error (.panic m) => return .panicked m

end RuleOverlay
