import RuleOverlay.Json.Read
import RuleOverlay.Text.Blank
/-! # Engine configuration

The settings of a process that hosts a forest: the rules file, the name of the tree built
from it, the template document its root starts from, how often the forest is refreshed, and
how long to wait for the refresh loop to stop.

Durations are written `250ms`, `5s` or `2m`; a bare number is seconds. Reading trims the text,
splits it at the first character that is not an ASCII digit, reads the digits as a 64-bit
amount and the trimmed rest as the unit; minutes that overflow 64 bits of seconds are refused.
Writing picks the largest unit that divides the duration: minutes when it is a non-zero whole
number of them, else seconds (so zero is `0s`), else milliseconds.

`fromLookup` starts from the defaults, takes each setting that the lookup knows, and then
validates: the rules file may not be empty, the tree name may not be blank, and the refresh
interval may not be zero. A configuration read from JSON takes a default for every field left
out and ignores unknown fields; it is validated only on request.
-/
namespace RuleOverlay

/-- A span of time, to the millisecond. -/
structure Duration where
  millis : Nat
  deriving DecidableEq

namespace Duration

def ofSecs (n : Nat) : Duration := ⟨n * 1000⟩

def secs (d : Duration) : Nat := d.millis / 1000

def nanos (d : Duration) : Nat := d.millis % 1000 * 1000000

def amountLimit : Nat := Nat.pow 2 64 - 1

def amountOf (cs : List Char) : Option Nat :=
  if cs.isEmpty then none
  else
    let n := cs.foldl (fun acc c => acc * 10 + (c.toNat - 48)) 0
    if n ≤ amountLimit then some n else none

def parse (text : String) : Option Duration :=
  let cs := (Text.trim text).toList
  let digits := cs.takeWhile fun c => '0' ≤ c && c ≤ '9'
  let unit := if digits.length == cs.length then "s" else Text.trim (String.ofList (cs.drop digits.length))
  (amountOf digits).bind fun amount =>
    match unit with
    | "ms" => some ⟨amount⟩
    | "s" => some (ofSecs amount)
    | "m" => if amount * 60 ≤ amountLimit then some (ofSecs (amount * 60)) else none
    | _ => none

def format (d : Duration) : String :=
  if d.millis % 60000 == 0 && d.millis > 0 then toString (d.millis / 60000) ++ "m"
  else if d.millis % 1000 == 0 then toString (d.millis / 1000) ++ "s"
  else toString d.millis ++ "ms"

def toValue (d : Duration) : Json.Value :=
  .object [("secs", .number (.nat d.secs)), ("nanos", .number (.nat d.nanos))]

end Duration

/-- Why a configuration was refused. -/
inductive ConfigError where
  | invalidDuration (key value : String)
  | invalid (reason : String)

def ConfigError.message : ConfigError → String
  | .invalidDuration key value => "invalid duration for " ++ key ++ ": '" ++ value ++ "'"
  | .invalid reason => "invalid configuration: " ++ reason

def ConfigError.kindName : ConfigError → String
  | .invalidDuration _ _ => "InvalidDuration"
  | .invalid _ => "Invalid"

/-- Settings for hosting a rule forest. -/
structure EngineConfig where
  rulesFile : String
  treeName : String
  template : String
  refreshInterval : Duration
  shutdownTimeout : Duration

namespace EngineConfig

def default : EngineConfig := ⟨"conf/rules.json", "default", "\x7b\x7d", .ofSecs 5, .ofSecs 3⟩

def rulesFileVar : String := "RULES_FILE"
def treeNameVar : String := "RULE_TREE_NAME"
def refreshIntervalVar : String := "REFRESH_INTERVAL"
def shutdownTimeoutVar : String := "SHUTDOWN_TIMEOUT"

def validate (c : EngineConfig) : Except ConfigError Unit :=
  if c.rulesFile.isEmpty then .error (.invalid "rules_file cannot be empty")
  else if (Text.trim c.treeName).isEmpty then .error (.invalid "tree_name cannot be empty")
  else if c.refreshInterval.millis == 0 then
    .error (.invalid "refresh_interval must be greater than 0")
  else .ok ()

def durationFor (key value : String) : Except ConfigError Duration :=
  match Duration.parse value with
  | some d => .ok d
  | none => .error (.invalidDuration key value)

def fromLookup (lookup : String → Option String) : Except ConfigError EngineConfig := do
  let mut c := EngineConfig.default
  if let some path := lookup rulesFileVar then c := { c with rulesFile := path }
  if let some name := lookup treeNameVar then c := { c with treeName := name }
  if let some v := lookup refreshIntervalVar then
    c := { c with refreshInterval := ← durationFor refreshIntervalVar v }
  if let some v := lookup shutdownTimeoutVar then
    c := { c with shutdownTimeout := ← durationFor shutdownTimeoutVar v }
  c.validate
  return c

def toValue (c : EngineConfig) : Json.Value :=
  .object [("rules_file", .string c.rulesFile), ("tree_name", .string c.treeName),
    ("template", .string c.template),
    ("refresh_interval", .string c.refreshInterval.format),
    ("shutdown_timeout", .string c.shutdownTimeout.format)]

def durationShape : Json.Shape :=
  .converted fun s => if (Duration.parse s).isSome then none else some ("invalid duration '" ++ s ++ "'")

def shape : Json.Shape :=
  .record "EngineConfig" [("rules_file", .defaulted .pathText), ("tree_name", .defaulted .string),
    ("template", .defaulted .string), ("refresh_interval", .defaulted durationShape),
    ("shutdown_timeout", .defaulted durationShape)]

def textField (v : Json.Value) (k : String) : Option String :=
  match v with
  | .object entries =>
    match entries.lookup k with
    | some (.string s) => some s
    | _ => none
  | _ => none

def fromJson (bytes : Bytes) : Except Json.Error EngineConfig := do
  let v ← Json.readShaped shape bytes
  let d := EngineConfig.default
  let duration (k : String) (dflt : Duration) : Duration :=
    ((textField v k).bind Duration.parse).getD dflt
  return ⟨(textField v "rules_file").getD d.rulesFile, (textField v "tree_name").getD d.treeName,
    (textField v "template").getD d.template, duration "refresh_interval" d.refreshInterval,
    duration "shutdown_timeout" d.shutdownTimeout⟩

end EngineConfig

end RuleOverlay
