import RuleOverlay.Processor.Load
import RuleOverlay.Yaml.Read
import RuleOverlay.Yaml.Emit
/-! # Processor lists on the wire

A list of processors travels as a list of envelopes `{"type": kind, "data": saved form}`,
written as JSON or as YAML. Reading looks each kind up in a registry and loads the saved form
with it: the whole list is decoded first, then the envelopes are loaded in order, and the first
failure is the answer. A registry holds some of the kinds that have a saved form.

A modem is either such a general one, with an encoding and a registry, or the dummy, which
writes nothing and reads an empty list.
-/
namespace RuleOverlay

/-- One saved processor. -/
structure Envelope where
  kind : String
  data : Json.Value

/-- Why a processor list could not be written or read. -/
inductive ModemError where
  | encode (message : String)
  | decode (message : String)
  | unknownType (kind : String)
  | processor (kind : String) (source : ProcessError)

def ModemError.message : ModemError → String
  | .encode m => "marshal fail: " ++ m
  | .decode m => "unmarshal fail: " ++ m
  | .unknownType k => "unknown processor type: " ++ k
  | .processor k e => "processor '" ++ k ++ "' fail: " ++ e.message

def ModemError.kindName : ModemError → String
  | .encode _ => "Encode"
  | .decode _ => "Decode"
  | .unknownType _ => "UnknownProcessorType"
  | .processor _ _ => "Processor"

/-- The kinds a modem can load. -/
structure Registry where
  kinds : List String

namespace Registry

def standard : Registry := ⟨Processor.loadableKinds⟩

def register (r : Registry) (kind : String) : Registry :=
  if r.kinds.contains kind || !Processor.loadableKinds.contains kind then r
  else ⟨r.kinds ++ [kind]⟩

def contains (r : Registry) (kind : String) : Bool := r.kinds.contains kind

def sorted (r : Registry) : List String := r.kinds.mergeSort (fun a b => decide (a ≤ b))

def debug (r : Registry) : String :=
  "ProcessorRegistry \x7b kinds: [" ++ ", ".intercalate (r.sorted.map Json.debugQuote) ++ "] \x7d"

def load (r : Registry) (kind : String) (data : Bytes) (now : Timestamp) :
    Except ModemError Processor :=
  if r.contains kind then
    match Processor.load kind data now with
    | some (.ok p) => .ok p
    | some (.error e) => .error (.processor kind e)
    | none => .error (.unknownType kind)
  else .error (.unknownType kind)

def loadEnvelope (r : Registry) (env : Envelope) (now : Timestamp) : Except ModemError Processor :=
  r.load env.kind env.data.toBytes now

end Registry

/-- The outer format of an envelope list. -/
inductive Encoding where
  | json
  | yaml
  deriving DecidableEq

/-- Writes and reads processor lists. -/
inductive Modem where
  | general (encoding : Encoding) (registry : Registry)
  | dummy

def envelopeShape : Json.Shape := .record "ProcessorEnvelope" [("type", .string), ("data", .any)]

def envelopesShape : Json.Shape := .list envelopeShape

def Processor.envelope (p : Processor) : Except ModemError Envelope :=
  match p.saved with
  | .ok v => .ok ⟨p.kind, v⟩
  | .error e => .error (.processor p.kind e)

def envelopesValue (envs : List Envelope) : Json.Value :=
  .array (envs.map fun e => .object [("type", .string e.kind), ("data", e.data)])

def envelopeOf : Json.Value → Envelope
  | .object entries =>
    let kind := match Json.Entries.get? entries "type" with
      | some (.string s) => s
      | _ => ""
    ⟨kind, (Json.Entries.get? entries "data").getD .null⟩
  | _ => ⟨"", .null⟩

def envelopesOf (v : Json.Value) : List Envelope :=
  match v with
  | .array items => items.map envelopeOf
  | _ => []

namespace Modem

def debug : Modem → String
  | .general enc reg =>
    "GeneralModem \x7b encoding: " ++ (match enc with | .json => "Json" | .yaml => "Yaml") ++
      ", registry: " ++ reg.debug ++ " \x7d"
  | .dummy => "DummyModem"

def marshal (m : Modem) (ps : List Processor) : Except ModemError Bytes :=
  match m with
  | .dummy => .ok []
  | .general enc _ => do
    let envs ← ps.mapM Processor.envelope
    match enc with
    | .json => return (envelopesValue envs).toBytes
    | .yaml => return Utf8.encode (Yaml.emit (envelopesValue envs))

def unmarshal (m : Modem) (data : Bytes) (now : Timestamp) : Except ModemError (List Processor) :=
  match m with
  | .dummy => .ok []
  | .general enc reg => do
    let v ← match enc with
      | .json => (Json.readShaped envelopesShape data).mapError fun e => .decode e.message
      | .yaml => (Yaml.decode envelopesShape data).mapError fun e => .decode e.text
    (envelopesOf v).mapM fun env => reg.loadEnvelope env now

end Modem

end RuleOverlay
