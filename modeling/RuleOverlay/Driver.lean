import RuleOverlay.Modem
import RuleOverlay.Processor.Run
import RuleOverlay.Path.Delimited
/-! # Drivers and realization

A driver bundles what a tree needs to know about its documents: a name, how paths split into
segments, and a modem for its processor lists. Realization threads a document through a list
of processors in order and stops at the first that fails; its error names that processor's
kind and path. A panic stops it as well and is passed on as it is.

`realize` also answers the processors it ran, in order, the failing one included, and a tally
counts the runs of the processors that carry a label.
-/
namespace RuleOverlay

/-- What a tree knows about its documents. -/
structure Driver where
  name : String
  paths : PathStyle
  modem : Modem

namespace Driver

def json : Driver := ⟨"json", .slash, .general .json .standard⟩

def yaml : Driver := ⟨"yaml", .slash, .general .yaml .standard⟩

def tile : Driver := ⟨"tile", .slash, .general .json ⟨["tile"]⟩⟩

def dummy : Driver := ⟨"dummy", .slash, .dummy⟩

def debug (d : Driver) : String := "Driver \x7b name: " ++ Json.debugQuote d.name ++ " \x7d"

def withPaths (d : Driver) (paths : PathStyle) : Driver := { d with paths := paths }

end Driver

/-- A processor failed while a document was realized. -/
structure RealizeError where
  kind : String
  path : String
  source : ProcessError

def RealizeError.message (e : RealizeError) : String :=
  "process fail on processor '" ++ e.kind ++ "' (path '" ++ e.path ++ "'): " ++ e.source.message

/-- The outcome of a realization and the processors it ran. -/
structure Realized where
  result : Except (Failure RealizeError) Bytes
  ran : List Processor

def realize (baseline : Bytes) : List Processor → Realized
  | [] => ⟨.ok baseline, []⟩
  | p :: rest =>
    match p.run baseline with
    | .ok next =>
      let r := realize next rest
      ⟨r.result, p :: r.ran⟩
    | .error (.error e) => ⟨.error (.error ⟨p.kind, p.path, e⟩), [p]⟩
    | .error (.panic m) => ⟨.error (.panic m), [p]⟩

abbrev Tally := List (String × Nat)

def Tally.add (name : String) : Tally → Tally
  | [] => [(name, 1)]
  | (k, n) :: rest =>
    if name < k then (name, 1) :: (k, n) :: rest
    else if name == k then (k, n + 1) :: rest
    else (k, n) :: Tally.add name rest

def Tally.count (t : Tally) (ran : List Processor) : Tally :=
  (ran.filterMap Processor.label).foldl (fun acc l => Tally.add l acc) t

end RuleOverlay
