import RuleOverlay.Loader
import RuleOverlay.Tree.Stand
/-! # A workshop: a forest and its builders

A workshop holds a forest over one grove together with the builders it may run, by id, and
counts every run of each builder. A builder either follows a script or reads a rules file.

A scripted builder's runs follow its plans in order: the k-th run (from 0) follows plan k, and
every run past the last plan follows the last. A plan plants a tree, or fails, or panics.

A builder of a rules file runs the builder of a configuration naming that file: the JSON tree
of its tree name over its template, from the rules the file holds at the time of the run. The
workshop keeps the files it has written itself and shows them over the disk it is given.
-/
namespace RuleOverlay

/-- What one run of a scripted builder does. -/
inductive Plan where
  | plant (p : Planting)
  | fail (message : String)
  | panic (message : String)

/-- A builder of a workshop. -/
inductive Builder where
  | script (plans : List Plan)
  | rulesFile (treeName template : String)

/-- Builders by id, their runs so far, the files written, the grove and the forest. -/
structure Workshop where
  builders : List (String × Builder)
  calls : List (String × Nat)
  files : List (String × Bytes)
  grove : Grove
  forest : Forest String

namespace Workshop

def rulesPath (id : String) : String := "rules-" ++ id ++ ".json"

def init (builders : List (String × Builder)) (rules : List (String × String)) : Workshop :=
  ⟨builders, [], rules.map fun (id, text) => (rulesPath id, Utf8.encode text), Grove.empty,
    Forest.empty⟩

def writeRules (w : Workshop) (id text : String) : Workshop :=
  let path := rulesPath id
  { w with files := (path, Utf8.encode text) :: w.files.filter (·.1 != path) }

def view (w : Workshop) (disk : Disk) : Disk := fun path =>
  match w.files.lookup path with
  | some bs => .ok bs
  | none => disk path

def grow {α : Type} (w : Workshop) (act : Grow α) : Except (Failure TreeError) α × Workshop :=
  let (r, g) := act.run.run w.grove
  (r, { w with grove := { g with ran := #[] } })

def follow (p : Plan) : StateM Workshop Outcome := do
  match p with
  | .fail m => return .failed m
  | .panic m => return .panicked m
  | .plant planting =>
    let (r, w) := (← get).grow planting.grow
    set w
    match r with
    | .ok root => return .built (w.grove.node root).name root
    | .error (.error e) => return .failed e.message
    | .error (.panic m) => return .panicked m

def call (disk : Disk) (now : Timestamp) (id : String) : StateM Workshop Outcome := do
  let w ← get
  let k := (w.calls.lookup id).getD 0
  set { w with calls := (id, k + 1) :: w.calls.filter (·.1 != id) }
  match w.builders.lookup id with
  | none => return .failed ("no builder '" ++ id ++ "'")
  | some (.script plans) =>
    match plans[min k (plans.length - 1)]? with
    | some p => follow p
    | none => return .failed "no plan"
  | some (.rulesFile treeName template) =>
    let config := { EngineConfig.default with
      rulesFile := rulesPath id, treeName := treeName, template := template }
    let w ← get
    let (o, g) := (defaultBuild (w.view disk) config .standard now).run w.grove
    set { w with grove := { g with ran := #[] } }
    return o

def withForest (w : Workshop) (op : Forest String → StateM Workshop (Forest String)) : Workshop :=
  let (f, w') := (op w.forest).run w
  { w' with forest := f }

def invocations (w : Workshop) : List (String × Nat) :=
  ((w.builders.map (·.1)).mergeSort fun a b => decide (a ≤ b)).map fun id =>
    (id, (w.calls.lookup id).getD 0)

end Workshop

end RuleOverlay
