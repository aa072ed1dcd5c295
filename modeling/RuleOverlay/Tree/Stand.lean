import RuleOverlay.Tree.Realize
import RuleOverlay.Tree.Shape
/-! # A stand of trees

A stand keeps several trees by id over one grove, so that a node grafted from one tree into
another stays one node. Steps run on the grove; the stand counts the labelled processors they
run. Planting a tree under an id that is taken replaces it once the new tree is built; a tree
that fails to build leaves the id as it was.

A planting says how a tree is built: its driver and mode, its name, the template of its root
and its rules.
-/
namespace RuleOverlay

/-- How a tree is built. -/
structure Planting where
  driver : Driver
  mode : Mode
  name : String
  template : Bytes
  rules : List Rule

def Planting.grow (p : Planting) : Grow NodeId := Tree.build p.driver p.mode p.name p.template p.rules

/-- Trees by id over one grove, and the runs of labelled processors so far. -/
structure Stand where
  grove : Grove
  trees : List (String × NodeId)
  tally : Tally

namespace Stand

def empty : Stand := ⟨Grove.empty, [], []⟩

def run {α : Type} (s : Stand) (act : Grow α) : Except (Failure TreeError) α × Stand :=
  let (r, g) := act.run.run s.grove
  (r, { s with grove := { g with ran := #[] }, tally := Tally.count s.tally g.ran.toList })

def root? (s : Stand) (id : String) : Option NodeId := s.trees.lookup id

def target? (s : Stand) (id : String) (path : Option String) : Option NodeId :=
  (s.root? id).bind fun root =>
    match path with
    | none => some root
    | some p => Tree.node? s.grove root p

def plant (s : Stand) (id : String) (p : Planting) : Except (Failure TreeError) NodeId × Stand :=
  match s.run p.grow with
  | (.ok root, s') => (.ok root, { s' with trees := (id, root) :: s'.trees.filter (·.1 != id) })
  | (.error e, s') => (.error e, s')

end Stand

end RuleOverlay
