import RuleOverlay.Tree.Realize
/-! # Forests of named trees

A forest keeps trees by name. Trees come from builders: a builder run either makes a tree, or
fails, or panics, and a forest contains the last two: nothing is installed and the rest of the
forest goes on as before. A run that makes a tree installs it under the tree's own name,
replacing any tree of that name, and binds the builder to that name, so that the tree can later
be rebuilt on its own.

Builders are registered in order. `build` runs every registered builder once, in that order;
`append` registers builders and runs only those; `refreshTree` runs the builder bound to a name
and installs what it makes under the name of the new tree.

The forest does not know what a builder is: its operations take the way to run one, in any
monad, so the same forest serves builders that read files, count their runs or fail on purpose.
-/
namespace RuleOverlay

/-- How a run of a builder ended: with a tree, its name and root, or with an error or a panic,
each with its message. -/
inductive Outcome where
  | built (name : String) (root : NodeId)
  | failed (message : String)
  | panicked (message : String)

/-- Installed trees by name, the registered builders in order, and the builder bound to each
name. -/
structure Forest (β : Type) where
  trees : List (String × NodeId)
  builders : List β
  bound : List (String × β)

namespace Forest

variable {β : Type} {m : Type → Type} [Monad m]

def empty : Forest β := ⟨[], [], []⟩

def register (f : Forest β) (bs : List β) : Forest β := { f with builders := f.builders ++ bs }

def set (f : Forest β) (name : String) (root : NodeId) : Forest β :=
  { f with trees := (name, root) :: f.trees.filter (·.1 != name) }

def bind (f : Forest β) (name : String) (b : β) : Forest β :=
  { f with bound := (name, b) :: f.bound.filter (·.1 != name) }

def get? (f : Forest β) (name : String) : Option NodeId := f.trees.lookup name

def names (f : Forest β) : List String := (f.trees.map (·.1)).mergeSort fun a b => decide (a ≤ b)

def len (f : Forest β) : Nat := f.trees.length

def info (f : Forest β) : String :=
  "forest got " ++ toString f.names.length ++ " tree(s): [" ++ ", ".intercalate f.names ++ "]"

def debug (f : Forest β) : String :=
  "Forest \x7b trees: [" ++ ", ".intercalate (f.names.map Json.debugQuote) ++ "], builders: " ++
    toString f.builders.length ++ " \x7d"

def install (run : β → m Outcome) (f : Forest β) (b : β) : m (Forest β × Bool) := do
  match ← run b with
  | .built name root => return ((f.bind name b).set name root, true)
  | _ => return (f, false)

def installAll (run : β → m Outcome) (f : Forest β) (bs : List β) : m (Forest β) :=
  bs.foldlM (fun f b => return (← f.install run b).1) f

def build (run : β → m Outcome) (f : Forest β) : m (Forest β) := f.installAll run f.builders

def append (run : β → m Outcome) (f : Forest β) (bs : List β) : m (Forest β) :=
  (f.register bs).installAll run bs

def new (run : β → m Outcome) (bs : List β) : m (Forest β) := ((empty : Forest β).register bs).build run

def refreshTree (run : β → m Outcome) (f : Forest β) (name : String) : m (Forest β × Bool) := do
  match f.bound.lookup name with
  | none => return (f, false)
  | some b =>
    match ← run b with
    | .built n root => return (f.set n root, true)
    | _ => return (f, false)

end Forest

end RuleOverlay
