import RuleOverlay.Driver
import RuleOverlay.Rule
/-! # Rule trees as a grove of nodes

A rule tree indexes nodes by path segment. Each node holds the processors bound to its exact
path and the document realized from them on top of what it inherits from its parent. Nodes
live in a grove and are named by their place in it, so one node may hang under several
parents: grafting a node into another tree shares it, and what later happens to it is seen
from every tree it hangs in. Children are found by name; a node never points back at its
parent.

Three modes say when a node's processors run: as soon as a rule is set (`eager`), on the first
visit and then kept (`lazy`), or again on every visit (`lazyInstant`).

Steps on a grove run in `Grow`: they change the grove, and may stop with a tree error or a
panic; what they changed before stopping stays changed. The grove also keeps the processors
run so far, in order.
-/
namespace RuleOverlay

/-- When a node's processors are applied. -/
inductive Mode where
  | eager
  | lazy
  | lazyInstant
  deriving DecidableEq

namespace Mode

def isLazy : Mode → Bool
  | .eager => false
  | _ => true

def title : Mode → String
  | .eager => "Eager"
  | .lazy => "Lazy"
  | .lazyInstant => "LazyInstant"

end Mode

abbrev NodeId := Nat

/-- A node of a rule tree: where it sits, how it realizes, its children by name, and its
document state. `baseline` is what its processors apply to when nothing is inherited: the
template at the root, the parent's content when the node was made elsewhere. -/
structure Node where
  name : String
  path : String
  level : Nat
  mode : Mode
  driver : Driver
  children : List (String × NodeId)
  baseline : Bytes
  content : Bytes
  processors : List Processor
  realized : Bool

instance : Inhabited Node := ⟨⟨"", "", 0, .eager, Driver.dummy, [], [], [], [], true⟩⟩

namespace Node

def child? (n : Node) (name : String) : Option NodeId := n.children.lookup name

def withChild (n : Node) (name : String) (child : NodeId) : Node :=
  { n with children := (name, child) :: n.children.filter (·.1 != name) }

def withoutChild (n : Node) (name : String) : Node :=
  { n with children := n.children.filter (·.1 != name) }

def debug (n : Node) : String :=
  "Tree \x7b name: " ++ Json.debugQuote n.name ++ ", path: " ++ Json.debugQuote n.path ++
    ", level: " ++ toString n.level ++ ", mode: " ++ n.mode.title ++ ", driver: " ++
    Json.debugQuote n.driver.name ++ ", .. \x7d"

end Node

/-- Why a tree step failed. -/
inductive TreeError where
  /-- the root can not be deleted -/
  | rootDeletion
  | treeNotFound (name : String)
  /-- a processor failed while the node at `path` was realized -/
  | realize (path : String) (source : RealizeError)
  | graftLevelMismatch (name : String) (parentLevel childLevel : Nat)
  /-- the grafted node uses another driver or mode, or sits at another path -/
  | graftIncompatible (path reason : String)
  | modem (e : ModemError)

def TreeError.message : TreeError → String
  | .rootDeletion => "root node can not be deleted"
  | .treeNotFound name => "tree not found: " ++ name
  | .realize path source => "realize fail at node '" ++ path ++ "': " ++ source.message
  | .graftLevelMismatch name parent child =>
    "can not graft '" ++ name ++ "' (level " ++ toString child ++ ") under a node at level " ++
      toString parent
  | .graftIncompatible path reason => "can not graft '" ++ path ++ "': " ++ reason
  | .modem e => e.message

def TreeError.kindName : TreeError → String
  | .rootDeletion => "RootDeletion"
  | .treeNotFound _ => "TreeNotFound"
  | .realize _ _ => "Realize"
  | .graftLevelMismatch _ _ _ => "GraftLevelMismatch"
  | .graftIncompatible _ _ => "GraftIncompatible"
  | .modem _ => "Modem"

/-- Nodes, and the processors run so far. -/
structure Grove where
  nodes : Array Node
  ran : Array Processor

def Grove.empty : Grove := ⟨#[], #[]⟩

abbrev Grow := ExceptT (Failure TreeError) (StateM Grove)

namespace Grove

def get? (g : Grove) (id : NodeId) : Option Node := g.nodes[id]?

def node (g : Grove) (id : NodeId) : Node := (g.get? id).getD default

def add (g : Grove) (n : Node) : Grove × NodeId := ({ g with nodes := g.nodes.push n }, g.nodes.size)

def modifyNode (g : Grove) (id : NodeId) (f : Node → Node) : Grove :=
  { g with nodes := g.nodes.modify id f }

def child? (g : Grove) (id : NodeId) (name : String) : Option NodeId := (g.node id).child? name

end Grove

def nodeAt (id : NodeId) : Grow Node := return (← get).node id

def modifyNodeAt (id : NodeId) (f : Node → Node) : Grow Unit := modify (·.modifyNode id f)

def Node.root (driver : Driver) (mode : Mode) (name : String) (template : Bytes) : Node :=
  ⟨name, driver.paths.root, 0, mode, driver, [], template, template, [], !mode.isLazy⟩

def Node.sprout (parent : Node) (name : String) : Node :=
  ⟨name, parent.driver.paths.append parent.path name, parent.level + 1, parent.mode,
    parent.driver, [], parent.content, parent.content, [], !parent.mode.isLazy⟩

def realizeFor (path : String) (baseline : Bytes) (ps : List Processor) : Grow Bytes := do
  let r := realize baseline ps
  modify fun g => { g with ran := g.ran ++ r.ran.toArray }
  match r.result with
  | .ok doc => return doc
  | .error (.error e) => throw (.error (.realize path e))
  | .error (.panic m) => throw (.panic m)

end RuleOverlay
