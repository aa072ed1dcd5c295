import RuleOverlay.Tree.Grove
/-! # Setting rules and reading documents

`set` binds a rule to the node at its path, making the nodes on the way; a rule shallower than
the node it is set on is ignored, and one of the node's own level updates that node whatever
its name. An eager node realizes its new processors from its baseline at once, and keeps its
old content and processors when that fails; a lazy node only stores them and forgets that it
was realized.

`get` walks from a node towards a path, realizing each node it visits on top of the content
of the node before, and answers the document of the deepest node it reaches. A lazy node
realizes on its first visit and keeps the result; a lazy-instant node realizes on every visit.
The first node of the walk inherits nothing and starts from its own baseline.

A walk goes one level deeper at each step. A grove holds each node once, so the number of nodes
bounds every lookup; the walk of `set`, which makes nodes, is bounded by the deepest level the
rule's path has under the styles of the grove.
-/
namespace RuleOverlay

namespace Tree

def update (id : NodeId) (ps : List Processor) : Grow Unit := do
  let n ← nodeAt id
  if n.mode.isLazy then
    modifyNodeAt id fun n => { n with processors := ps, realized := false }
  else
    let content ← realizeFor n.path n.baseline ps
    modifyNodeAt id fun n => { n with content := content, processors := ps, realized := true }

def grow (id : NodeId) (name : String) : Grow NodeId := do
  let g ← get
  match g.child? id name with
  | some c => return c
  | none =>
    let (g', c) := g.add ((g.node id).sprout name)
    set (g'.modifyNode id (·.withChild name c))
    return c

def setFrom : Nat → NodeId → Rule → Grow Unit
  | 0, _, _ => return ()
  | fuel + 1, id, rule => do
    let n ← nodeAt id
    let target := n.driver.paths.level rule.path
    if target == n.level then update id rule.processors
    else if target < n.level then return ()
    else
      let c ← grow id (n.driver.paths.nameAt rule.path (n.level + 1))
      setFrom fuel c rule

def deepestLevel (g : Grove) (path : String) : Nat :=
  g.nodes.foldl (fun deepest n => max deepest (n.driver.paths.level path)) 0

/-- Binds a rule to the node at its path below a node. Each step reads the rule's level with the
style of the node it stands on, which a graft may have brought from another tree; every node of
the walk is one level below the one before and has a style of the grove, so the walk ends within
the deepest level the path has under any of them. -/
def setRule (id : NodeId) (rule : Rule) : Grow Unit := do
  setFrom (deepestLevel (← get) rule.path + 1) id rule

def visit (id : NodeId) (inherited : Option Bytes) : Grow Bytes := do
  let n ← nodeAt id
  match n.mode with
  | .eager => return n.content
  | .lazy =>
    if n.realized then return n.content
    let content ← realizeFor n.path (inherited.getD n.baseline) n.processors
    modifyNodeAt id fun n => { n with content := content, realized := true }
    return content
  | .lazyInstant =>
    let content ← realizeFor n.path (inherited.getD n.baseline) n.processors
    modifyNodeAt id fun n => { n with content := content, realized := true }
    return content

def lookupFrom : Nat → NodeId → String → Option Bytes → Grow Bytes
  | 0, _, _, inherited => return inherited.getD []
  | fuel + 1, id, path, inherited => do
    let content ← visit id inherited
    let n ← nodeAt id
    match n.child? (n.driver.paths.nameAt path (n.level + 1)) with
    | some c => lookupFrom fuel c path (some content)
    | none => return content

def getDoc (id : NodeId) (path : String) : Grow Bytes := do
  lookupFrom ((← get).nodes.size + 1) id path none

def build (driver : Driver) (mode : Mode) (name : String) (template : Bytes)
    (rules : List Rule) : Grow NodeId := do
  let (g, root) := (← get).add (Node.root driver mode name template)
  set g
  for rule in Rule.sortByLevel driver.paths rules do
    setRule root rule
  return root

end Tree

end RuleOverlay
