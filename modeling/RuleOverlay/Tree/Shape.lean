import RuleOverlay.Tree.Grove
/-! # Finding, removing and grafting nodes

`has` and `node` look a path up without making anything. A path shallower than the node asked
is absent; one of the node's own level is the node itself when the last segment is its name
(the root matches every path of level 0); a deeper path is followed through the children by
name.

`del` removes the node at a path with everything under it. The root can not be removed; a
path at or above the node asked, or one that is not there, leaves the tree as it is.

`graft` hangs an existing node under a node, in place of any child of its name. The node must
sit one level deeper, at the path the new parent would give it, and share its driver name and
mode; the checks are made in that order.
-/
namespace RuleOverlay

namespace Tree

def hasFrom (g : Grove) : Nat → NodeId → String → Bool
  | 0, _, _ => false
  | fuel + 1, id, path =>
    let n := g.node id
    let level := n.driver.paths.level path
    if level < n.level then false
    else if level == n.level then level == 0 || n.name == n.driver.paths.nameAt path level
    else match n.child? (n.driver.paths.nameAt path (n.level + 1)) with
      | some c => hasFrom g fuel c path
      | none => false

def has (g : Grove) (id : NodeId) (path : String) : Bool := hasFrom g (g.nodes.size + 1) id path

def descend (g : Grove) (style : PathStyle) (path : String) (level : Nat) :
    Nat → NodeId → Option NodeId
  | 0, _ => none
  | fuel + 1, id =>
    let n := g.node id
    if n.level < level then
      (n.child? (style.nameAt path (n.level + 1))).bind (descend g style path level fuel)
    else some id

def node? (g : Grove) (id : NodeId) (path : String) : Option NodeId :=
  let n := g.node id
  let style := n.driver.paths
  let level := style.level path
  if level < n.level then none
  else if level == n.level then
    if level == 0 || n.name == style.nameAt path level then some id else none
  else
    (n.child? (style.nameAt path (n.level + 1))).bind
      (descend g style path level (g.nodes.size + 1))

def delFrom : Nat → NodeId → String → Grow Unit
  | 0, _, _ => return ()
  | fuel + 1, id, path => do
    let n ← nodeAt id
    let level := n.driver.paths.level path
    if level == 0 then throw (.error .rootDeletion)
    if level ≤ n.level then return ()
    let name := n.driver.paths.nameAt path (n.level + 1)
    if level == n.level + 1 then modifyNodeAt id (·.withoutChild name)
    else match n.child? name with
      | some c => delFrom fuel c path
      | none => return ()

def del (id : NodeId) (path : String) : Grow Unit := do
  delFrom ((← get).nodes.size + 1) id path

def graft (parent child : NodeId) : Grow (Option NodeId) := do
  let p ← nodeAt parent
  let c ← nodeAt child
  if c.level != p.level + 1 then throw (.error (.graftLevelMismatch c.name p.level c.level))
  let expected := p.driver.paths.append p.path c.name
  if c.path != expected then
    throw (.error (.graftIncompatible c.path ("expected path '" ++ expected ++ "'")))
  if c.driver.name != p.driver.name then
    throw (.error (.graftIncompatible c.path
      ("driver '" ++ c.driver.name ++ "' differs from '" ++ p.driver.name ++ "'")))
  if c.mode != p.mode then
    throw (.error (.graftIncompatible c.path
      ("mode " ++ c.mode.title ++ " differs from " ++ p.mode.title)))
  modifyNodeAt parent (·.withChild c.name child)
  return p.child? c.name

def outlineFrom (g : Grove) : Nat → NodeId → Json.Value
  | 0, _ => .object []
  | fuel + 1, id =>
    let kids := (g.node id).children.mergeSort fun a b => decide (a.1 ≤ b.1)
    .object (kids.map fun (name, c) => (name, outlineFrom g fuel c))

def outline (g : Grove) (id : NodeId) : Json.Value := outlineFrom g (g.nodes.size + 1) id

def marshal (g : Grove) (id : NodeId) : Except TreeError Bytes :=
  let n := g.node id
  (n.driver.modem.marshal n.processors).mapError .modem

end Tree

end RuleOverlay
