import RuleOverlay.Proofs.Walk
/-! # What each call leaves alone

The documents of a node are its content, its processors and its realized flag. A call changes
them only where it means to: a `set` binds the rule's processors at the one node its walk ends
at, a lookup realizes the recomputing nodes of its route, and `del` and `graft` touch children
only. A build makes a tree of new nodes and leaves every node already in the grove as it was.
-/
namespace RuleOverlay

namespace Node

/-- Two states of a node holding the same documents. -/
structure SameDocs (n n' : Node) : Prop where
  content : n'.content = n.content
  processors : n'.processors = n.processors
  realized : n'.realized = n.realized

theorem SameDocs.refl (n : Node) : n.SameDocs n := ⟨rfl, rfl, rfl⟩

theorem SameDocs.trans {n n' n'' : Node} (h : n.SameDocs n') (h' : n'.SameDocs n'') :
    n.SameDocs n'' :=
  ⟨h'.content.trans h.content, h'.processors.trans h.processors, h'.realized.trans h.realized⟩

theorem sameDocs_withChild (n : Node) (name : String) (c : NodeId) :
    n.SameDocs (n.withChild name c) := ⟨rfl, rfl, rfl⟩

end Node

namespace Grove

variable {g g' : Grove}

theorem sameDocs_modifyNode {id : NodeId} {f : Node → Node} (hf : ∀ n : Node, n.SameDocs (f n))
    (i : NodeId) : (g.node i).SameDocs ((g.modifyNode id f).node i) := by
  by_cases hId : id < g.nodes.size
  · rw [node_modifyNode hId]
    split
    · exact hf _
    · exact .refl _
  · rw [modifyNode_of_size_le (Nat.not_lt.mp hId)]
    exact .refl _

/-- Nodes from `base` on hang only nodes from `base` on: what a tree made from a new root at
`base` looks like while it is built. -/
def Above (g : Grove) (base : NodeId) : Prop :=
  base ≤ g.nodes.size ∧ ∀ i, base ≤ i → ∀ e ∈ (g.node i).children, base ≤ e.2

theorem Above.of_children {base : NodeId} (h : g.Above base) (hSize : g.nodes.size ≤ g'.nodes.size)
    (hKids : ∀ i, (g'.node i).children = (g.node i).children) : g'.Above base :=
  ⟨Nat.le_trans h.1 hSize, fun i hi e he => h.2 i hi e (hKids i ▸ he)⟩

theorem children_modifyNode {id : NodeId} {f : Node → Node}
    (hf : ∀ n : Node, (f n).children = n.children) (i : NodeId) :
    ((g.modifyNode id f).node i).children = (g.node i).children := by
  by_cases hId : id < g.nodes.size
  · rw [node_modifyNode hId]
    split
    · exact hf _
    · rfl
  · rw [modifyNode_of_size_le (Nat.not_lt.mp hId)]

end Grove

namespace Tree

open Grove

variable {g g' : Grove} {r : Except (Failure TreeError) Unit}

theorem grow_sameDocs {id c : NodeId} {name : String} (h : (grow id name).exec g = (.ok c, g')) :
    ∀ i < g.nodes.size, (g.node i).SameDocs (g'.node i) := by
  intro i hi
  rw [grow_exec] at h
  split at h <;> cases h
  · exact .refl _
  · have hDocs : ((g.add ((g.node id).sprout name)).1.node i).SameDocs
        (((g.add ((g.node id).sprout name)).1.modifyNode id (·.withChild name g.nodes.size)).node i) :=
      sameDocs_modifyNode (fun n => n.sameDocs_withChild _ _) i
    rwa [node_add_of_lt hi] at hDocs

theorem getDoc_node {id : NodeId} {path : String} {r : Except (Failure TreeError) Bytes}
    (hs : Sound g) (hId : id < g.nodes.size) (h : (getDoc id path).exec g = (r, g')) (x : NodeId) :
    g'.node x = g.node x ∨ ((g.node x).recomputes = true ∧
      g'.node x = { g.node x with content := (g'.node x).content, realized := true }) := by
  obtain ⟨ids, hRoute⟩ : ∃ ids, g.Route path id ids := Route.exists hs hId
  rw [getDoc_exec_eq_walk hs hId hRoute] at h
  obtain ⟨-, rfl⟩ := Prod.mk.inj h
  by_cases hx : x ∈ (g.walk none ids).stored.map Prod.fst
  · obtain ⟨⟨y, c⟩, hMem, rfl⟩ := List.mem_map.mp hx
    have hAfter := node_after_of_mem (stored_keys_nodup (hRoute.eq_trailFrom hs hId ▸
      trailFrom_nodup hs _ hId)) hMem (hRoute.lt hs hId y (mem_stored hMem).1)
    refine .inr ⟨(mem_stored hMem).2, ?_⟩
    rw [hAfter]
  · exact .inl (node_after_of_not_mem hx)

end Tree

end RuleOverlay
