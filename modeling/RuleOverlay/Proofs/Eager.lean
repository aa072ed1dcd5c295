import RuleOverlay.Proofs.Route
/-! # Eager trees hold their documents settled

An eager node realizes its processors when they are bound, from its baseline, and keeps the
result; a failed realization keeps the old processors and document. A node is sprouted with no
processors and its parent's document as both baseline and document, and a root likewise over
its template. So every eager node of every grove a session reaches holds exactly what its
processors make of its baseline (`Grove.Settled`), and no call ever changes a baseline.

A lookup through eager nodes runs nothing: it answers the document of the last node of the
route. Together with the frame property of `set` this gives the design decision for eager
trees: a set whose walk stays off a route leaves what a lookup along it answers unchanged. In
particular a set on an ancestor does not reach the descendants already made from its old
document.
-/
namespace RuleOverlay

open Grove

def Node.Settled (n : Node) : Prop :=
  n.mode = .eager → (realize n.baseline n.processors).result = .ok n.content

namespace Node

theorem settled_root (d : Driver) (m : Mode) (name : String) (t : Bytes) :
    (Node.root d m name t).Settled := fun _ => rfl

theorem settled_sprout (n : Node) (name : String) : (n.sprout name).Settled := fun _ => rfl

theorem settled_of_lazy {n : Node} (h : n.mode.isLazy = true) : n.Settled := by
  intro hEager
  rw [hEager] at h
  cases h

end Node

namespace Grove

variable {g g' : Grove}

def Settled (g : Grove) : Prop := ∀ i < g.nodes.size, (g.node i).Settled

theorem settled_empty : Grove.empty.Settled := fun _ h => absurd h (Nat.not_lt_zero _)

theorem Settled.add (hs : g.Settled) {n : Node} (hn : n.Settled) : (g.add n).1.Settled := by
  intro i hi
  rw [node_add]
  split
  · exact hs i ‹_›
  · split
    · exact hn
    · rename_i hLt hEq
      rw [size_add] at hi
      exact absurd (Nat.le_antisymm (Nat.lt_succ_iff.mp hi) (Nat.not_lt.mp hLt)) hEq

theorem Settled.modifyNode (hs : g.Settled) {id : NodeId} {f : Node → Node}
    (hf : id < g.nodes.size → (f (g.node id)).Settled) : (g.modifyNode id f).Settled := by
  intro i hi
  rw [size_modifyNode] at hi
  by_cases hId : id < g.nodes.size
  · rw [node_modifyNode hId]
    split
    · subst i; exact hf hId
    · exact hs i hi
  · rw [modifyNode_of_size_le (Nat.not_lt.mp hId)]
    exact hs i hi

/-- Every change keeps every eager node settled: new nodes start settled, an eager node takes
new processors only with their realization, and visits realize lazy nodes only. -/
theorem Change.settled (h : Change g g') (hs : g.Settled) : g'.Settled := by
  cases h with
  | note => exact hs
  | plant => exact hs.add (Node.settled_root _ _ _ _)
  | sprout => exact hs.add (Node.settled_sprout _ _)
  | hang hp => exact hs.modifyNode fun _ => hs _ hp
  | cut _ hp => exact hs.modifyNode fun _ => hs _ hp
  | bind _ _ hLazy => exact hs.modifyNode fun _ => Node.settled_of_lazy hLazy
  | settle _ _ hReal => exact hs.modifyNode fun _ _ => realize_result_of_realizeAt hReal
  | refresh _ hRecomputes =>
    refine hs.modifyNode fun _ hEager => ?_
    have hMode : (g.node _).mode = .eager := hEager
    rw [Node.recomputes_of_eager hMode] at hRecomputes
    cases hRecomputes

theorem Changes.settled (h : Changes g g') (hs : g.Settled) : g'.Settled := by
  induction h with
  | refl => exact hs
  | tail _ hChange ih => exact hChange.settled ih

theorem Reachable.settled (h : Reachable g) : g.Settled :=
  (steps_changes sound_empty h).settled settled_empty

end Grove

namespace Tree

variable {g : Grove}

theorem getDoc_exec_of_eager (hs : Sound g) {r : NodeId} {path : String} {ids : List NodeId}
    (hr : r < g.nodes.size) (hEager : (g.node r).mode = .eager) (hRoute : g.Route path r ids) :
    (getDoc r path).exec g = (.ok (g.node (ids.getLastD r)).content, g) :=
  getDoc_exec_of_settled hs hr hRoute fun x hx =>
    Node.recomputes_of_eager ((hRoute.mode_eq hs x hx).trans hEager)

end Tree

variable {g : Grove}

/-- In every grove a session reaches: each eager node holds what its processors make of its
baseline; no call changes the baseline of a node there already, and a built tree's root has the
template as its baseline; a lookup from an eager node answers the document of the last node of
the route; and a set whose rule's route keeps away from that last node does not change what the
lookup answers. -/
theorem eager_content_realizes_baseline (hReach : Reachable g) :
    (∀ i < g.nodes.size, (g.node i).mode = .eager →
      (realize (g.node i).baseline (g.node i).processors).result = .ok (g.node i).content) ∧
    (∀ g', Step g g' → ∀ i < g.nodes.size, (g'.node i).baseline = (g.node i).baseline) ∧
    (∀ d m name t rules root g', (Tree.build d m name t rules).exec g = (.ok root, g') →
      (g'.node root).baseline = t) ∧
    (∀ r path ids, r < g.nodes.size → (g.node r).mode = .eager → g.Route path r ids →
      (Tree.getDoc r path).exec g = (.ok (g.node (ids.getLastD r)).content, g)) ∧
    (∀ r path ids h rule w, r < g.nodes.size → (g.node r).mode = .eager → g.Route path r ids →
      h < g.nodes.size → g.Route rule.path h w → ids.getLastD r ∉ w →
      ((Tree.getDoc r path).exec ((Tree.setRule h rule).exec g).2).1 =
        ((Tree.getDoc r path).exec g).1) := by
  have hs := hReach.sound
  refine ⟨fun i hi => hReach.settled i hi, ?_, ?_, ?_, ?_⟩
  · intro g' hStep i hi
    exact ((hStep.changes hs).keeps.origin hi).baseline
  · intro d m name t rules root g' hBuild
    exact (Tree.build_root hs hBuild).2.2.baseline
  · intro r path ids hr hEager hRoute
    exact Tree.getDoc_exec_of_eager hs hr hEager hRoute
  · intro r path ids h rule w hr hEager hRoute hh hw hAvoid
    have hIds := hRoute.lt hs hr
    have hd := hIds _ hRoute.getLastD_mem
    have hSet : (Tree.setRule h rule).exec g =
        (((Tree.setRule h rule).exec g).1, ((Tree.setRule h rule).exec g).2) := rfl
    obtain ⟨hNext, hContent⟩ :=
      Tree.setRule_frame hs hh hd hIds hRoute.next_ne_none hw hAvoid hSet
    have hStep : Step g ((Tree.setRule h rule).exec g).2 := .set hh rule
    have hKeeps := (hStep.changes hs).keeps
    have hs' := (hStep.changes hs).sound hs
    have hRoute' := hRoute.congr hNext
    have hEager' : (((Tree.setRule h rule).exec g).2.node r).mode = .eager :=
      ((hKeeps.origin hr).mode).trans hEager
    rw [Tree.getDoc_exec_of_eager hs' (Nat.lt_of_lt_of_le hr hKeeps.size_le) hEager' hRoute',
      Tree.getDoc_exec_of_eager hs hr hEager hRoute, hContent]

theorem eager_content_realizes_baseline_after_build :
    let g := ((Tree.build Driver.json .eager "conf" [] [Rule.empty "/a"]).exec Grove.empty).2
    Reachable g ∧
    (∀ i < g.nodes.size, (g.node i).mode = .eager →
      (realize (g.node i).baseline (g.node i).processors).result = .ok (g.node i).content) ∧
    (∀ g', Step g g' → ∀ i < g.nodes.size, (g'.node i).baseline = (g.node i).baseline) ∧
    (∀ d m name t rules root g', (Tree.build d m name t rules).exec g = (.ok root, g') →
      (g'.node root).baseline = t) ∧
    (∀ r path ids, r < g.nodes.size → (g.node r).mode = .eager → g.Route path r ids →
      (Tree.getDoc r path).exec g = (.ok (g.node (ids.getLastD r)).content, g)) ∧
    (∀ r path ids h rule w, r < g.nodes.size → (g.node r).mode = .eager → g.Route path r ids →
      h < g.nodes.size → g.Route rule.path h w → ids.getLastD r ∉ w →
      ((Tree.getDoc r path).exec ((Tree.setRule h rule).exec g).2).1 =
        ((Tree.getDoc r path).exec g).1) :=
  ⟨.single (.build _ _ _ _ _ _), eager_content_realizes_baseline (.single (.build _ _ _ _ _ _))⟩

end RuleOverlay
