import RuleOverlay.Tree.Realize
import RuleOverlay.Tree.Shape
import Mathlib
/-! # Running steps on a grove

`Grow.exec` runs a step from a grove and answers its outcome together with the grove it leaves.
A grove changes in three ways only: a node is added at its end, one node is changed in place,
or the record of processors run grows. Each step of a tree is given here once, as an equation
on `exec`, so that later proofs cite the equation and never unfold the step.

Realization is seen from a tree through `realizeAt`: the document, or the failure carrying the
path of the node whose processors failed.
-/
namespace RuleOverlay

namespace Grove

variable {g : Grove} {n : Node} {i id : NodeId} {f : Node → Node}

theorem node_eq_default (h : g.nodes.size ≤ i) : g.node i = default := by
  simp [node, get?, Array.getElem?_eq_none h]

theorem node_add_of_lt (h : i < g.nodes.size) : (g.add n).1.node i = g.node i := by
  simp [node, get?, add, Array.getElem?_push, Nat.ne_of_lt h]

theorem node_add_size : (g.add n).1.node g.nodes.size = n := by
  simp [node, get?, add]

@[simp] theorem size_add : (g.add n).1.nodes.size = g.nodes.size + 1 := by
  simp [add]

@[simp] theorem add_snd : (g.add n).2 = g.nodes.size := rfl

theorem node_modifyNode_self (h : id < g.nodes.size) :
    (g.modifyNode id f).node id = f (g.node id) := by
  simp only [node, get?, modifyNode, Array.getElem?_modify, Array.getElem?_eq_getElem h,
    Option.map_some, if_true, Option.getD_some]

theorem node_modifyNode_of_ne (h : i ≠ id) : (g.modifyNode id f).node i = g.node i := by
  simp [node, get?, modifyNode, Array.getElem?_modify, Ne.symm h]

@[simp] theorem size_modifyNode : (g.modifyNode id f).nodes.size = g.nodes.size := by
  simp [modifyNode]

def note (g : Grove) (ps : List Processor) : Grove := { g with ran := g.ran ++ ps.toArray }

@[simp] theorem node_note (ps : List Processor) : (g.note ps).node i = g.node i := rfl

@[simp] theorem size_note (ps : List Processor) : (g.note ps).nodes.size = g.nodes.size := rfl

/-- The child a node hands a path on to: the one named by the path's next segment, as the
node's own driver reads the path. -/
def next (g : Grove) (path : String) (id : NodeId) : Option NodeId :=
  (g.node id).child? ((g.node id).driver.paths.nameAt path ((g.node id).level + 1))

@[simp] theorem next_note (ps : List Processor) (path : String) :
    (g.note ps).next path i = g.next path i := rfl

end Grove

/-- What realizing processors for the node at `path` answers to a tree: the document, or the
failure, an error then naming the node's path. -/
def realizeAt (path : String) (baseline : Bytes) (ps : List Processor) :
    Except (Failure TreeError) Bytes :=
  match (realize baseline ps).result with
  | .ok doc => .ok doc
  | .error f => .error (f.map (.realize path))

theorem realize_result_of_realizeAt {path : String} {b c : Bytes} {ps : List Processor}
    (h : realizeAt path b ps = .ok c) : (realize b ps).result = .ok c := by
  unfold realizeAt at h
  split at h
  · cases h; assumption
  · cases h

/-- Whether a visit runs the node's processors: always for a lazy-instant node, for a lazy one
until it is realized, never for an eager one. -/
def Node.recomputes (n : Node) : Bool :=
  match n.mode with
  | .eager => false
  | .lazy => !n.realized
  | .lazyInstant => true

theorem Node.recomputes_of_eager {n : Node} (h : n.mode = .eager) : n.recomputes = false := by
  simp [recomputes, h]

theorem Node.recomputes_of_lazyInstant {n : Node} (h : n.mode = .lazyInstant) :
    n.recomputes = true := by
  simp [recomputes, h]

namespace Grow

def exec {α : Type} (act : Grow α) (g : Grove) : Except (Failure TreeError) α × Grove :=
  act.run.run g

variable {α β : Type} {g : Grove}

@[simp] theorem exec_bind (x : Grow α) (f : α → Grow β) :
    (x >>= f).exec g = match x.exec g with
      | (.ok a, g') => (f a).exec g'
      | (.error e, g') => (.error e, g') := by
  simp only [exec, ExceptT.run_bind, StateT.run_bind]
  rcases x.run.run g with ⟨_ | _, g'⟩ <;> rfl

@[simp] theorem exec_map (f : α → β) (x : Grow α) :
    (f <$> x).exec g = match x.exec g with
      | (.ok a, g') => (.ok (f a), g')
      | (.error e, g') => (.error e, g') := by
  simp only [exec, ExceptT.run_map, StateT.run_map]
  rcases x.run.run g with ⟨_ | _, g'⟩ <;> rfl

@[simp] theorem exec_pure (a : α) : (pure a : Grow α).exec g = (.ok a, g) := rfl

@[simp] theorem exec_throw (e : Failure TreeError) : (throw e : Grow α).exec g = (.error e, g) :=
  rfl

@[simp] theorem exec_get : (get : Grow Grove).exec g = (.ok g, g) := rfl

@[simp] theorem exec_set (g' : Grove) : (set g' : Grow Unit).exec g = (.ok (), g') := rfl

@[simp] theorem exec_modify (f : Grove → Grove) : (modify f : Grow Unit).exec g = (.ok (), f g) :=
  rfl

end Grow

open Grow

variable {g : Grove}

@[simp] theorem nodeAt_exec (id : NodeId) : (nodeAt id).exec g = (.ok (g.node id), g) := rfl

@[simp] theorem modifyNodeAt_exec (id : NodeId) (f : Node → Node) :
    (modifyNodeAt id f).exec g = (.ok (), g.modifyNode id f) := rfl

theorem realizeFor_exec (path : String) (b : Bytes) (ps : List Processor) :
    (realizeFor path b ps).exec g = (realizeAt path b ps, g.note (realize b ps).ran) := by
  unfold realizeFor realizeAt
  simp only [exec_bind, exec_modify]
  rcases (realize b ps).result with (_ | _) | _ <;> rfl

namespace Tree

theorem update_exec (id : NodeId) (ps : List Processor) :
    (update id ps).exec g =
      if (g.node id).mode.isLazy then
        (.ok (), g.modifyNode id fun n => { n with processors := ps, realized := false })
      else
        match realizeAt (g.node id).path (g.node id).baseline ps with
        | .ok c => (.ok (), (g.note (realize (g.node id).baseline ps).ran).modifyNode id
            fun n => { n with content := c, processors := ps, realized := true })
        | .error e => (.error e, g.note (realize (g.node id).baseline ps).ran) := by
  unfold update
  by_cases hLazy : (g.node id).mode.isLazy
  · simp [hLazy]
  · simp only [exec_bind, nodeAt_exec, hLazy, Bool.false_eq_true, if_false, realizeFor_exec]
    cases realizeAt (g.node id).path (g.node id).baseline ps <;> rfl

theorem grow_exec (id : NodeId) (name : String) :
    (grow id name).exec g =
      match g.child? id name with
      | some c => (.ok c, g)
      | none => (.ok g.nodes.size,
          (g.add ((g.node id).sprout name)).1.modifyNode id (·.withChild name g.nodes.size)) := by
  unfold grow
  simp only [exec_bind, exec_get]
  cases g.child? id name <;> rfl

theorem setFrom_succ_exec (fuel : Nat) (id : NodeId) (rule : Rule) :
    (setFrom (fuel + 1) id rule).exec g =
      if (g.node id).driver.paths.level rule.path = (g.node id).level then
        (update id rule.processors).exec g
      else if (g.node id).driver.paths.level rule.path < (g.node id).level then (.ok (), g)
      else match (grow id ((g.node id).driver.paths.nameAt rule.path ((g.node id).level + 1))).exec g with
        | (.ok c, g') => (setFrom fuel c rule).exec g'
        | (.error e, g') => (.error e, g') := by
  simp only [setFrom, exec_bind, nodeAt_exec, beq_iff_eq]
  by_cases hEq : (g.node id).driver.paths.level rule.path = (g.node id).level
  · simp only [hEq, if_true]
  · by_cases hLt : (g.node id).driver.paths.level rule.path < (g.node id).level
    · simp only [hEq, hLt, if_true, if_false, exec_pure]
    · simp only [hEq, hLt, if_false, exec_bind]
      rcases (grow id _).exec g with ⟨_ | _, g'⟩ <;> rfl

theorem setRule_exec (id : NodeId) (rule : Rule) :
    (setRule id rule).exec g = (setFrom (deepestLevel g rule.path + 1) id rule).exec g := by
  simp only [setRule, exec_bind, exec_get]

theorem level_le_deepestLevel {i : NodeId} (hi : i < g.nodes.size) (path : String) :
    (g.node i).driver.paths.level path ≤ deepestLevel g path := by
  have hFold : ∀ (ns : List Node) (m : Nat),
      m ≤ ns.foldl (fun d n => max d (n.driver.paths.level path)) m ∧
        ∀ n ∈ ns, n.driver.paths.level path ≤
          ns.foldl (fun d n => max d (n.driver.paths.level path)) m := by
    intro ns
    induction ns with
    | nil => exact fun m => ⟨le_refl m, fun n hn => absurd hn List.not_mem_nil⟩
    | cons x xs ih =>
      intro m
      obtain ⟨hInit, hAll⟩ := ih (max m (x.driver.paths.level path))
      refine ⟨le_trans (le_max_left _ _) hInit, fun n hn => ?_⟩
      rcases List.mem_cons.mp hn with rfl | hn
      · exact le_trans (le_max_right _ _) hInit
      · exact hAll n hn
  have hMem : g.node i ∈ g.nodes.toList := by
    rw [Grove.node, Grove.get?, Array.getElem?_eq_getElem hi, Option.getD_some]
    exact Array.getElem_mem_toList hi
  rw [deepestLevel, ← Array.foldl_toList]
  exact (hFold g.nodes.toList 0).2 _ hMem

def setAll (id : NodeId) : List Rule → Grow Unit
  | [] => pure ()
  | r :: rs => do setRule id r; setAll id rs

theorem forIn_setRule_exec (id : NodeId) : ∀ (rs : List Rule) (g : Grove),
    (forIn rs PUnit.unit fun r _ => do setRule id r; pure (ForInStep.yield PUnit.unit) :
      Grow PUnit).exec g = (setAll id rs).exec g
  | [], _ => rfl
  | r :: rs, g => by
    rw [List.forIn_cons]
    simp only [exec_bind, exec_pure, setAll]
    rcases (setRule id r).exec g with ⟨_ | _, g'⟩
    · rfl
    · exact forIn_setRule_exec id rs g'

theorem setAll_cons_exec (id : NodeId) (r : Rule) (rs : List Rule) :
    (setAll id (r :: rs)).exec g =
      match (setRule id r).exec g with
      | (.ok _, g') => (setAll id rs).exec g'
      | (.error e, g') => (.error e, g') := by
  simp only [setAll, exec_bind]
  rcases (setRule id r).exec g with ⟨_ | _, g'⟩ <;> rfl

theorem build_exec (d : Driver) (m : Mode) (name : String) (t : Bytes) (rules : List Rule) :
    (build d m name t rules).exec g =
      match (setAll g.nodes.size (Rule.sortByLevel d.paths rules)).exec
          (g.add (Node.root d m name t)).1 with
      | (.ok _, g') => (.ok g.nodes.size, g')
      | (.error e, g') => (.error e, g') := by
  unfold build
  simp only [exec_bind, exec_get, exec_set, Grove.add, forIn_setRule_exec]
  rcases (setAll g.nodes.size (Rule.sortByLevel d.paths rules)).exec _ with ⟨_ | _, g'⟩ <;> rfl

theorem visit_exec_of_settled {id : NodeId} (inherited : Option Bytes)
    (h : (g.node id).recomputes = false) :
    (visit id inherited).exec g = (.ok (g.node id).content, g) := by
  unfold visit
  simp only [exec_bind, nodeAt_exec]
  unfold Node.recomputes at h
  split at h <;> simp_all

theorem visit_exec_of_recomputes {id : NodeId} (inherited : Option Bytes)
    (h : (g.node id).recomputes = true) :
    (visit id inherited).exec g =
      let b := inherited.getD (g.node id).baseline
      match realizeAt (g.node id).path b (g.node id).processors with
      | .ok c => (.ok c, (g.note (realize b (g.node id).processors).ran).modifyNode id
          fun n => { n with content := c, realized := true })
      | .error e => (.error e, g.note (realize b (g.node id).processors).ran) := by
  unfold visit
  unfold Node.recomputes at h
  split at h
  · simp at h
  all_goals
    simp_all only [exec_bind, nodeAt_exec, realizeFor_exec, Bool.not_eq_eq_eq_not, Bool.not_true,
      Bool.false_eq_true, if_false]
    cases realizeAt (g.node id).path _ (g.node id).processors <;> rfl

theorem lookupFrom_succ_exec (fuel : Nat) (id : NodeId) (path : String)
    (inherited : Option Bytes) :
    (lookupFrom (fuel + 1) id path inherited).exec g =
      match (visit id inherited).exec g with
      | (.ok content, g') =>
        match g'.next path id with
        | some c => (lookupFrom fuel c path (some content)).exec g'
        | none => (.ok content, g')
      | (.error e, g') => (.error e, g') := by
  simp only [lookupFrom, exec_bind, nodeAt_exec, Grove.next]
  rcases (visit id inherited).exec g with ⟨_ | content, g'⟩
  · rfl
  · dsimp only
    cases (g'.node id).child? ((g'.node id).driver.paths.nameAt path ((g'.node id).level + 1)) <;>
      rfl

theorem getDoc_exec (id : NodeId) (path : String) :
    (getDoc id path).exec g = (lookupFrom (g.nodes.size + 1) id path none).exec g := rfl

theorem delFrom_succ_exec (fuel : Nat) (id : NodeId) (path : String) :
    (delFrom (fuel + 1) id path).exec g =
      if (g.node id).driver.paths.level path = 0 then (.error (.error .rootDeletion), g)
      else if (g.node id).driver.paths.level path ≤ (g.node id).level then (.ok (), g)
      else if (g.node id).driver.paths.level path = (g.node id).level + 1 then
        (.ok (), g.modifyNode id
          (·.withoutChild ((g.node id).driver.paths.nameAt path ((g.node id).level + 1))))
      else match g.child? id ((g.node id).driver.paths.nameAt path ((g.node id).level + 1)) with
        | some c => (delFrom fuel c path).exec g
        | none => (.ok (), g) := by
  simp only [delFrom, exec_bind, nodeAt_exec, beq_iff_eq]
  by_cases hRoot : (g.node id).driver.paths.level path = 0
  · simp [hRoot]
  · by_cases hAbove : (g.node id).driver.paths.level path ≤ (g.node id).level
    · simp [hRoot, hAbove]
    · by_cases hNext : (g.node id).driver.paths.level path = (g.node id).level + 1
      · have hNotLe : ¬(g.node id).level + 1 ≤ (g.node id).level := by omega
        simp [hNext, hNotLe]
      · simp only [hRoot, hAbove, hNext, if_false, Grove.child?]
        cases (g.node id).child? _ <;> rfl

theorem del_exec (id : NodeId) (path : String) :
    (del id path).exec g = (delFrom (g.nodes.size + 1) id path).exec g := rfl

/-- A graft that goes through hangs the child under the parent by its own name, answering the
node it replaced; the checks are those the graft makes, in its order. -/
theorem graft_exec_of_ok {parent child : NodeId} {r : Option NodeId} {g' : Grove}
    (h : (graft parent child).exec g = (.ok r, g')) :
    (g.node child).level = (g.node parent).level + 1 ∧
      (g.node child).path =
        (g.node parent).driver.paths.append (g.node parent).path (g.node child).name ∧
      (g.node child).driver.name = (g.node parent).driver.name ∧
      (g.node child).mode = (g.node parent).mode ∧
      r = (g.node parent).child? (g.node child).name ∧
      g' = g.modifyNode parent (·.withChild (g.node child).name child) := by
  simp only [graft, exec_bind, nodeAt_exec, bne_iff_ne, ne_eq] at h
  by_cases hLevel : (g.node child).level = (g.node parent).level + 1 <;>
    by_cases hPath : (g.node child).path =
      (g.node parent).driver.paths.append (g.node parent).path (g.node child).name <;>
    by_cases hDriver : (g.node child).driver.name = (g.node parent).driver.name <;>
    by_cases hMode : (g.node child).mode = (g.node parent).mode <;>
    simp_all

theorem graft_exec_of_error {parent child : NodeId} {e : Failure TreeError} {g' : Grove}
    (h : (graft parent child).exec g = (.error e, g')) : g' = g := by
  simp only [graft, exec_bind, nodeAt_exec, bne_iff_ne, ne_eq] at h
  by_cases hLevel : (g.node child).level = (g.node parent).level + 1 <;>
    by_cases hPath : (g.node child).path =
      (g.node parent).driver.paths.append (g.node parent).path (g.node child).name <;>
    by_cases hDriver : (g.node child).driver.name = (g.node parent).driver.name <;>
    by_cases hMode : (g.node child).mode = (g.node parent).mode <;>
    simp_all

end Tree

end RuleOverlay
