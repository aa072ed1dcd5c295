import RuleOverlay.Proofs.Prune
import RuleOverlay.Proofs.Atomic
/-! # The later of two sets for one node

A set walks from the node it is called on along the segments of the rule's path, growing the
children it misses, and updates the node at the end. Two rules whose paths have the same
segments walk alike as long as every node on the way reads paths as the root does: the first
set grows the chain of nodes, the second finds it grown and updates the same node. An update
rebinds the node's processors and, in an eager tree, realizes them from the node's baseline,
which no update changes; so the second update leaves the node as if the first had never run.
The grove after both sets is the grove after the second alone, up to the record of processors
run, and every lookup answers alike.

The walk reads each node's own path style. A graft checks only the path text of the node it
hangs, and two delimiters can give one path text at two different lists of names; a node of
another style grafted on the way makes the two walks part there.
-/
namespace RuleOverlay

open Grove

namespace Grove

variable {g g' : Grove}

theorem modify_modify {xs : Array Node} {i : Nat} {f₁ f₂ : Node → Node}
    (h : ∀ n, f₂ (f₁ n) = f₂ n) : (xs.modify i f₁).modify i f₂ = xs.modify i f₂ := by
  apply Array.ext_getElem?
  intro j
  simp only [Array.getElem?_modify]
  split
  · rw [Option.map_map]
    congr 1
    funext n
    exact h n
  · rfl

theorem nodes_modifyNode {i : NodeId} {f : Node → Node} :
    (g.modifyNode i f).nodes = g.nodes.modify i f := rfl

theorem nodes_note (ps : List Processor) : (g.note ps).nodes = g.nodes := rfl

theorem node_of_nodes_eq (h : g'.nodes = g.nodes) (i : NodeId) : g'.node i = g.node i := by
  simp only [node, get?, h]

theorem Descends.of_children {c n : NodeId} {ns : List String}
    (hKids : ∀ i, (g'.node i).children = (g.node i).children) (h : g.Descends c ns n) :
    g'.Descends c ns n := by
  induction h with
  | here => exact .here _
  | down hMem _ ih => exact .down ((hKids _).symm ▸ hMem) ih

end Grove

namespace Tree

variable {g g' G : Grove} {t : NodeId}

/-- A lookup reads the nodes only: groves holding the same nodes answer alike, whatever record
of processors run each keeps. -/
theorem getDoc_result_of_nodes (hs : Sound g) (hs' : Sound g') {r : NodeId}
    (hr : r < g.nodes.size) (h : g'.nodes = g.nodes) (q : String) :
    ((getDoc r q).exec g').1 = ((getDoc r q).exec g).1 := by
  obtain ⟨ids, hRoute⟩ : ∃ ids, g.Route q r ids := Route.exists hs hr
  have hNode := node_of_nodes_eq h
  refine getDoc_result_congr hs hs' hr (h ▸ hr) hRoute (fun y _ => next_congr_node (hNode y))
    fun y _ => ?_
  rw [hNode y]

theorem update_keeps_shape {ps : List Processor} {r : Except (Failure TreeError) Unit}
    (h : (update t ps).exec g = (r, g')) (i : NodeId) :
    (g.node i).SameOrigin (g'.node i) ∧ (g'.node i).children = (g.node i).children := by
  rw [update_exec] at h
  split at h
  · cases h
    refine ⟨origin_modifyNode ?_ i, children_modifyNode ?_ i⟩
    · exact fun _ => ⟨rfl, rfl, rfl, rfl, rfl, rfl⟩
    · exact fun _ => rfl
  · split at h
    · cases h
      refine ⟨origin_modifyNode ?_ i, children_modifyNode ?_ i⟩
      · exact fun _ => ⟨rfl, rfl, rfl, rfl, rfl, rfl⟩
      · exact fun _ => rfl
    · cases h
      exact ⟨.refl _, rfl⟩

/-- Updating a node twice ends as updating it with the later processors alone: the update reads
the node's mode, path and baseline, which an update keeps, and writes over all it changes. -/
theorem update_update (ps₁ ps₂ : List Processor) {r₁ : Except (Failure TreeError) Unit}
    {G₁ : Grove} (h₁ : (update t ps₁).exec G = (r₁, G₁)) :
    ((update t ps₂).exec G₁).1 = ((update t ps₂).exec G).1 ∧
    (((update t ps₂).exec G₁).1 = .ok () →
      ((update t ps₂).exec G₁).2.nodes = ((update t ps₂).exec G).2.nodes) := by
  have hOrigin := (update_keeps_shape h₁ t).1
  rw [update_exec t ps₂, update_exec t ps₂, hOrigin.mode, hOrigin.path, hOrigin.baseline]
  rw [update_exec] at h₁
  by_cases hLazy : (G.node t).mode.isLazy
  · rw [if_pos hLazy] at h₁
    rw [if_pos hLazy, if_pos hLazy]
    obtain ⟨-, rfl⟩ := Prod.mk.inj h₁
    refine ⟨rfl, fun _ => ?_⟩
    simp only [nodes_modifyNode]
    refine modify_modify ?_
    exact fun _ => rfl
  · rw [if_neg hLazy] at h₁
    rw [if_neg hLazy, if_neg hLazy]
    cases hReal₂ : realizeAt (G.node t).path (G.node t).baseline ps₂ with
    | error e => exact ⟨rfl, fun h => by cases h⟩
    | ok c =>
      refine ⟨rfl, fun _ => ?_⟩
      split at h₁
      · obtain ⟨-, rfl⟩ := Prod.mk.inj h₁
        simp only [nodes_modifyNode, nodes_note]
        refine modify_modify ?_
        exact fun _ => rfl
      · obtain ⟨-, rfl⟩ := Prod.mk.inj h₁
        rfl

/-- A node updated twice ends as the node updated once with the later processors, whenever
the later update succeeds: the grove holds the same nodes and every lookup answers alike. -/
theorem update_twice_answers (hs : Sound G) {r : NodeId} (hr : r < G.nodes.size)
    (ht : t < G.nodes.size) {ps₁ ps₂ : List Processor} {r₁ : Except (Failure TreeError) Unit}
    {G₁ : Grove} (h₁ : (update t ps₁).exec G = (r₁, G₁))
    (hOk : ((update t ps₂).exec G₁).1 = .ok ()) :
    ((update t ps₂).exec G).1 = .ok () ∧
      ((update t ps₂).exec G₁).2.nodes = ((update t ps₂).exec G).2.nodes ∧
      ∀ q, ((getDoc r q).exec ((update t ps₂).exec G₁).2).1 =
        ((getDoc r q).exec ((update t ps₂).exec G).2).1 := by
  obtain ⟨hRes, hNodes⟩ := update_update ps₁ ps₂ h₁
  obtain ⟨resA, GA, hA⟩ : ∃ r g', (update t ps₂).exec G₁ = (r, g') := ⟨_, _, rfl⟩
  obtain ⟨resB, GB, hB⟩ : ∃ r g', (update t ps₂).exec G = (r, g') := ⟨_, _, rfl⟩
  rw [hA, hB] at hRes hNodes ⊢
  rw [hA] at hOk
  dsimp only at hOk hRes hNodes ⊢
  have hChanges₁ := update_changes ht h₁
  have hChangesB := update_changes ht hB
  have ht₁ : t < G₁.nodes.size := Nat.lt_of_lt_of_le ht hChanges₁.keeps.size_le
  have hsA : Sound GA := (update_changes ht₁ hA).sound (hChanges₁.sound hs)
  refine ⟨hRes ▸ hOk, hNodes hOk, fun q => ?_⟩
  exact getDoc_result_of_nodes (hChangesB.sound hs) hsA
    (Nat.lt_of_lt_of_le hr hChangesB.keeps.size_le) (hNodes hOk) q

/-! ### The walk of a set -/

section Walk

variable {c : NodeId} {style : PathStyle} {rule : Rule}

/-- One step of a set's walk: the child of the name, found or sprouted, hangs under the node by
that name, reads paths as the node does, and sits one level deeper; every child hanging
anywhere before still hangs there. -/
theorem grow_step (hs : Sound g) (hc : c < g.nodes.size) (hStyle : g.OneStyle c) {x : String}
    {c' : NodeId} (h : (grow c x).exec g = (.ok c', g')) :
    (x, c') ∈ (g'.node c).children ∧
      (∀ i e, e ∈ (g.node i).children → e ∈ (g'.node i).children) ∧
      g'.OneStyle c' ∧ (g'.node c').driver.paths = (g.node c).driver.paths ∧
      (g'.node c').level = (g.node c).level + 1 := by
  rw [grow_exec] at h
  split at h
  · rename_i c'' hChild
    obtain ⟨hc'', rfl⟩ := Prod.mk.inj h
    cases Except.ok.inj hc''
    have hMem := Node.mem_of_child? hChild
    refine ⟨hMem, fun _ _ he => he, fun ns n hn => ?_, hStyle [x] c' (.down hMem (.here c')),
      (hs.hangs hMem).level⟩
    rw [hStyle (x :: ns) n (.down hMem hn), hStyle [x] c' (.down hMem (.here c'))]
  · rename_i hNone
    obtain ⟨hc'', rfl⟩ := Prod.mk.inj h
    cases Except.ok.inj hc''
    have hLeaf : ((g.add ((g.node c).sprout x)).1.modifyNode c
        (·.withChild x g.nodes.size)).node g.nodes.size = (g.node c).sprout x := by
      rw [node_modifyNode_of_ne (Nat.ne_of_gt hc), node_add_size]
    refine ⟨?_, fun i e he => ?_, fun ns n hn => ?_, by rw [hLeaf]; rfl, by rw [hLeaf]; rfl⟩
    · rw [node_modifyNode_self (by simpa using Nat.lt_succ_of_lt hc), node_add_of_lt hc,
        Node.mem_withChild]
      exact .inl rfl
    · by_cases hi : i = c
      · subst hi
        rw [node_modifyNode_self (by simpa using Nat.lt_succ_of_lt hc), node_add_of_lt hc,
          Node.mem_withChild]
        refine .inr ⟨he, fun hx => ?_⟩
        have := Node.child?_eq_some_of_mem (hs.keys_nodup i) he
        rw [hx] at this
        rw [Grove.child?, this] at hNone
        cases hNone
      · have hLt : i < g.nodes.size := by
          by_contra hGe
          rw [node_eq_default (Nat.not_lt.mp hGe)] at he
          exact absurd he List.not_mem_nil
        rw [node_modifyNode_of_ne hi, node_add_of_lt hLt]
        exact he
    · cases hn with
      | here => rfl
      | down hMem _ =>
        rw [hLeaf] at hMem
        exact absurd hMem List.not_mem_nil

theorem setFrom_exec_at_end {pre : List String} {fuel : Nat}
    (hPaths : (g.node c).driver.paths = style) (hLevel : (g.node c).level = pre.length)
    (hSegs : pre ++ [] = style.segments rule.path) (hFuel : 0 < fuel) :
    (setFrom fuel c rule).exec g = (update c rule.processors).exec g := by
  obtain ⟨fuel, rfl⟩ : ∃ f, fuel = f + 1 := ⟨fuel - 1, by omega⟩
  rw [setFrom_succ_exec, hPaths, level_of_append hSegs, hLevel, List.length_nil, Nat.add_zero,
    if_pos rfl]

theorem setFrom_exec_step {pre rest : List String} {x : String} {fuel : Nat} {c' : NodeId}
    (hPaths : (g.node c).driver.paths = style) (hLevel : (g.node c).level = pre.length)
    (hSegs : pre ++ x :: rest = style.segments rule.path) (hFuel : (x :: rest).length < fuel)
    (hGrow : (grow c x).exec g = (.ok c', g')) :
    (setFrom fuel c rule).exec g = (setFrom (fuel - 1) c' rule).exec g' := by
  obtain ⟨fuel, rfl⟩ : ∃ f, fuel = f + 1 := ⟨fuel - 1, by simp at hFuel; omega⟩
  have hTarget := level_of_append hSegs
  simp only [List.length_cons] at hTarget hFuel
  rw [setFrom_succ_exec, hPaths, hTarget, hLevel, if_neg (by omega), if_neg (by omega),
    nameAt_next_segment hSegs, hGrow, Nat.add_sub_cancel]

theorem setFrom_exec_of_descends (hs : Sound g) {t : NodeId} {rest : List String}
    (h : g.Descends c rest t) :
    ∀ {fuel : Nat} {pre : List String}, (g.node c).level = pre.length →
      (∀ pre' n, g.Descends c pre' n → pre' <+: rest → (g.node n).driver.paths = style) →
      pre ++ rest = style.segments rule.path → rest.length < fuel →
      (setFrom fuel c rule).exec g = (update t rule.processors).exec g := by
  induction h with
  | @here c =>
    intro fuel pre hLevel hStyle hSegs hFuel
    exact setFrom_exec_at_end (hStyle [] c (.here c) List.nil_prefix) hLevel hSegs
      (by simpa using hFuel)
  | @down c c' t x rest hMem _ ih =>
    intro fuel pre hLevel hStyle hSegs hFuel
    have hGrow : (grow c x).exec g = (.ok c', g) := by
      rw [grow_exec, Grove.child?, Node.child?_eq_some_of_mem (hs.keys_nodup c) hMem]
    rw [setFrom_exec_step (hStyle [] c (.here c) List.nil_prefix) hLevel hSegs hFuel hGrow]
    exact @ih (fuel - 1) (pre ++ [x])
      (by rw [(hs.hangs hMem).level, hLevel, List.length_append, List.length_singleton])
      (fun pre' n hn hPre =>
        hStyle (x :: pre') n (.down hMem hn) (List.cons_prefix_cons.mpr ⟨rfl, hPre⟩))
      (by simpa using hSegs) (by simp at hFuel; omega)

/-- A set grows, from a node reading paths in `style`, the chain of children along the rest of
the rule's segments and updates the node at its end. The chain depends on the segments only:
every rule of those segments grows the same grove and updates the same node. -/
theorem setFrom_exec_chain :
    ∀ {rest : List String} {g : Grove} {c : NodeId} {pre : List String}, Sound g →
      c < g.nodes.size → (g.node c).level = pre.length → g.OneStyle c →
      (g.node c).driver.paths = style → (∀ x ∈ rest, x ≠ "") →
      ∃ G t, Changes g G ∧ G.Descends c rest t ∧
        (∀ i e, e ∈ (g.node i).children → e ∈ (G.node i).children) ∧
        (∀ pre' n, G.Descends c pre' n → pre' <+: rest → (G.node n).driver.paths = style) ∧
        ∀ (rule : Rule) (fuel : Nat), pre ++ rest = style.segments rule.path →
          rest.length < fuel → (setFrom fuel c rule).exec g = (update t rule.processors).exec G
  | [], g, c, pre, _, _, hLevel, _, hPaths, _ => by
    refine ⟨g, c, .refl, .here c, fun _ _ he => he, fun pre' n hn hPre => ?_,
      fun rule fuel hSegs hFuel => ?_⟩
    · obtain rfl := List.prefix_nil.mp hPre
      cases hn
      exact hPaths
    · exact setFrom_exec_at_end hPaths hLevel hSegs (by simpa using hFuel)
  | x :: rest, g, c, pre, hs, hc, hLevel, hStyle, hPaths, hNames => by
    obtain ⟨c', hGrow⟩ : ∃ c', ((grow c x).exec g).1 = .ok c' := grow_ok g c x
    have hGrowEq : (grow c x).exec g = (.ok c', ((grow c x).exec g).2) := Prod.ext hGrow rfl
    obtain ⟨hChanges, hc'⟩ := grow_changes hs hc (hNames x List.mem_cons_self) hGrowEq
    obtain ⟨hMem, hKept, hStyle', hPaths', hLevel'⟩ := grow_step hs hc hStyle hGrowEq
    have hLevelx : (((grow c x).exec g).2.node c').level = (pre ++ [x]).length := by
      rw [hLevel', hLevel, List.length_append, List.length_singleton]
    obtain ⟨G, t, hChangesG, hChain, hKeptG, hStyledG, hSet⟩ :=
      setFrom_exec_chain (hChanges.sound hs) hc' hLevelx hStyle' (hPaths'.trans hPaths)
        fun y hy => hNames y (List.mem_cons_of_mem x hy)
    have hAll : Changes g G := hChanges.trans hChangesG
    have hMemG := hKeptG c (x, c') hMem
    refine ⟨G, t, hAll, .down hMemG hChain, fun i e he => hKeptG i e (hKept i e he),
      fun pre' n hn hPre => ?_, fun rule fuel hSegs hFuel => ?_⟩
    · cases pre' with
      | nil =>
        cases hn
        exact ((hAll.keeps.origin hc).driver ▸ hPaths : _)
      | cons y pre'' =>
        obtain ⟨rfl, hPre'⟩ := List.cons_prefix_cons.mp hPre
        cases hn with
        | down hMemY hn' =>
          have hs' : Sound G := hAll.sound hs
          have hSame := (Node.child?_eq_some_of_mem (hs'.keys_nodup c) hMemY).symm.trans
            (Node.child?_eq_some_of_mem (hs'.keys_nodup c) hMemG)
          cases Option.some.inj hSame
          exact hStyledG pre'' n hn' hPre'
    · rw [setFrom_exec_step hPaths hLevel hSegs hFuel hGrowEq]
      exact hSet rule (fuel - 1) (by simpa using hSegs) (by simp at hFuel; omega)

/-- An update keeps every node's path style and children: a chain standing before it still
stands after it, and a set along it updates the same node again. -/
theorem setFrom_exec_after_update (hs : Sound g) (hc : c < g.nodes.size) {t : NodeId}
    {rest pre : List String} {fuel : Nat} (hChain : g.Descends c rest t)
    (hLevel : (g.node c).level = pre.length)
    (hStyled : ∀ pre' n, g.Descends c pre' n → pre' <+: rest →
      (g.node n).driver.paths = style)
    (hSegs : pre ++ rest = style.segments rule.path) (hFuel : rest.length < fuel)
    {ps : List Processor} {res : Except (Failure TreeError) Unit} {g₁ : Grove}
    (h₁ : (update t ps).exec g = (res, g₁)) :
    (setFrom fuel c rule).exec g₁ = (update t rule.processors).exec g₁ := by
  have hShape := update_keeps_shape h₁
  have hs₁ : Sound g₁ := (update_changes (hChain.lt hs hc) h₁).sound hs
  refine setFrom_exec_of_descends hs₁ (hChain.of_children fun i => (hShape i).2)
    ((hShape c).1.level.trans hLevel) (fun pre' n hn hPre => ?_) hSegs hFuel
  rw [(hShape n).1.driver]
  exact hStyled pre' n (hn.of_children fun i => ((hShape i).2).symm) hPre

end Walk

end Tree

section Overwrite

variable {g₀ g₁ g : Grove} {d : Driver} {root : NodeId}

/-- On a built tree, after any session, whose nodes along the way all read paths as the root
does: setting two rules whose paths have the same segments, one after the other, ends as setting
the second alone whenever the second succeeds. It succeeds alone as well, the grove holds the
same nodes, and every lookup from the root answers alike. -/
theorem set_twice_keeps_last {m : Mode} {name : String} {t : Bytes} {rules : List Rule}
    (hReach : Reachable g₀) (hBuild : (Tree.build d m name t rules).exec g₀ = (.ok root, g₁))
    (hRun : Relation.ReflTransGen Step g₁ g) (hStyle : g.OneStyle root) {r₁ r₂ : Rule}
    (hSegs : d.paths.segments r₁.path = d.paths.segments r₂.path)
    (hOk : ((Tree.setRule root r₂).exec ((Tree.setRule root r₁).exec g).2).1 = .ok ()) :
    ((Tree.setRule root r₂).exec g).1 = .ok () ∧
      ((Tree.setRule root r₂).exec ((Tree.setRule root r₁).exec g).2).2.nodes =
        ((Tree.setRule root r₂).exec g).2.nodes ∧
      ∀ q, ((Tree.getDoc root q).exec
          ((Tree.setRule root r₂).exec ((Tree.setRule root r₁).exec g).2).2).1 =
        ((Tree.getDoc root q).exec ((Tree.setRule root r₂).exec g).2).1 := by
  obtain ⟨hs, hr, hOrigin⟩ := session_root hReach hBuild hRun
  have hLevel : (g.node root).level = ([] : List String).length := hOrigin.level
  have hPaths : (g.node root).driver.paths = d.paths := by rw [hOrigin.driver]; rfl
  obtain ⟨G, tgt, hChanges, hChain, -, hStyled, hSet⟩ :=
    Tree.setFrom_exec_chain hs hr hLevel hStyle hPaths
      fun x (hx : x ∈ d.paths.segments r₂.path) => PathStyle.ne_empty_of_mem_segments hx
  have hSetG : ∀ r : Rule, d.paths.segments r.path = d.paths.segments r₂.path →
      (Tree.setRule root r).exec g = (Tree.update tgt r.processors).exec G := by
    intro r hr'
    have hSegs' : [] ++ d.paths.segments r₂.path = d.paths.segments r.path := by
      rw [List.nil_append, hr']
    have hDeep := Tree.level_le_deepestLevel hr r.path
    rw [hPaths, Tree.level_of_append hSegs'] at hDeep
    rw [Tree.setRule_exec]
    exact hSet r _ hSegs' (by simpa using hDeep)
  have hsG : Sound G := hChanges.sound hs
  have hrG : root < G.nodes.size := Nat.lt_of_lt_of_le hr hChanges.keeps.size_le
  have htgt : tgt < G.nodes.size := hChain.lt hsG hrG
  obtain ⟨res₁, G₁, h₁⟩ : ∃ r g', (Tree.update tgt r₁.processors).exec G = (r, g') :=
    ⟨_, _, rfl⟩
  have hOriginG := hChanges.keeps.origin hr
  have hOrigin₁ := hOriginG.trans (Tree.update_keeps_shape h₁ root).1
  have hSegs₂ : [] ++ d.paths.segments r₂.path = d.paths.segments r₂.path := List.nil_append _
  have hA : (Tree.setRule root r₂).exec ((Tree.setRule root r₁).exec g).2 =
      (Tree.update tgt r₂.processors).exec G₁ := by
    have hDeep := Tree.level_le_deepestLevel
      (Nat.lt_of_lt_of_le hrG (Tree.update_changes htgt h₁).keeps.size_le) r₂.path
    rw [hOrigin₁.driver, hPaths, Tree.level_of_append hSegs₂] at hDeep
    rw [hSetG r₁ hSegs, h₁, Tree.setRule_exec]
    exact Tree.setFrom_exec_after_update hsG hrG hChain (hOriginG.level.trans hLevel) hStyled
      hSegs₂ (by simpa using hDeep) h₁
  rw [hA] at hOk ⊢
  rw [hSetG r₂ rfl]
  exact Tree.update_twice_answers hsG hrG htgt h₁ hOk

theorem set_twice_keeps_last_json :
    let g := ((Tree.build Driver.json .eager "conf" [] [Rule.empty "/a"]).exec Grove.empty).2
    let r₁ := Rule.empty "/a/b"
    let r₂ := Rule.empty "a//b/"
    Reachable Grove.empty ∧
      (Tree.build Driver.json .eager "conf" [] [Rule.empty "/a"]).exec Grove.empty = (.ok 0, g) ∧
      Relation.ReflTransGen Step g g ∧ g.OneStyle 0 ∧
      Driver.json.paths.segments r₁.path = Driver.json.paths.segments r₂.path ∧
      ((Tree.setRule 0 r₂).exec ((Tree.setRule 0 r₁).exec g).2).1 = .ok () ∧
      ((Tree.setRule 0 r₂).exec g).1 = .ok () ∧
      ((Tree.setRule 0 r₂).exec ((Tree.setRule 0 r₁).exec g).2).2.nodes =
        ((Tree.setRule 0 r₂).exec g).2.nodes ∧
      ∀ q, ((Tree.getDoc 0 q).exec
          ((Tree.setRule 0 r₂).exec ((Tree.setRule 0 r₁).exec g).2).2).1 =
        ((Tree.getDoc 0 q).exec ((Tree.setRule 0 r₂).exec g).2).1 := by
  intro g r₁ r₂
  have hBuild : (Tree.build Driver.json .eager "conf" [] [Rule.empty "/a"]).exec Grove.empty =
      (.ok 0, g) := Prod.ext (by cbv) rfl
  obtain ⟨-, place, hf, -⟩ := Grove.Fresh.of_build hBuild
  have hSegs : Driver.json.paths.segments r₁.path = Driver.json.paths.segments r₂.path := by
    simp only [r₁, r₂]
    cbv
  have hOk : ((Tree.setRule 0 r₂).exec ((Tree.setRule 0 r₁).exec g).2).1 = .ok () := by
    simp only [g, r₁, r₂]
    cbv
  exact ⟨.refl, hBuild, .refl, hf.oneStyle, hSegs, hOk,
    set_twice_keeps_last .refl hBuild .refl hf.oneStyle hSegs hOk⟩

/-- A tree with the delimiter `bab` has a node at `ab, a` of path `bababa`; its child `ba`
would have path `bababababba`, the path of the node at `ab, ab, ba` of a tree with the delimiter
`babab`, which a graft therefore hangs there. For the root, the paths
`babbababbabbabababbababbab` and `abbabababbababbab` both have segments `ab, a, ba`; the grafted
node reads them on as four names and as three: the first set grows a child under it, which
setting the second alone does not. -/
theorem set_twice_grows_under_graft :
    let host := Driver.json.withPaths ⟨"bab"⟩
    let donor := Driver.json.withPaths ⟨"babab"⟩
    let r₁ := Rule.empty "babbababbabbabababbababbab"
    let r₂ := Rule.empty "abbabababbababbab"
    let g₁ := ((Tree.build host .eager "tree" [] [Rule.empty "abbaba"]).exec Grove.empty).2
    let g₂ := ((Tree.build donor .eager "tree" [] [Rule.empty "abbabababbababba"]).exec g₁).2
    let g := ((Tree.graft 2 6).exec g₂).2
    Reachable g ∧ Tree.node? g₂ 0 "abbaba" = some 2 ∧
      Tree.node? g₂ 3 "abbabababbababba" = some 6 ∧
      ((Tree.graft 2 6).exec g₂).1 = .ok none ∧
      host.paths.segments r₁.path = host.paths.segments r₂.path ∧
      ((Tree.setRule 0 r₂).exec ((Tree.setRule 0 r₁).exec g).2).1 = .ok () ∧
      ((Tree.setRule 0 r₂).exec g).1 = .ok () ∧
      Tree.has ((Tree.setRule 0 r₂).exec ((Tree.setRule 0 r₁).exec g).2).2 0 r₁.path =
        true ∧
      Tree.has ((Tree.setRule 0 r₂).exec g).2 0 r₁.path = false := by
  intro host donor r₁ r₂ g₁ g₂ g
  have hReach : Reachable g :=
    .tail (.tail (.single (.build _ _ _ _ _ _)) (.build _ _ _ _ _ _))
      (.graft (by decide +kernel) (by decide +kernel))
  have hGraft : ((Tree.graft 2 6).exec g₂).1 = .ok none := by
    simp only [g₂, g₁, host, donor]
    cbv
  have hSegs : host.paths.segments r₁.path = host.paths.segments r₂.path := by
    simp only [host, r₁, r₂]
    cbv
  have hOkA : ((Tree.setRule 0 r₂).exec ((Tree.setRule 0 r₁).exec g).2).1 = .ok () := by
    simp only [g, g₂, g₁, host, donor, r₁, r₂]
    cbv
  have hOkB : ((Tree.setRule 0 r₂).exec g).1 = .ok () := by
    simp only [g, g₂, g₁, host, donor, r₂]
    cbv
  exact ⟨hReach, by decide +kernel, by decide +kernel, hGraft, hSegs, hOkA, hOkB,
    by decide +kernel, by decide +kernel⟩

end Overwrite

end RuleOverlay
