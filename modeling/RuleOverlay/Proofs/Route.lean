import RuleOverlay.Proofs.Session
/-! # Routes of a path

A walk for a path goes from a node to the child named by the path's next segment, each node
reading the path with its own driver, and stops at the first node that has no such child
(`Grove.Route`). In a sound grove every child sits one level below its parent, so a walk never
visits a node twice and the number of nodes bounds it: the walk a lookup makes within that many
nodes (`Grove.trailFrom`) is the whole route.

Along a route of nodes that run their processors on every visit, a lookup threads the document it
starts from through each node's processors in turn (`Grove.realizeAlong`); along a route of nodes
that never run them on a visit, it answers the document of the last node and changes nothing.
-/
namespace RuleOverlay

open Grow

namespace Grove

variable {g : Grove} {path : String}

/-- The nodes a walk for a path visits from a node, in order, up to the first node that hands
the path on to no child. -/
inductive Route (g : Grove) (path : String) : NodeId → List NodeId → Prop
  | last {id : NodeId} : g.next path id = none → Route g path id [id]
  | step {id c : NodeId} {ids : List NodeId} :
      g.next path id = some c → Route g path c ids → Route g path id (id :: ids)

def trailFrom (g : Grove) (path : String) : Nat → NodeId → List NodeId
  | 0, _ => []
  | fuel + 1, id => id :: match g.next path id with
    | some c => g.trailFrom path fuel c
    | none => []

/-- Threads a document through the processors of nodes in order, as a walk realizes them; the
first failure stops it, naming the node. -/
def realizeAlong (g : Grove) (doc : Bytes) : List NodeId → Except (Failure TreeError) Bytes
  | [] => .ok doc
  | id :: ids =>
    realizeAt (g.node id).path doc (g.node id).processors >>= fun next => g.realizeAlong next ids

@[simp] theorem realizeAlong_nil (doc : Bytes) : g.realizeAlong doc [] = .ok doc := rfl

theorem realizeAlong_cons_of_ok {doc c : Bytes} {id : NodeId} {ids : List NodeId}
    (h : realizeAt (g.node id).path doc (g.node id).processors = .ok c) :
    g.realizeAlong doc (id :: ids) = g.realizeAlong c ids := by
  rw [realizeAlong, h]
  rfl

theorem realizeAlong_cons_of_error {doc : Bytes} {e : Failure TreeError} {id : NodeId}
    {ids : List NodeId} (h : realizeAt (g.node id).path doc (g.node id).processors = .error e) :
    g.realizeAlong doc (id :: ids) = .error e := by
  rw [realizeAlong, h]
  rfl

theorem Route.deterministic {id : NodeId} {ids ids' : List NodeId} (h : g.Route path id ids)
    (h' : g.Route path id ids') : ids = ids' := by
  induction h generalizing ids' with
  | last hNone =>
    cases h' with
    | last _ => rfl
    | step hSome _ => rw [hNone] at hSome; cases hSome
  | step hSome _ ih =>
    cases h' with
    | last hNone => rw [hNone] at hSome; cases hSome
    | step hSome' hRest =>
      rw [hSome] at hSome'
      cases hSome'
      rw [ih hRest]

theorem Route.eq_cons {id : NodeId} {ids : List NodeId} (h : g.Route path id ids) :
    ∃ rest, ids = id :: rest := by
  cases h <;> exact ⟨_, rfl⟩

theorem Route.getLastD_mem {id : NodeId} {ids : List NodeId} (h : g.Route path id ids) :
    ids.getLastD id ∈ ids := by
  obtain ⟨rest, rfl⟩ := h.eq_cons
  rw [List.getLastD_cons]
  exact List.getLastD_mem_cons

theorem Route.next_ne_none {id : NodeId} {ids : List NodeId} (h : g.Route path id ids) :
    ∀ y ∈ ids, y ≠ ids.getLastD id → g.next path y ≠ none := by
  induction h with
  | last _ => intro y hy hNe; exact absurd (List.mem_singleton.mp hy) hNe
  | @step id c ids hSome hRest ih =>
    intro y hy hNe
    obtain ⟨rest, rfl⟩ := hRest.eq_cons
    have hLast : (id :: c :: rest).getLastD id = (c :: rest).getLastD c := by
      simp only [List.getLastD_cons]
    rcases List.mem_cons.mp hy with rfl | hy
    · rw [hSome]; exact Option.some_ne_none c
    · exact ih y hy (hLast ▸ hNe)

theorem Route.congr {g' : Grove} {id : NodeId} {ids : List NodeId} (h : g.Route path id ids)
    (hNext : ∀ y ∈ ids, g'.next path y = g.next path y) : g'.Route path id ids := by
  induction h with
  | last hNone => exact .last ((hNext _ List.mem_cons_self).trans hNone)
  | step hSome _ ih =>
    exact .step ((hNext _ List.mem_cons_self).trans hSome)
      (ih fun y hy => hNext y (List.mem_cons_of_mem _ hy))

theorem Sound.next_lt (hs : Sound g) {id c : NodeId} (h : g.next path id = some c) :
    c < g.nodes.size :=
  hs.child_lt (Node.mem_of_child? h)

theorem Sound.next_hangs (hs : Sound g) {id c : NodeId} (h : g.next path id = some c) :
    ∃ name, (g.node id).Hangs (g.node c) name :=
  ⟨_, hs.hangs (Node.mem_of_child? h)⟩

theorem Route.lt (hs : Sound g) {id : NodeId} {ids : List NodeId} (hId : id < g.nodes.size)
    (h : g.Route path id ids) : ∀ x ∈ ids, x < g.nodes.size := by
  induction h with
  | last _ => intro x hx; rw [List.mem_singleton.mp hx]; exact hId
  | step hSome _ ih =>
    intro x hx
    rcases List.mem_cons.mp hx with rfl | hx
    · exact hId
    · exact ih (hs.next_lt hSome) x hx

theorem Route.mode_eq (hs : Sound g) {id : NodeId} {ids : List NodeId} (h : g.Route path id ids) :
    ∀ x ∈ ids, (g.node x).mode = (g.node id).mode := by
  induction h with
  | last _ => intro x hx; rw [List.mem_singleton.mp hx]
  | step hSome _ ih =>
    intro x hx
    rcases List.mem_cons.mp hx with rfl | hx
    · rfl
    · obtain ⟨_, hHangs⟩ := hs.next_hangs hSome
      rw [ih x hx, hHangs.mode]

theorem trailFrom_levels (hs : Sound g) :
    ∀ (fuel : Nat) {id : NodeId}, id < g.nodes.size →
      (g.trailFrom path fuel id).map (fun x => (g.node x).level) =
        List.range' (g.node id).level (g.trailFrom path fuel id).length ∧
      ∀ x ∈ g.trailFrom path fuel id, x < g.nodes.size
  | 0, _, _ => by simp [trailFrom]
  | fuel + 1, id, hId => by
    simp only [trailFrom]
    split
    · rename_i c hc
      obtain ⟨hLevels, hLt⟩ := trailFrom_levels hs fuel (hs.next_lt hc)
      obtain ⟨_, hHangs⟩ := hs.next_hangs hc
      refine ⟨?_, ?_⟩
      · rw [List.map_cons, hLevels, hHangs.level, List.length_cons, List.range'_succ]
      · intro x hx
        rcases List.mem_cons.mp hx with rfl | hx
        · exact hId
        · exact hLt x hx
    · refine ⟨by simp, ?_⟩
      intro x hx
      rw [List.mem_singleton.mp hx]
      exact hId

theorem trailFrom_nodup (hs : Sound g) (fuel : Nat) {id : NodeId} (hId : id < g.nodes.size) :
    (g.trailFrom path fuel id).Nodup := by
  have hLevels : (g.trailFrom path fuel id).map (fun x => (g.node x).level) =
      List.range' (g.node id).level (g.trailFrom path fuel id).length :=
    (trailFrom_levels hs fuel hId).1
  exact List.Nodup.of_map _ (hLevels ▸ List.nodup_range')

theorem trailFrom_length_le (hs : Sound g) (fuel : Nat) {id : NodeId} (hId : id < g.nodes.size) :
    (g.trailFrom path fuel id).length ≤ g.nodes.size := by
  have hSub : g.trailFrom path fuel id ⊆ List.range g.nodes.size := fun x hx =>
    List.mem_range.mpr ((trailFrom_levels hs fuel hId).2 x hx)
  simpa using (List.subperm_of_subset (trailFrom_nodup hs fuel hId) hSub).length_le

theorem route_or_length_trailFrom (hs : Sound g) :
    ∀ (fuel : Nat) {id : NodeId}, id < g.nodes.size →
      g.Route path id (g.trailFrom path fuel id) ∨ (g.trailFrom path fuel id).length = fuel
  | 0, _, _ => .inr rfl
  | fuel + 1, id, hId => by
    simp only [trailFrom]
    split
    · rename_i c hc
      rcases route_or_length_trailFrom hs fuel (hs.next_lt hc) with hRoute | hLength
      · exact .inl (.step hc hRoute)
      · exact .inr (by rw [List.length_cons, hLength])
    · exact .inl (.last ‹_›)

theorem route_trailFrom (hs : Sound g) {id : NodeId} (hId : id < g.nodes.size) :
    g.Route path id (g.trailFrom path (g.nodes.size + 1) id) := by
  rcases route_or_length_trailFrom hs (g.nodes.size + 1) hId with hRoute | hLength
  · exact hRoute
  · have hLe : (g.trailFrom path (g.nodes.size + 1) id).length ≤ g.nodes.size :=
      trailFrom_length_le hs _ hId
    omega

theorem Route.exists (hs : Sound g) {id : NodeId} (hId : id < g.nodes.size) :
    ∃ ids, g.Route path id ids :=
  ⟨_, route_trailFrom hs hId⟩

theorem Route.eq_trailFrom (hs : Sound g) {id : NodeId} {ids : List NodeId}
    (hId : id < g.nodes.size) (h : g.Route path id ids) :
    ids = g.trailFrom path (g.nodes.size + 1) id :=
  h.deterministic (route_trailFrom hs hId)

theorem trailFrom_succ_of_next_none {fuel : Nat} {id : NodeId} (h : g.next path id = none) :
    g.trailFrom path (fuel + 1) id = [id] := by
  simp [trailFrom, h]

theorem trailFrom_succ_of_next_some {fuel : Nat} {id c : NodeId} (h : g.next path id = some c) :
    g.trailFrom path (fuel + 1) id = id :: g.trailFrom path fuel c := by
  simp [trailFrom, h]

theorem trailFrom_congr {g₁ g₂ : Grove} (h : ∀ x, g₁.next path x = g₂.next path x) :
    ∀ (fuel : Nat) (x : NodeId), g₁.trailFrom path fuel x = g₂.trailFrom path fuel x
  | 0, _ => rfl
  | fuel + 1, x => by simp only [trailFrom, h x, trailFrom_congr h fuel]

theorem realizeAlong_congr {g₁ g₂ : Grove} :
    ∀ {ids : List NodeId}, (∀ x ∈ ids, g₁.node x = g₂.node x) →
      ∀ doc, g₁.realizeAlong doc ids = g₂.realizeAlong doc ids
  | [], _, _ => rfl
  | x :: ids, h, doc => by
    simp only [realizeAlong, h x List.mem_cons_self,
      realizeAlong_congr (fun y hy => h y (List.mem_cons_of_mem x hy))]

theorem next_congr_node {g' : Grove} {x : NodeId} (h : g'.node x = g.node x) :
    g'.next path x = g.next path x := by
  unfold next
  rw [h]

theorem next_add {n : Node} {x : NodeId} (hx : x < g.nodes.size) :
    (g.add n).1.next path x = g.next path x :=
  next_congr_node (node_add_of_lt hx)

theorem next_hang_of_ne {p c : NodeId} {name : String} (hp : p < g.nodes.size)
    (hName : (g.node p).driver.paths.nameAt path ((g.node p).level + 1) ≠ name) (x : NodeId) :
    (g.modifyNode p (·.withChild name c)).next path x = g.next path x := by
  by_cases hx : x = p
  · subst hx
    unfold next
    rw [node_modifyNode_self hp]
    exact Node.child?_withChild_of_ne hName
  · exact next_congr_node (node_modifyNode_of_ne hx)

theorem next_modifyNode {id : NodeId} {f : Node → Node}
    (hf : ∀ n : Node, (f n).children = n.children ∧ (f n).driver = n.driver ∧ (f n).level = n.level)
    (x : NodeId) : (g.modifyNode id f).next path x = g.next path x := by
  by_cases hId : id < g.nodes.size
  · unfold next
    rw [node_modifyNode hId]
    split
    · obtain ⟨hKids, hDriver, hLevel⟩ := hf (g.node x)
      simp only [Node.child?, hKids, hDriver, hLevel]
    · rfl
  · rw [modifyNode_of_size_le (Nat.not_lt.mp hId)]

end Grove

namespace Tree

open Grove

variable {g : Grove} {path : String}

theorem visit_exec_none (id : NodeId) :
    (visit id none).exec g = (visit id (some (g.node id).baseline)).exec g := by
  cases hRe : (g.node id).recomputes
  · rw [visit_exec_of_settled none hRe, visit_exec_of_settled _ hRe]
  · rw [visit_exec_of_recomputes none hRe, visit_exec_of_recomputes _ hRe]
    rfl

theorem lookupFrom_exec_none (fuel : Nat) (id : NodeId) :
    (lookupFrom (fuel + 1) id path none).exec g =
      (lookupFrom (fuel + 1) id path (some (g.node id).baseline)).exec g := by
  rw [lookupFrom_succ_exec, lookupFrom_succ_exec, visit_exec_none]

/-- Along a walk of nodes that run their processors on every visit, a lookup threads the document
it is handed through each node in turn. The walk visits each node once, so realizing one node
leaves the rest of the walk as it found it. -/
theorem lookupFrom_exec_of_recomputes :
    ∀ (fuel : Nat) {g : Grove} {id : NodeId} (doc : Bytes), (g.trailFrom path fuel id).Nodup →
      (∀ x ∈ g.trailFrom path fuel id, (g.node x).recomputes = true) →
      ((lookupFrom fuel id path (some doc)).exec g).1 =
        g.realizeAlong doc (g.trailFrom path fuel id)
  | 0, _, _, _, _, _ => rfl
  | fuel + 1, g, id, doc, hNodup, hRe => by
    rw [lookupFrom_succ_exec, visit_exec_of_recomputes _ (hRe id (by simp [trailFrom]))]
    dsimp only [Option.getD_some]
    cases hReal : realizeAt (g.node id).path doc (g.node id).processors with
    | error e => rw [trailFrom, realizeAlong_cons_of_error hReal]
    | ok c =>
      dsimp only
      generalize hVisited : (g.note (realize doc (g.node id).processors).ran).modifyNode id
        (fun n => { n with content := c, realized := true }) = g'
      have hNext : ∀ x, g'.next path x = g.next path x := fun x => by
        rw [← hVisited, next_modifyNode, next_note]
        exact fun _ => ⟨rfl, rfl, rfl⟩
      rw [hNext]
      cases hN : g.next path id with
      | none => rw [trailFrom_succ_of_next_none hN, realizeAlong_cons_of_ok hReal]; rfl
      | some c' =>
        dsimp only
        rw [trailFrom_succ_of_next_some hN] at hNodup hRe ⊢
        rw [realizeAlong_cons_of_ok hReal]
        obtain ⟨hFresh, hNodup⟩ := List.nodup_cons.mp hNodup
        have hKept : ∀ x ∈ g.trailFrom path fuel c', g'.node x = g.node x := fun x hx => by
          rw [← hVisited, node_modifyNode_of_ne (ne_of_mem_of_not_mem hx hFresh), node_note]
        have hTrail := trailFrom_congr hNext fuel c'
        have hNodup' : (g'.trailFrom path fuel c').Nodup := by rw [hTrail]; exact hNodup
        have hRe' : ∀ x ∈ g'.trailFrom path fuel c', (g'.node x).recomputes = true := by
          rw [hTrail]
          intro x hx
          rw [hKept x hx]
          exact hRe x (List.mem_cons_of_mem id hx)
        rw [lookupFrom_exec_of_recomputes fuel c hNodup' hRe', hTrail, realizeAlong_congr hKept]

/-- Along a walk of nodes that never run their processors on a visit, a lookup answers the
document of the node where the walk ends and changes nothing. -/
theorem lookupFrom_exec_of_settled :
    ∀ (fuel : Nat) {id : NodeId} (inherited : Option Bytes),
      (∀ x ∈ g.trailFrom path (fuel + 1) id, (g.node x).recomputes = false) →
      (lookupFrom (fuel + 1) id path inherited).exec g =
        (.ok (g.node ((g.trailFrom path (fuel + 1) id).getLastD id)).content, g)
  | fuel, id, inherited, hSettled => by
    rw [lookupFrom_succ_exec, visit_exec_of_settled _ (hSettled id (by simp [trailFrom]))]
    dsimp only
    cases hN : g.next path id with
    | none => rw [trailFrom_succ_of_next_none hN]; rfl
    | some c =>
      dsimp only
      rw [trailFrom_succ_of_next_some hN] at hSettled ⊢
      cases fuel with
      | zero => rfl
      | succ fuel =>
        rw [lookupFrom_exec_of_settled fuel _ (fun x hx => hSettled x (List.mem_cons_of_mem id hx)),
          List.getLastD_cons, trailFrom, List.getLastD_cons, List.getLastD_cons]

/-- A lookup along a route of nodes that run their processors on every visit realizes the
route from the baseline of its first node. -/
theorem getDoc_exec_of_recomputes (hs : Sound g) {id : NodeId} {ids : List NodeId}
    (hId : id < g.nodes.size) (hRoute : g.Route path id ids)
    (hRe : ∀ x ∈ ids, (g.node x).recomputes = true) :
    ((getDoc id path).exec g).1 = g.realizeAlong (g.node id).baseline ids := by
  rw [hRoute.eq_trailFrom hs hId] at hRe ⊢
  rw [getDoc_exec, lookupFrom_exec_none,
    lookupFrom_exec_of_recomputes _ _ (trailFrom_nodup hs _ hId) hRe]

/-- A lookup along a route of nodes that never run their processors on a visit answers the
document of the route's last node and changes nothing. -/
theorem getDoc_exec_of_settled (hs : Sound g) {id : NodeId} {ids : List NodeId}
    (hId : id < g.nodes.size) (hRoute : g.Route path id ids)
    (hSettled : ∀ x ∈ ids, (g.node x).recomputes = false) :
    (getDoc id path).exec g = (.ok (g.node (ids.getLastD id)).content, g) := by
  rw [hRoute.eq_trailFrom hs hId] at hSettled ⊢
  rw [getDoc_exec, lookupFrom_exec_of_settled _ _ hSettled]

theorem update_frame {x : NodeId} {ps : List Processor} {r : Except (Failure TreeError) Unit}
    {g' : Grove} (h : (update x ps).exec g = (r, g')) :
    (∀ y, g'.next path y = g.next path y) ∧ ∀ y, y ≠ x → g'.node y = g.node y := by
  rw [update_exec] at h
  split at h
  · cases h
    refine ⟨fun y => ?_, fun y hy => node_modifyNode_of_ne hy⟩
    rw [next_modifyNode]
    exact fun _ => ⟨rfl, rfl, rfl⟩
  · split at h <;> cases h
    · refine ⟨fun y => ?_, fun y hy => by rw [node_modifyNode_of_ne hy, node_note]⟩
      rw [next_modifyNode, next_note]
      exact fun _ => ⟨rfl, rfl, rfl⟩
    · exact ⟨fun y => next_note _ _, fun y _ => node_note _⟩

/-- A set whose walk keeps away from the end of a route keeps the route and the document at
its end. The walk follows existing children as the route of the rule's path does; where it
makes a child, the node it makes it under has no child of that name, so a route that goes on
from there takes another. -/
theorem setFrom_frame {q : String} {d : NodeId} {ids : List NodeId} {rule : Rule} :
    ∀ {fuel : Nat} {g g' : Grove} {x : NodeId} {r : Except (Failure TreeError) Unit},
      Sound g → x < g.nodes.size → d < g.nodes.size → (∀ y ∈ ids, y < g.nodes.size) →
      (∀ y ∈ ids, y ≠ d → g.next q y ≠ none) →
      (∃ w, g.Route rule.path x w ∧ d ∉ w) →
      (setFrom fuel x rule).exec g = (r, g') →
      (∀ y ∈ ids, g'.next q y = g.next q y) ∧ (g'.node d).content = (g.node d).content
  | 0, _, _, _, _, _, _, _, _, _, _, h => by cases h; exact ⟨fun _ _ => rfl, rfl⟩
  | fuel + 1, g, g', x, r, hs, hx, hd, hIds, hOpen, ⟨w, hw, hAvoid⟩, h => by
    have hdx : d ≠ x := by
      obtain ⟨rest, rfl⟩ := hw.eq_cons
      exact fun hEq => hAvoid (hEq ▸ List.mem_cons_self)
    rw [setFrom_succ_exec] at h
    split at h
    · obtain ⟨hNext, hNode⟩ := update_frame h
      exact ⟨fun y _ => hNext y, by rw [hNode d hdx]⟩
    split at h
    · cases h; exact ⟨fun _ _ => rfl, rfl⟩
    rename_i hNe hNotLt
    have hName : (g.node x).driver.paths.nameAt rule.path ((g.node x).level + 1) ≠ "" :=
      PathStyle.nameAt_ne_empty (Nat.succ_pos _) (by omega)
    rcases hGrow : (grow x ((g.node x).driver.paths.nameAt rule.path
        ((g.node x).level + 1))).exec g with ⟨_ | c, g₁⟩
    · rw [grow_exec] at hGrow
      split at hGrow <;> cases hGrow
    rw [hGrow] at h
    obtain ⟨hChanges, hc₁⟩ := grow_changes hs hx hName hGrow
    rw [grow_exec] at hGrow
    split at hGrow
    · rename_i c' hc
      cases hGrow
      cases hw with
      | last hNone => cases hNone.symm.trans hc
      | step hSome hRest =>
        rw [show g.next rule.path x = some c from hc] at hSome
        cases hSome
        exact setFrom_frame hs (hs.next_lt hc) hd hIds hOpen
          ⟨_, hRest, fun hMem => hAvoid (List.mem_cons_of_mem x hMem)⟩ h
    · rename_i hc
      obtain ⟨hNew, hg₁⟩ := Prod.mk.inj hGrow
      cases Except.ok.inj hNew
      have hKeep : ∀ y ∈ ids, g₁.next q y = g.next q y := by
        intro y hy
        rw [← hg₁]
        by_cases hyx : y = x
        · subst hyx
          have hqName : (g.node y).driver.paths.nameAt q ((g.node y).level + 1) ≠
              (g.node y).driver.paths.nameAt rule.path ((g.node y).level + 1) := by
            intro hEq
            exact hOpen y hy (Ne.symm hdx) (by unfold next; rw [hEq]; exact hc)
          rw [next_hang_of_ne (by simpa using Nat.lt_succ_of_lt hx) (by rwa [node_add_of_lt hx]),
            next_add hx]
        · rw [next_congr_node (node_modifyNode_of_ne hyx), next_add (hIds y hy)]
      have hFresh : g₁.next rule.path g.nodes.size = none := by
        rw [← hg₁]
        unfold next
        rw [node_modifyNode_of_ne (Nat.ne_of_gt hx), node_add_size]
        rfl
      have hSize : g.nodes.size ≤ g₁.nodes.size := hChanges.keeps.size_le
      obtain ⟨hNext₁, hContent₁⟩ := setFrom_frame (hChanges.sound hs) hc₁
        (Nat.lt_of_lt_of_le hd hSize) (fun y hy => Nat.lt_of_lt_of_le (hIds y hy) hSize)
        (fun y hy hyd => by rw [hKeep y hy]; exact hOpen y hy hyd)
        ⟨[g.nodes.size], .last hFresh, by simpa using Nat.ne_of_lt hd⟩ h
      refine ⟨fun y hy => (hNext₁ y hy).trans (hKeep y hy), ?_⟩
      rw [hContent₁, ← hg₁, node_modifyNode_of_ne hdx, node_add_of_lt hd]

theorem setRule_frame {q : String} {d h : NodeId} {ids w : List NodeId} {rule : Rule}
    {r : Except (Failure TreeError) Unit} {g' : Grove} (hs : Sound g) (hh : h < g.nodes.size)
    (hd : d < g.nodes.size) (hIds : ∀ y ∈ ids, y < g.nodes.size)
    (hOpen : ∀ y ∈ ids, y ≠ d → g.next q y ≠ none) (hw : g.Route rule.path h w) (hAvoid : d ∉ w)
    (hSet : (setRule h rule).exec g = (r, g')) :
    (∀ y ∈ ids, g'.next q y = g.next q y) ∧ (g'.node d).content = (g.node d).content := by
  rw [setRule_exec] at hSet
  exact setFrom_frame hs hh hd hIds hOpen ⟨w, hw, hAvoid⟩ hSet

end Tree

end RuleOverlay
