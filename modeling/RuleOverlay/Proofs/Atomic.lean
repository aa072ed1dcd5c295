import RuleOverlay.Proofs.Frames
import RuleOverlay.Proofs.Eager
import RuleOverlay.Proofs.Built
/-! # Calls that fail

`del` fails only on a path of the root's level, which it checks before looking at anything, and
`graft` fails only on its checks, before it hangs anything: either leaves the grove as it was.

`set` fails only when an eager node's realization fails at the end of its walk. By then the walk
has grown the nodes missing on the rule's path, and they stay. Each is sprouted from an eager
node with nothing bound and holds that node's document, so every node there before keeps its
documents and every lookup answers as it did; but the tree now has the new nodes.
-/
namespace RuleOverlay

open Grove

namespace Grove

variable {g g' : Grove} {q : String}

theorem Route.snoc {r c : NodeId} {ids : List NodeId} :
    g.Route q r ids → (∀ y ∈ ids.dropLast, g'.next q y = g.next q y) →
      g'.next q (ids.getLastD r) = some c → g'.next q c = none → g'.Route q r (ids ++ [c]) := by
  intro h
  induction h with
  | last _ => intro _ hLast hEnd; exact .step hLast (.last hEnd)
  | @step id c' rest hSome hRest ih =>
    intro hNext hLast hEnd
    obtain ⟨rest', rfl⟩ := hRest.eq_cons
    refine .step ((hNext id (by simp [List.dropLast_cons_cons])).trans hSome)
      (ih (fun y hy => hNext y ?_) ?_ hEnd)
    · rw [List.dropLast_cons_cons]
      exact List.mem_cons_of_mem id hy
    · simpa only [List.getLastD_cons] using hLast

theorem Route.getLastD_not_mem_dropLast (hs : Sound g) {r : NodeId} {ids : List NodeId}
    (hr : r < g.nodes.size) (h : g.Route q r ids) : ids.getLastD r ∉ ids.dropLast := by
  have hNodup : ids.Nodup := h.eq_trailFrom hs hr ▸ trailFrom_nodup hs _ hr
  obtain ⟨rest, rfl⟩ := h.eq_cons
  have hSplit := List.dropLast_append_getLast (List.cons_ne_nil r rest)
  rw [← hSplit] at hNodup
  rw [List.getLastD_eq_getLast?, List.getLast?_eq_some_getLast (List.cons_ne_nil r rest),
    Option.getD_some]
  exact fun hMem => (List.nodup_append.mp hNodup).2.2 _ hMem _ (List.mem_singleton_self _) rfl

end Grove

namespace Tree

variable {g g' : Grove} {e : Failure TreeError}

theorem delFrom_error {path : String} :
    ∀ {fuel : Nat} {g g' : Grove} {id : NodeId}, (delFrom fuel id path).exec g = (.error e, g') →
      g' = g
  | 0, _, _, _, h => by cases h
  | fuel + 1, g, g', id, h => by
    rw [delFrom_succ_exec] at h
    split at h
    · cases h; rfl
    · split at h
      · cases h
      · split at h
        · cases h
        · split at h
          · exact delFrom_error h
          · cases h

theorem del_error {id : NodeId} {path : String} (h : (del id path).exec g = (.error e, g')) :
    g' = g := by
  rw [del_exec] at h
  exact delFrom_error h

/-- Two sound groves answer a lookup alike when the nodes of its route hand the path on alike
and differ at most in their children. -/
theorem getDoc_result_congr (hs : Sound g) (hs' : Sound g') {r : NodeId} {q : String}
    {ids : List NodeId} (hr : r < g.nodes.size) (hr' : r < g'.nodes.size)
    (hRoute : g.Route q r ids) (hNext : ∀ y ∈ ids, g'.next q y = g.next q y)
    (hNodes : ∀ y ∈ ids, g'.node y = { g.node y with children := (g'.node y).children }) :
    ((getDoc r q).exec g').1 = ((getDoc r q).exec g).1 := by
  rw [getDoc_exec_eq_walk hs' hr' (hRoute.congr hNext), getDoc_exec_eq_walk hs hr hRoute,
    walk_congr_of_children hNodes]

/-- Hanging a new leaf, sprouted from an eager node, under a name the node has no child of
keeps every lookup's answer: a route that reaches the leaf now ended at its parent before, and
the leaf holds the parent's document. -/
theorem getDoc_sprout {id : NodeId} {name : String} (hs : Sound g) (hId : id < g.nodes.size)
    (hEager : (g.node id).mode = .eager) (hNone : g.child? id name = none) (hName : name ≠ "")
    {r : NodeId} (hr : r < g.nodes.size) (q : String) :
    ((getDoc r q).exec ((g.add ((g.node id).sprout name)).1.modifyNode id
      (·.withChild name g.nodes.size))).1 = ((getDoc r q).exec g).1 := by
  generalize hg₁ : (g.add ((g.node id).sprout name)).1.modifyNode id
    (·.withChild name g.nodes.size) = g₁
  have hGrow : (grow id name).exec g = (.ok g.nodes.size, g₁) := by
    rw [grow_exec, hNone, hg₁]
  obtain ⟨hChanges, -⟩ := grow_changes hs hId hName hGrow
  have hs₁ := hChanges.sound hs
  have hr₁ : r < g₁.nodes.size := Nat.lt_of_lt_of_le hr hChanges.keeps.size_le
  have hOld : ∀ y < g.nodes.size, y ≠ id → g₁.node y = g.node y := fun y hy hne => by
    rw [← hg₁, node_modifyNode_of_ne hne, node_add_of_lt hy]
  have hAtId : g₁.node id = (g.node id).withChild name g.nodes.size := by
    rw [← hg₁, node_modifyNode_self (by simpa using Nat.lt_succ_of_lt hId), node_add_of_lt hId]
  obtain ⟨ids, hRoute⟩ : ∃ ids, g.Route q r ids := Route.exists hs hr
  have hIds := hRoute.lt hs hr
  have hNodes : ∀ y ∈ ids, g₁.node y = { g.node y with children := (g₁.node y).children } := by
    intro y hy
    by_cases hy' : y = id
    · subst hy'
      rw [hAtId]
      rfl
    · rw [hOld y (hIds y hy) hy']
  by_cases hReach : id ∈ ids ∧ (g.node id).driver.paths.nameAt q ((g.node id).level + 1) = name
  · obtain ⟨hMem, hq⟩ := hReach
    have hNextNone : g.next q id = none := by
      rw [Grove.next, hq]
      exact hNone
    have hLast : ids.getLastD r = id :=
      Classical.byContradiction fun hne => hRoute.next_ne_none id hMem (Ne.symm hne) hNextNone
    have hrEager : (g.node r).mode = .eager := (hRoute.mode_eq hs id hMem).symm.trans hEager
    have hRoute₁ : g₁.Route q r (ids ++ [g.nodes.size]) := by
      refine hRoute.snoc (fun y hy => ?_) ?_ ?_
      · have hne : y ≠ id := fun hEq =>
          hRoute.getLastD_not_mem_dropLast hs hr (hLast ▸ hEq ▸ hy)
        exact next_congr_node (hOld y (hIds y (List.mem_of_mem_dropLast hy)) hne)
      · rw [hLast, Grove.next, hAtId]
        simp [Node.child?, Node.withChild, hq]
      · rw [Grove.next, ← hg₁, node_modifyNode_of_ne (Nat.ne_of_gt hId), node_add_size]
        rfl
    have hrEager₁ : (g₁.node r).mode = .eager := by
      rw [hNodes r (hRoute.eq_cons.elim fun _ h => h ▸ List.mem_cons_self)]
      exact hrEager
    rw [getDoc_exec_of_eager hs₁ hr₁ hrEager₁ hRoute₁, getDoc_exec_of_eager hs hr hrEager hRoute,
      List.getLastD_concat, hLast, ← hg₁, node_modifyNode_of_ne (Nat.ne_of_gt hId), node_add_size]
    rfl
  · have hNext : ∀ y ∈ ids, g₁.next q y = g.next q y := by
      intro y hy
      by_cases hy' : y = id
      · subst hy'
        have hq : (g.node y).driver.paths.nameAt q ((g.node y).level + 1) ≠ name :=
          fun hEq => hReach ⟨hy, hEq⟩
        rw [← hg₁, next_hang_of_ne (by simpa using Nat.lt_succ_of_lt hId)
          (by rwa [node_add_of_lt hId]), next_add hId]
      · exact next_congr_node (hOld y (hIds y hy) hy')
    exact getDoc_result_congr hs hs₁ hr hr₁ hRoute hNext hNodes

/-- A set that fails started from an eager node, keeps the documents of every node there before,
and keeps what every lookup from them answers. -/
theorem setFrom_error {rule : Rule} :
    ∀ {fuel : Nat} {g g' : Grove} {id : NodeId}, Sound g → id < g.nodes.size →
      (setFrom fuel id rule).exec g = (.error e, g') →
      (g.node id).mode = .eager ∧ (∀ i < g.nodes.size, (g.node i).SameDocs (g'.node i)) ∧
        ∀ r < g.nodes.size, ∀ q, ((getDoc r q).exec g').1 = ((getDoc r q).exec g).1
  | 0, _, _, _, _, _, h => by cases h
  | fuel + 1, g, g', id, hs, hId, h => by
    rw [setFrom_succ_exec] at h
    split at h
    · rw [update_exec] at h
      split at h
      · cases h
      · rename_i hEager
        split at h
        · cases h
        · cases h
          have hs' : Sound (g.note (realize (g.node id).baseline rule.processors).ran) :=
            (Change.note g _).sound hs
          have hMode : (g.node id).mode = .eager := by
            revert hEager
            cases (g.node id).mode <;> simp [Mode.isLazy]
          refine ⟨hMode,
            fun i _ => by rw [node_note]; exact .refl _, fun r hr q => ?_⟩
          obtain ⟨ids, hRoute⟩ : ∃ ids, g.Route q r ids := Route.exists hs hr
          exact getDoc_result_congr hs hs' hr (by rwa [size_note]) hRoute
            (fun y _ => next_note _ _) (fun y _ => by rw [node_note])
    · split at h
      · cases h
      · rename_i hNe hNotLt
        have hName : (g.node id).driver.paths.nameAt rule.path ((g.node id).level + 1) ≠ "" :=
          PathStyle.nameAt_ne_empty (Nat.succ_pos _) (by omega)
        rcases hGrow : (grow id ((g.node id).driver.paths.nameAt rule.path
            ((g.node id).level + 1))).exec g with ⟨_ | c, g₁⟩
        · rw [grow_exec] at hGrow
          split at hGrow <;> cases hGrow
        rw [hGrow] at h
        obtain ⟨hChanges, hc⟩ := grow_changes hs hId hName hGrow
        have hSize := hChanges.keeps.size_le
        have hDocs₁ := grow_sameDocs hGrow
        obtain ⟨hcEager, hDocs, hAnswers⟩ := setFrom_error (hChanges.sound hs) hc h
        have hDocs' : ∀ i < g.nodes.size, (g.node i).SameDocs (g'.node i) := fun i hi =>
          (hDocs₁ i hi).trans (hDocs i (Nat.lt_of_lt_of_le hi hSize))
        rw [grow_exec] at hGrow
        split at hGrow
        · rename_i c' hc'
          obtain ⟨hcc, rfl⟩ := Prod.mk.inj hGrow
          cases Except.ok.inj hcc
          refine ⟨((hs.hangs (Node.mem_of_child? hc')).mode).symm.trans hcEager, hDocs', hAnswers⟩
        · rename_i hNone
          obtain ⟨hc₁, rfl⟩ := Prod.mk.inj hGrow
          cases Except.ok.inj hc₁
          have hEager : (g.node id).mode = .eager := by
            rw [node_modifyNode_of_ne (Nat.ne_of_gt hId), node_add_size] at hcEager
            exact hcEager
          refine ⟨hEager, hDocs', fun r hr q => ?_⟩
          rw [hAnswers r (Nat.lt_of_lt_of_le hr hSize) q, getDoc_sprout hs hId hEager hNone hName hr q]

end Tree

variable {g : Grove}

/-- A `del` or `graft` that fails leaves the grove as it was. A `set` that fails leaves every
node there before with its document, processors and realized flag, and every lookup from those
nodes answers as before; the nodes its walk made on the rule's path stay. -/
theorem failed_call_keeps_answers (hReach : Reachable g) :
    (∀ h path e g', (Tree.del h path).exec g = (.error e, g') → g' = g) ∧
    (∀ host child e g', (Tree.graft host child).exec g = (.error e, g') → g' = g) ∧
    (∀ h rule e g', h < g.nodes.size → (Tree.setRule h rule).exec g = (.error e, g') →
      (∀ i < g.nodes.size, (g.node i).SameDocs (g'.node i)) ∧
      ∀ r < g.nodes.size, ∀ q, ((Tree.getDoc r q).exec g').1 = ((Tree.getDoc r q).exec g).1) := by
  refine ⟨fun h path e g' hDel => Tree.del_error hDel,
    fun host child e g' hGraft => Tree.graft_exec_of_error hGraft, fun h rule e g' hh hSet => ?_⟩
  rw [Tree.setRule_exec] at hSet
  obtain ⟨-, hDocs, hAnswers⟩ := Tree.setFrom_error hReach.sound hh hSet
  exact ⟨hDocs, hAnswers⟩

theorem failed_call_keeps_answers_after_build :
    let g := ((Tree.build Driver.json .eager "conf" [] [Rule.empty "/a"]).exec Grove.empty).2
    Reachable g ∧
    (∀ h path e g', (Tree.del h path).exec g = (.error e, g') → g' = g) ∧
    (∀ host child e g', (Tree.graft host child).exec g = (.error e, g') → g' = g) ∧
    (∀ h rule e g', h < g.nodes.size → (Tree.setRule h rule).exec g = (.error e, g') →
      (∀ i < g.nodes.size, (g.node i).SameDocs (g'.node i)) ∧
      ∀ r < g.nodes.size, ∀ q, ((Tree.getDoc r q).exec g').1 = ((Tree.getDoc r q).exec g).1) :=
  ⟨.single (.build _ _ _ _ _ _), failed_call_keeps_answers (.single (.build _ _ _ _ _ _))⟩

/-- A set on an eager tree for a path it does not have, with a processor that fails: the set
fails, but the node it made for the path stays, so the tree has the path afterwards. -/
theorem failed_set_keeps_made_node :
    let broken : Processor :=
      .raw ⟨"", ⟨0, 0⟩, none, fun _ => .error (.error (.invalidDocument "broken"))⟩
    let g := ((Tree.build Driver.json .eager "conf" [] []).exec Grove.empty).2
    ((Tree.setRule 0 ⟨"/a", [broken]⟩).exec g).1 =
      .error (.error (.realize "/a" ⟨"raw", "", .invalidDocument "broken"⟩)) ∧
    Tree.has g 0 "/a" = false ∧ Tree.has ((Tree.setRule 0 ⟨"/a", [broken]⟩).exec g).2 0 "/a" = true := by
  intro broken g
  have hErr : ((Tree.setRule 0 ⟨"/a", [broken]⟩).exec g).1 =
      .error (.error (.realize "/a" ⟨"raw", "", .invalidDocument "broken"⟩)) := by
    simp only [broken, g]
    cbv
  have hLength : (Driver.json.paths.segments "/a").length = 1 :=
    (by cbv : Driver.json.paths.level "/a" = 1)
  have hBuild : (Tree.build Driver.json .eager "conf" [] []).exec Grove.empty = (.ok 0, g) :=
    Prod.ext (by cbv) rfl
  obtain ⟨-, place, hf, hDom⟩ := Grove.Fresh.of_build hBuild
  refine ⟨hErr, ?_, ?_⟩
  · rw [hf.has_eq]
    cases hp : place (Driver.json.paths.segments "/a") with
    | none => rfl
    | some i =>
      have hAddr := (hDom _).mp (by rw [hp]; rfl)
      simp only [Rule.Addressed, List.not_mem_nil, false_and, exists_false, or_false] at hAddr
      rw [hAddr] at hLength
      cases hLength
  · have hDeep := hf.level_le_deepestLevel "/a"
    obtain ⟨g', place', i', hf', hi', -, -, hExec⟩ :=
      hf.setFrom_exec ⟨"/a", [broken]⟩ (Tree.deepestLevel g "/a" + 1) (Nat.zero_le _)
        (by simp only [PathStyle.level] at hDeep ⊢; omega) hf.root
    rw [Tree.setRule_exec, hExec] at hErr ⊢
    rw [Tree.update_exec] at hErr ⊢
    split
    · rw [if_pos ‹_›] at hErr
      cases hErr
    · rw [if_neg ‹_›] at hErr
      split at hErr
      · cases hErr
      · rw [(hf'.note _).has_eq, hi']
        rfl

end RuleOverlay
