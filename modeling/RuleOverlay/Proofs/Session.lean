import RuleOverlay.Proofs.Change
/-! # Sessions on a grove

A session builds trees and calls `set`, `del`, `graft` and `get` on nodes the grove has, in any
order, each call running to its end or to its first failure (`Grove.Step`); the outcome of a call
is dropped, and what it changed before failing stays changed. The groves a session reaches from
the empty grove are its reachable states.

Every call is a chain of the changes of `Grove.Change`, so whatever the changes keep, every
reachable grove has: each one is sound, and every call keeps the origin of the nodes there
already.
-/
namespace RuleOverlay

open Grow Grove

variable {g g' : Grove}

namespace Tree

theorem update_changes {id : NodeId} {ps : List Processor} {r : Except (Failure TreeError) Unit}
    (hId : id < g.nodes.size) (h : (update id ps).exec g = (r, g')) : Changes g g' := by
  rw [update_exec] at h
  split at h
  · cases h
    exact .single (.bind ps hId ‹_›)
  · rename_i hEager
    have hNote : Changes g (g.note (realize (g.node id).baseline ps).ran) := .single (.note _ _)
    split at h
    · cases h
      exact hNote.tail (.settle hId (by simpa using hEager) ‹_›)
    · cases h
      exact hNote

theorem grow_changes {id c : NodeId} {name : String} (hs : Sound g) (hId : id < g.nodes.size)
    (hName : name ≠ "") (h : (grow id name).exec g = (.ok c, g')) :
    Changes g g' ∧ c < g'.nodes.size := by
  rw [grow_exec] at h
  split at h
  · cases h
    exact ⟨.refl, hs.child_lt (Node.mem_of_child? ‹_›)⟩
  · cases h
    have hSprout : Change g (g.add ((g.node id).sprout name)).1 := .sprout name hId hName
    have hHangs : ((g.add ((g.node id).sprout name)).1.node id).Hangs
        ((g.add ((g.node id).sprout name)).1.node g.nodes.size) name := by
      rw [node_add_of_lt hId, node_add_size]
      exact Node.hangs_sprout _ _
    refine ⟨(Relation.ReflTransGen.single hSprout).tail (.hang (by rw [size_add]; exact Nat.lt_succ_of_lt hId) (by simp) hHangs),
      by simp⟩

theorem grow_ok (g : Grove) (id : NodeId) (name : String) :
    ∃ c, ((grow id name).exec g).1 = .ok c := by
  rw [grow_exec]
  split
  · exact ⟨_, rfl⟩
  · exact ⟨_, rfl⟩

theorem setFrom_changes {rule : Rule} {r : Except (Failure TreeError) Unit} :
    ∀ {fuel : Nat} {g g' : Grove} {id : NodeId}, Sound g → id < g.nodes.size →
      (setFrom fuel id rule).exec g = (r, g') → Changes g g'
  | 0, _, _, _, _, _, h => by cases h; exact .refl
  | fuel + 1, g, g', id, hs, hId, h => by
    rw [setFrom_succ_exec] at h
    split at h
    · exact update_changes hId h
    · split at h
      · cases h; exact .refl
      · rename_i hNe hNotLt
        have hName : (g.node id).driver.paths.nameAt rule.path ((g.node id).level + 1) ≠ "" :=
          PathStyle.nameAt_ne_empty (Nat.succ_pos _) (by omega)
        obtain ⟨c, hc⟩ := grow_ok g id ((g.node id).driver.paths.nameAt rule.path
          ((g.node id).level + 1))
        rcases hGrow : (grow id _).exec g with ⟨_ | c', g₁⟩
        · rw [hGrow] at hc; cases hc
        · rw [hGrow] at h
          obtain ⟨hChanges, hc'⟩ := grow_changes hs hId hName hGrow
          exact hChanges.trans (setFrom_changes (hChanges.sound hs) hc' h)

theorem setRule_changes {id : NodeId} {rule : Rule} {r : Except (Failure TreeError) Unit}
    (hs : Sound g) (hId : id < g.nodes.size) (h : (setRule id rule).exec g = (r, g')) :
    Changes g g' := by
  rw [setRule_exec] at h
  exact setFrom_changes hs hId h

theorem setAll_changes {id : NodeId} {r : Except (Failure TreeError) Unit} :
    ∀ {rules : List Rule} {g g' : Grove}, Sound g → id < g.nodes.size →
      (setAll id rules).exec g = (r, g') → Changes g g'
  | [], _, _, _, _, h => by cases h; exact .refl
  | rule :: rules, g, g', hs, hId, h => by
    rw [setAll_cons_exec] at h
    rcases hSet : (setRule id rule).exec g with ⟨_ | _, g₁⟩
    · rw [hSet] at h; cases h
      exact setRule_changes hs hId hSet
    · rw [hSet] at h
      have hChanges := setRule_changes hs hId hSet
      exact hChanges.trans (setAll_changes (hChanges.sound hs)
        (Nat.lt_of_lt_of_le hId hChanges.keeps.size_le) h)

theorem build_changes {d : Driver} {m : Mode} {name : String} {t : Bytes} {rules : List Rule}
    {r : Except (Failure TreeError) NodeId} (hs : Sound g)
    (h : (build d m name t rules).exec g = (r, g')) : Changes g g' := by
  rw [build_exec] at h
  have hPlant : Change g (g.add (Node.root d m name t)).1 := .plant g d m name t
  rcases hAll : (setAll g.nodes.size (Rule.sortByLevel d.paths rules)).exec
      (g.add (Node.root d m name t)).1 with ⟨_ | _, g₁⟩ <;> rw [hAll] at h <;> cases h <;>
    exact (Relation.ReflTransGen.single hPlant).trans
      (setAll_changes (hPlant.sound hs) (by simp) hAll)

/-- A build that succeeds answers the node it added at the end of the grove, and that node keeps
the origin of a new root over the template. -/
theorem build_root {d : Driver} {m : Mode} {name : String} {t : Bytes} {rules : List Rule}
    {root : NodeId} (hs : Sound g) (h : (build d m name t rules).exec g = (.ok root, g')) :
    root = g.nodes.size ∧ root < g'.nodes.size ∧ (Node.root d m name t).SameOrigin (g'.node root) := by
  rw [build_exec] at h
  rcases hAll : (setAll g.nodes.size (Rule.sortByLevel d.paths rules)).exec
      (g.add (Node.root d m name t)).1 with ⟨_ | _, g₁⟩ <;> rw [hAll] at h
  · cases h
  · cases h
    have hKeeps := (setAll_changes ((Change.plant g d m name t).sound hs) (by simp) hAll).keeps
    have hRoot : ((g.add (Node.root d m name t)).1.node g.nodes.size).SameOrigin
        (g'.node g.nodes.size) := hKeeps.origin (by simp)
    rw [node_add_size] at hRoot
    exact ⟨rfl, Nat.lt_of_lt_of_le (by simp) hKeeps.size_le, hRoot⟩

theorem visit_changes {id : NodeId} {inherited : Option Bytes} {r : Except (Failure TreeError) Bytes}
    (hId : id < g.nodes.size) (h : (visit id inherited).exec g = (r, g')) : Changes g g' := by
  cases hRe : (g.node id).recomputes
  · rw [visit_exec_of_settled inherited hRe] at h
    cases h; exact .refl
  · rw [visit_exec_of_recomputes inherited hRe] at h
    have hNote : Changes g (g.note (realize (inherited.getD (g.node id).baseline)
        (g.node id).processors).ran) := .single (.note _ _)
    simp only at h
    split at h
    · cases h
      exact hNote.tail (.refresh hId hRe ‹_›)
    · cases h
      exact hNote

theorem lookupFrom_changes {path : String} {r : Except (Failure TreeError) Bytes} :
    ∀ {fuel : Nat} {g g' : Grove} {id : NodeId} {inherited : Option Bytes}, Sound g →
      id < g.nodes.size → (lookupFrom fuel id path inherited).exec g = (r, g') → Changes g g'
  | 0, _, _, _, _, _, _, h => by cases h; exact .refl
  | fuel + 1, g, g', id, inherited, hs, hId, h => by
    rw [lookupFrom_succ_exec] at h
    rcases hVisit : (visit id inherited).exec g with ⟨_ | content, g₁⟩ <;> rw [hVisit] at h
    · cases h
      exact visit_changes hId hVisit
    · have hChanges := visit_changes hId hVisit
      simp only at h
      split at h
      · rename_i c hc
        exact hChanges.trans (lookupFrom_changes (hChanges.sound hs)
          ((hChanges.sound hs).child_lt (Node.mem_of_child? hc)) h)
      · cases h
        exact hChanges

theorem getDoc_changes {id : NodeId} {path : String} {r : Except (Failure TreeError) Bytes}
    (hs : Sound g) (hId : id < g.nodes.size) (h : (getDoc id path).exec g = (r, g')) :
    Changes g g' := by
  rw [getDoc_exec] at h
  exact lookupFrom_changes hs hId h

theorem delFrom_changes {path : String} {r : Except (Failure TreeError) Unit} :
    ∀ {fuel : Nat} {g g' : Grove} {id : NodeId}, Sound g → id < g.nodes.size →
      (delFrom fuel id path).exec g = (r, g') → Changes g g'
  | 0, _, _, _, _, _, h => by cases h; exact .refl
  | fuel + 1, g, g', id, hs, hId, h => by
    rw [delFrom_succ_exec] at h
    split at h
    · cases h; exact .refl
    · split at h
      · cases h; exact .refl
      · split at h
        · cases h; exact .single (.cut _ hId)
        · split at h
          · rename_i c hc
            exact delFrom_changes hs (hs.child_lt (Node.mem_of_child? hc)) h
          · cases h; exact .refl

theorem del_changes {id : NodeId} {path : String} {r : Except (Failure TreeError) Unit}
    (hs : Sound g) (hId : id < g.nodes.size) (h : (del id path).exec g = (r, g')) :
    Changes g g' := by
  rw [del_exec] at h
  exact delFrom_changes hs hId h

theorem graft_changes {parent child : NodeId} {r : Except (Failure TreeError) (Option NodeId)}
    (hParent : parent < g.nodes.size) (hChild : child < g.nodes.size)
    (h : (graft parent child).exec g = (r, g')) : Changes g g' := by
  rcases r with e | r
  · rw [graft_exec_of_error h]
  · obtain ⟨hLevel, hPath, hDriver, hMode, -, rfl⟩ := graft_exec_of_ok h
    exact .single (.hang hParent hChild ⟨hLevel, rfl, hPath, hMode, hDriver⟩)

end Tree

namespace Grove

/-- One call of a session on a grove: building a tree, or calling `set`, `del`, `graft` or `get`
on nodes the grove has. The outcome is dropped; what the call changed before it stopped stays. -/
inductive Step : Grove → Grove → Prop
  | build (g : Grove) (d : Driver) (m : Mode) (name : String) (t : Bytes) (rules : List Rule) :
      Step g ((Tree.build d m name t rules).exec g).2
  | set {g : Grove} {id : NodeId} (hId : id < g.nodes.size) (rule : Rule) :
      Step g ((Tree.setRule id rule).exec g).2
  | del {g : Grove} {id : NodeId} (hId : id < g.nodes.size) (path : String) :
      Step g ((Tree.del id path).exec g).2
  | graft {g : Grove} {host child : NodeId} (hHost : host < g.nodes.size)
      (hChild : child < g.nodes.size) : Step g ((Tree.graft host child).exec g).2
  | get {g : Grove} {id : NodeId} (hId : id < g.nodes.size) (path : String) :
      Step g ((Tree.getDoc id path).exec g).2

def Reachable (g : Grove) : Prop := Relation.ReflTransGen Step Grove.empty g

theorem Step.changes (hs : Sound g) (h : Step g g') : Changes g g' := by
  cases h with
  | build d m name t rules => exact Tree.build_changes hs (Prod.ext rfl rfl)
  | set hId rule => exact Tree.setRule_changes hs hId (Prod.ext rfl rfl)
  | del hId path => exact Tree.del_changes hs hId (Prod.ext rfl rfl)
  | graft hHost hChild => exact Tree.graft_changes hHost hChild (Prod.ext rfl rfl)
  | get hId path => exact Tree.getDoc_changes hs hId (Prod.ext rfl rfl)

theorem steps_sound (hs : Sound g) (h : Relation.ReflTransGen Step g g') : Sound g' := by
  induction h with
  | refl => exact hs
  | tail _ hStep ih => exact (hStep.changes ih).sound ih

theorem steps_changes (hs : Sound g) (h : Relation.ReflTransGen Step g g') : Changes g g' := by
  induction h with
  | refl => exact .refl
  | tail hSteps hStep ih => exact ih.trans (hStep.changes (steps_sound hs hSteps))

theorem Reachable.sound (h : Reachable g) : Sound g := steps_sound sound_empty h

theorem steps_keeps (hs : Sound g) (h : Relation.ReflTransGen Step g g') : Keeps g g' :=
  (steps_changes hs h).keeps

/-- After a build and any session on it, the grove is sound and the root the build answered is
still there with the origin of a new root. -/
theorem session_root {g₀ g₁ : Grove} {d : Driver} {m : Mode} {name : String} {t : Bytes}
    {rules : List Rule} {root : NodeId} (hReach : Reachable g₀)
    (hBuild : (Tree.build d m name t rules).exec g₀ = (.ok root, g₁))
    (hRun : Relation.ReflTransGen Step g₁ g) :
    Sound g ∧ root < g.nodes.size ∧ (Node.root d m name t).SameOrigin (g.node root) := by
  have hs₀ := hReach.sound
  obtain ⟨-, hLt, hOrigin⟩ := Tree.build_root hs₀ hBuild
  have hs₁ : Sound g₁ := (Tree.build_changes hs₀ hBuild).sound hs₀
  have hKeeps := steps_keeps hs₁ hRun
  exact ⟨steps_sound hs₁ hRun, Nat.lt_of_lt_of_le hLt hKeeps.size_le,
    hOrigin.trans (hKeeps.origin hLt)⟩

end Grove

end RuleOverlay
