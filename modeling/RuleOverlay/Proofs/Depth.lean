import RuleOverlay.Proofs.Built
/-! # The shape of a tree through a session

Every child hangs under its parent as `Sound` says, so a node `k` names below the root of a
built tree sits at level `k`, with the root's mode and driver name, and each child edge is
keyed by the child's name at the path its parent gives that name. The root keeps the path,
name and level of a new root for the whole session.

Whether the path of a node leads back to it is another matter: a lookup splits the path again
with the root's driver, and finds the node exactly when that split gives back the names the
node lies below. A name with a blank at its end does not survive the split, which trims the
whole path.
-/
namespace RuleOverlay

open Grove

namespace Grove

/-- `n` lies below `r` along the child names `ns`. -/
inductive Descends (g : Grove) : NodeId → List String → NodeId → Prop
  | here (n : NodeId) : Descends g n [] n
  | down {r c n : NodeId} {x : String} {ns : List String} :
      (x, c) ∈ (g.node r).children → Descends g c ns n → Descends g r (x :: ns) n

variable {g : Grove} {r n : NodeId} {ns : List String}

theorem Descends.shape (hs : Sound g) (h : g.Descends r ns n) :
    (g.node n).level = (g.node r).level + ns.length ∧ (g.node n).mode = (g.node r).mode ∧
      (g.node n).driver.name = (g.node r).driver.name := by
  induction h with
  | here => exact ⟨rfl, rfl, rfl⟩
  | down hMem _ ih =>
    obtain ⟨hLevel, hMode, hDriver⟩ := ih
    have hHangs := hs.hangs hMem
    refine ⟨?_, hMode.trans hHangs.mode, hDriver.trans hHangs.driver⟩
    rw [hLevel, hHangs.level, List.length_cons]
    omega

theorem Descends.name_eq (hs : Sound g) (h : g.Descends r ns n) (hne : ns ≠ []) :
    (g.node n).name = ns.getLast hne := by
  induction h with
  | here => exact absurd rfl hne
  | @down r c n x ns hMem hRest ih =>
    cases hRest with
    | here => exact (hs.hangs hMem).key
    | down hMem' hRest' =>
      rw [List.getLast_cons (List.cons_ne_nil _ _)]
      exact ih (List.cons_ne_nil _ _)

theorem Descends.levels (hs : Sound g) (h : g.Descends r ns n) (hr : r < g.nodes.size) :
    ∃ ids : List NodeId, ids.map (fun x => (g.node x).level) =
      List.range' (g.node r).level (ns.length + 1) ∧ ∀ x ∈ ids, x < g.nodes.size := by
  induction h with
  | here n => exact ⟨[n], rfl, fun x hx => (List.mem_singleton.mp hx) ▸ hr⟩
  | @down r c n x ns hMem _ ih =>
    obtain ⟨ids, hLevels, hLt⟩ := ih (hs.child_lt hMem)
    refine ⟨r :: ids, ?_, fun y hy => ?_⟩
    · rw [List.map_cons, hLevels, (hs.hangs hMem).level, List.length_cons]
      exact List.range'_succ.symm
    · rcases List.mem_cons.mp hy with rfl | hy
      · exact hr
      · exact hLt y hy

theorem Descends.length_lt (hs : Sound g) (h : g.Descends r ns n) (hr : r < g.nodes.size) :
    ns.length < g.nodes.size := by
  obtain ⟨ids, hLevels, hLt⟩ := h.levels hs hr
  have hNodup : ids.Nodup := List.Nodup.of_map _ (hLevels ▸ List.nodup_range')
  have hLength : ids.length = ns.length + 1 := by
    rw [← List.length_map (fun x => (g.node x).level), hLevels, List.length_range']
  have hSub : ids ⊆ List.range g.nodes.size := fun x hx => List.mem_range.mpr (hLt x hx)
  have hLe := (List.subperm_of_subset hNodup hSub).length_le
  rw [List.length_range, hLength] at hLe
  omega

theorem nameAt_of_segments {style : PathStyle} {path : String} (hSegs : style.segments path = ns)
    {j : Nat} {x : String} (hx : ns[j]? = some x) : style.nameAt path (j + 1) = x := by
  rw [PathStyle.nameAt, if_neg (Nat.succ_ne_zero j), Nat.add_sub_cancel, hSegs,
    List.getD_eq_getElem?_getD, hx, Option.getD_some]

theorem Descends.descend_eq (hs : Sound g) {style : PathStyle} {path : String}
    (hSegs : style.segments path = ns) :
    ∀ {c : NodeId} {rest : List String} {fuel : Nat}, g.Descends c rest n →
      rest = ns.drop (g.node c).level → (g.node c).level + rest.length = ns.length →
      rest.length < fuel → Tree.descend g style path (style.level path) fuel c = some n := by
  have hLevel : style.level path = ns.length := by rw [PathStyle.level, hSegs]
  intro c rest fuel h
  induction h generalizing fuel with
  | here n =>
    intro _ hEnd hFuel
    obtain ⟨fuel, rfl⟩ : ∃ f, fuel = f + 1 := ⟨fuel - 1, by simp at hFuel; omega⟩
    simp only [Tree.descend]
    rw [if_neg (by rw [hLevel]; simp at hEnd; omega)]
  | @down c c' n x rest hMem hRest ih =>
    intro hDrop hEnd hFuel
    obtain ⟨fuel, rfl⟩ : ∃ f, fuel = f + 1 := ⟨fuel - 1, by simp at hFuel; omega⟩
    have hHangs := hs.hangs hMem
    have hx : ns[(g.node c).level]? = some x := by
      rw [← Nat.add_zero (g.node c).level, ← List.getElem?_drop, ← hDrop]
      rfl
    have hLt : (g.node c).level < style.level path := by
      rw [hLevel, ← hEnd, List.length_cons]
      omega
    simp only [Tree.descend]
    rw [if_pos hLt, nameAt_of_segments hSegs hx,
      Node.child?_eq_some_of_mem (hs.keys_nodup c) hMem, Option.bind_some]
    refine ih ?_ ?_ (by simp at hFuel; omega)
    · rw [hHangs.level, ← List.drop_drop, ← hDrop]
      rfl
    · rw [hHangs.level, ← hEnd, List.length_cons]
      omega

/-- From a root at level 0, the lookup of a node's path finds the node when the root's driver
splits that path into the names the node lies below. -/
theorem Descends.node?_eq (hs : Sound g) (h : g.Descends r ns n) (hr : r < g.nodes.size)
    (hRoot : (g.node r).level = 0)
    (hSegs : (g.node r).driver.paths.segments (g.node n).path = ns) :
    Tree.node? g r (g.node n).path = some n := by
  have hLevel : (g.node r).driver.paths.level (g.node n).path = ns.length := by
    rw [PathStyle.level, hSegs]
  have hLength := h.length_lt hs hr
  simp only [Tree.node?]
  rw [hRoot, hLevel, if_neg (Nat.not_lt_zero _)]
  cases h with
  | here => simp
  | @down _ c _ x rest hMem hRest =>
    have hHangs := hs.hangs hMem
    rw [if_neg (by simp), nameAt_of_segments hSegs (by rfl : (x :: rest)[0]? = some x),
      Node.child?_eq_some_of_mem (hs.keys_nodup r) hMem, Option.bind_some]
    rw [← hLevel]
    refine hRest.descend_eq hs hSegs ?_ ?_ ?_
    · rw [hHangs.level, hRoot]
      rfl
    · rw [hHangs.level, hRoot, List.length_cons]
      omega
    · simp at hLength
      omega

end Grove

variable {g₀ g₁ g : Grove}

/-- Through any session on a built tree, the root keeps the path and name of a new root, and a
node `k` names below it sits at level `k` with the tree's mode and driver name, its children
keyed by their names at the paths it gives them. Its path leads a lookup back to it, at the
level of its names and with its name last, when the driver splits the path into those names. -/
theorem session_tree_shape {d : Driver} {m : Mode} {name : String} {t : Bytes}
    {rules : List Rule} {root : NodeId} (hReach : Reachable g₀)
    (hBuild : (Tree.build d m name t rules).exec g₀ = (.ok root, g₁))
    (hRun : Relation.ReflTransGen Step g₁ g) :
    (g.node root).path = d.paths.root ∧ (g.node root).name = name ∧
    ∀ ns n, g.Descends root ns n →
      (g.node n).level = ns.length ∧ (g.node n).mode = m ∧ (g.node n).driver.name = d.name ∧
      (∀ x c, (x, c) ∈ (g.node n).children →
        (g.node c).name = x ∧ (g.node c).path = (g.node n).driver.paths.append (g.node n).path x) ∧
      (d.paths.segments (g.node n).path = ns →
        d.paths.level (g.node n).path = ns.length ∧
        (ns ≠ [] → d.paths.nameAt (g.node n).path ns.length = (g.node n).name) ∧
        Tree.node? g root (g.node n).path = some n) := by
  obtain ⟨hs, hRootLt, hRoot⟩ := session_root hReach hBuild hRun
  have hLevel₀ : (g.node root).level = 0 := hRoot.level
  refine ⟨hRoot.path, hRoot.name, fun ns n h => ?_⟩
  obtain ⟨hLevel, hMode, hDriver⟩ := h.shape hs
  refine ⟨by rw [hLevel, hLevel₀, Nat.zero_add], hMode.trans hRoot.mode,
    hDriver.trans (congrArg Driver.name hRoot.driver),
    fun x c hMem => ⟨(hs.hangs hMem).key, (hs.hangs hMem).path⟩, fun hSegs => ?_⟩
  have hSegs' : (g.node root).driver.paths.segments (g.node n).path = ns := by
    rw [hRoot.driver]
    exact hSegs
  refine ⟨by rw [PathStyle.level, hSegs], fun hne => ?_, h.node?_eq hs hRootLt hLevel₀ hSegs'⟩
  have hIdx : ns[ns.length - 1]? = some (ns.getLast hne) := by
    rw [List.getLast_eq_getElem]
    exact List.getElem?_eq_getElem _
  have hLen : ns.length = ns.length - 1 + 1 :=
    (Nat.succ_pred_eq_of_pos (List.length_pos_of_ne_nil hne)).symm
  rw [h.name_eq hs hne, hLen, nameAt_of_segments hSegs hIdx]

theorem session_tree_shape_after_build :
    let g := ((Tree.build Driver.json .eager "conf" [] [Rule.empty "/a/b"]).exec Grove.empty).2
    Reachable Grove.empty ∧
      (Tree.build Driver.json .eager "conf" [] [Rule.empty "/a/b"]).exec Grove.empty = (.ok 0, g) ∧
      Relation.ReflTransGen Step g g ∧
      (g.node 0).path = Driver.json.paths.root ∧ (g.node 0).name = "conf" ∧
      ∀ ns n, g.Descends 0 ns n →
        (g.node n).level = ns.length ∧ (g.node n).mode = .eager ∧
        (g.node n).driver.name = Driver.json.name ∧
        (∀ x c, (x, c) ∈ (g.node n).children → (g.node c).name = x ∧
          (g.node c).path = (g.node n).driver.paths.append (g.node n).path x) ∧
        (Driver.json.paths.segments (g.node n).path = ns →
          Driver.json.paths.level (g.node n).path = ns.length ∧
          (ns ≠ [] → Driver.json.paths.nameAt (g.node n).path ns.length = (g.node n).name) ∧
          Tree.node? g 0 (g.node n).path = some n) :=
  ⟨.refl, Prod.ext (by cbv) rfl, .refl, session_tree_shape .refl (Prod.ext (by cbv) rfl) .refl⟩

/-- A rule for `/ a /b` makes a node named ` a ` at path `/ a `. Splitting that path trims it
first, so its name comes back as ` a` and a lookup of its own path finds nothing. -/
theorem trailing_blank_name_loses_node :
    let g := ((Tree.build Driver.json .eager "conf" [] [Rule.empty "/ a /b"]).exec Grove.empty).2
    ∃ n, g.Descends 0 [" a "] n ∧ (g.node n).name = " a " ∧ (g.node n).path = "/ a " ∧
      Driver.json.paths.nameAt (g.node n).path 1 = " a" ∧ Tree.node? g 0 (g.node n).path = none := by
  intro g
  have hBuild : (Tree.build Driver.json .eager "conf" [] [Rule.empty "/ a /b"]).exec Grove.empty =
      (.ok 0, g) := Prod.ext (by cbv) rfl
  obtain ⟨-, place, hf, hDom⟩ := Grove.Fresh.of_build hBuild
  have hRule : Driver.json.paths.segments "/ a /b" = [" a ", "b"] := by cbv
  have hSegs : Driver.json.paths.segments "/ a " = [" a"] := by cbv
  obtain ⟨i, hi⟩ := Option.isSome_iff_exists.mp ((hDom [" a "]).mpr
    (.inr ⟨Rule.empty "/ a /b", List.mem_singleton_self _, by
      show [" a "] <+: Driver.json.paths.segments "/ a /b"
      rw [hRule]
      exact ⟨["b"], rfl⟩⟩))
  have hPath : (g.node i).path = "/ a " := by
    rw [hf.path hi]
    cbv
  refine ⟨i, .down ((hf.children hf.root " a " i).mpr hi) (.here i), by rw [hf.key hi]; rfl,
    hPath, by rw [hPath]; cbv, ?_⟩
  rw [hPath, hf.node?_eq, hSegs]
  cases hp : place [" a"] with
  | none => rfl
  | some j =>
    exfalso
    rcases (hDom [" a"]).mp (by rw [hp]; rfl) with hNil | ⟨r, hr, hPre⟩
    · cases hNil
    · rw [List.mem_singleton] at hr
      subst hr
      change [" a"] <+: Driver.json.paths.segments "/ a /b" at hPre
      rw [hRule] at hPre
      exact absurd (List.cons_prefix_cons.mp hPre).1 (by decide)

end RuleOverlay
