import RuleOverlay.Proofs.Overwrite
/-! # Finding a node two ways

`has` and `node?` answer one question, whether a path leads to a node, in two ways. `has`
recurses: every node it reaches reads the path with its own driver, and the name is checked at
the path's level only. `node?` iterates: it reads the path once, with the driver of the node it
starts from, and follows the children the segments name, without checking the name of the node
it ends at. A child hangs under the key of its own name, so that last check always passes after
a step down; the two answer alike whenever every node below the start reads paths as the start
does (`Grove.OneStyle`). In every grove, what `node?` finds sits at the path's level.

A graft checks only the path text and the driver name of the node it hangs, so a node of another
path style can hang below a tree. `has` then reads the rest of a path the grafted node's way and
misses a node that `node?` finds.
-/
namespace RuleOverlay

open Grove

namespace Tree

variable {g : Grove} {style : PathStyle} {q : String} {L : Nat} {m : NodeId}

theorem descend_succ : ∀ {fuel : Nat} {c : NodeId},
    descend g style q L fuel c = some m → descend g style q L (fuel + 1) c = some m
  | 0, _, h => by cases h
  | fuel + 1, c, h => by
    rw [descend.eq_2] at h ⊢
    by_cases hLt : (g.node c).level < L
    · rw [if_pos hLt] at h ⊢
      cases hChild : (g.node c).child? (style.nameAt q ((g.node c).level + 1)) with
      | none => rw [hChild] at h; cases h
      | some c' =>
        rw [hChild, Option.bind_some] at h
        rw [Option.bind_some]
        exact descend_succ h
    · rw [if_neg hLt] at h ⊢
      exact h

theorem descend_descends (hs : Sound g) : ∀ {fuel : Nat} {c : NodeId},
    descend g style q (style.level q) fuel c = some m →
      g.Descends c ((style.segments q).drop (g.node c).level) m
  | 0, _, h => by cases h
  | fuel + 1, c, h => by
    simp only [descend] at h
    by_cases hLt : (g.node c).level < style.level q
    · rw [if_pos hLt] at h
      have hNext : style.nameAt q ((g.node c).level + 1) = (style.segments q)[(g.node c).level] :=
        nameAt_of_segments rfl (List.getElem?_eq_getElem hLt)
      cases hChild : (g.node c).child? (style.nameAt q ((g.node c).level + 1)) with
      | none => rw [hChild] at h; cases h
      | some c' =>
        rw [hChild, Option.bind_some] at h
        have hMem := Node.mem_of_child? hChild
        rw [List.drop_eq_getElem_cons hLt, ← hNext]
        refine .down hMem ?_
        rw [← (hs.hangs hMem).level]
        exact descend_descends hs h
    · rw [if_neg hLt] at h
      cases h
      rw [List.drop_eq_nil_of_le (Nat.le_of_not_lt hLt)]
      exact .here _

theorem descend_of_size_succ (hs : Sound g) {c : NodeId} (hc : c < g.nodes.size)
    (hLe : (g.node c).level ≤ style.level q)
    (h : descend g style q (style.level q) (g.nodes.size + 1) c = some m) :
    descend g style q (style.level q) g.nodes.size c = some m := by
  have hDesc := descend_descends hs h
  have hLength : (g.node c).level + ((style.segments q).drop (g.node c).level).length =
      (style.segments q).length := by
    rw [List.length_drop]
    exact Nat.add_sub_cancel' hLe
  exact hDesc.descend_eq hs rfl rfl hLength (hDesc.length_lt hs hc)

theorem node?_level (hs : Sound g) {n : NodeId} (h : node? g n q = some m) :
    (g.node m).level = (g.node n).driver.paths.level q := by
  simp only [node?] at h
  by_cases hLt : (g.node n).driver.paths.level q < (g.node n).level
  · rw [if_pos hLt] at h
    cases h
  rw [if_neg hLt] at h
  by_cases hEq : (g.node n).driver.paths.level q = (g.node n).level
  · rw [if_pos (beq_iff_eq.mpr hEq)] at h
    split at h
    · cases h
      exact hEq.symm
    · cases h
  rw [if_neg (by simpa using hEq)] at h
  obtain ⟨c, hChild, hDesc⟩ := Option.bind_eq_some_iff.mp h
  have hLevel := (hs.hangs (Node.mem_of_child? hChild)).level
  rw [((descend_descends hs hDesc).shape hs).1, List.length_drop, hLevel]
  simp only [PathStyle.level] at hLt hEq ⊢
  omega

section OneStyle

variable {n : NodeId} (hs : Sound g) (hStyle : g.OneStyle n)
include hs hStyle

/-- Below a node whose descendants all read paths as it does, the test from a node whose name
is the path's segment at its level answers whether the descent finds a node: both follow the
same children, and every child reached is named by the key it was reached by. -/
theorem hasFrom_eq_descend : ∀ {fuel : Nat} {c : NodeId} {pre : List String},
    g.Descends n pre c →
    (g.node c).name = (g.node n).driver.paths.nameAt q (g.node c).level →
    (g.node c).level ≤ (g.node n).driver.paths.level q →
    hasFrom g fuel c q =
      (descend g (g.node n).driver.paths q ((g.node n).driver.paths.level q) fuel c).isSome
  | 0, _, _, _, _, _ => rfl
  | fuel + 1, c, pre, hc, hName, hLe => by
    simp only [hasFrom, descend, hStyle pre c hc]
    rcases Nat.lt_or_eq_of_le hLe with hLt | hEq
    · rw [if_neg (Nat.not_lt_of_le hLe), if_neg (by simpa using hLt.ne'), if_pos hLt]
      cases hChild : (g.node c).child?
          ((g.node n).driver.paths.nameAt q ((g.node c).level + 1)) with
      | none => rfl
      | some c' =>
        have hHangs := hs.hangs (Node.mem_of_child? hChild)
        rw [Option.bind_some]
        exact hasFrom_eq_descend ((descends_snoc_iff hs).mpr ⟨c, hc, hChild⟩)
          (by rw [hHangs.key, hHangs.level]) (by rw [hHangs.level]; exact hLt)
    · rw [if_neg (Nat.not_lt_of_le hLe), if_pos (by simpa using hEq.symm),
        if_neg (Nat.not_lt_of_le hEq.ge)]
      simp [hName, hEq]

theorem has_eq_isSome_node? (q : String) :
    has g n q = (node? g n q).isSome := by
  have hHere : g.Descends n [] n := .here n
  simp only [has, hasFrom, node?]
  by_cases hLt : (g.node n).driver.paths.level q < (g.node n).level
  · rw [if_pos hLt, if_pos hLt]
    rfl
  rw [if_neg hLt, if_neg hLt]
  by_cases hEq : (g.node n).driver.paths.level q = (g.node n).level
  · rw [if_pos (beq_iff_eq.mpr hEq), if_pos (beq_iff_eq.mpr hEq)]
    split <;> simp_all
  rw [if_neg (by simpa using hEq), if_neg (by simpa using hEq)]
  have hGt : (g.node n).level < (g.node n).driver.paths.level q := by omega
  cases hChild : (g.node n).child? ((g.node n).driver.paths.nameAt q ((g.node n).level + 1)) with
  | none => rfl
  | some c =>
    have hHangs := hs.hangs (Node.mem_of_child? hChild)
    have hc : c < g.nodes.size := hs.child_lt (Node.mem_of_child? hChild)
    have hcLe : (g.node c).level ≤ (g.node n).driver.paths.level q := by
      rw [hHangs.level]
      exact hGt
    dsimp only
    rw [Option.bind_some, hasFrom_eq_descend hs hStyle ((descends_snoc_iff hs).mpr ⟨n, hHere, hChild⟩)
      (by rw [hHangs.key, hHangs.level]) hcLe]
    cases hDesc : descend g (g.node n).driver.paths q ((g.node n).driver.paths.level q)
        (g.nodes.size + 1) c with
    | none =>
      cases hShort : descend g (g.node n).driver.paths q ((g.node n).driver.paths.level q)
          g.nodes.size c with
      | none => rfl
      | some m => rw [descend_succ hShort] at hDesc; cases hDesc
    | some m => rw [descend_of_size_succ hs hc hcLe hDesc]

end OneStyle

end Tree

/-- In every reachable grove, from every node whose descendants all read paths as it does, the
recursive test finds a path exactly when the lookup does, and the lookup ends at the path's
level. -/
theorem has_agrees_with_lookup {g : Grove} (hReach : Reachable g) (n : NodeId)
    (hStyle : g.OneStyle n) (q : String) :
    Tree.has g n q = (Tree.node? g n q).isSome ∧
      ∀ m, Tree.node? g n q = some m → (g.node m).level = (g.node n).driver.paths.level q :=
  ⟨Tree.has_eq_isSome_node? hReach.sound hStyle q, fun _ h => Tree.node?_level hReach.sound h⟩

theorem has_agrees_with_lookup_after_build :
    let g := ((Tree.build Driver.json .eager "conf" [] [Rule.empty "/a/b"]).exec Grove.empty).2
    Reachable g ∧ g.OneStyle 0 ∧
      Tree.has g 0 "/a/b" = (Tree.node? g 0 "/a/b").isSome ∧
      ∀ m, Tree.node? g 0 "/a/b" = some m →
        (g.node m).level = (g.node 0).driver.paths.level "/a/b" := by
  intro g
  have hBuild : (Tree.build Driver.json .eager "conf" [] [Rule.empty "/a/b"]).exec Grove.empty =
      (.ok 0, g) := Prod.ext (by cbv) rfl
  obtain ⟨-, place, hf, -⟩ := Grove.Fresh.of_build hBuild
  have hReach : Reachable g := .single (.build _ _ _ _ _ _)
  exact ⟨hReach, hf.oneStyle, has_agrees_with_lookup hReach 0 hf.oneStyle "/a/b"⟩

/-- Under a tree with the delimiter `bab`, a graft hangs the node at `ab, ab, ba` of a tree with
the delimiter `babab` at `ab, a, ba`, where its path text fits. The root reads
`babbababbabbabababbababbab` as `ab, a, ba`, and the lookup finds the grafted node there; the
test hands the path on to the grafted node, which reads it as four names and finds no child for
the fourth. -/
theorem has_misses_grafted_node :
    let host := Driver.json.withPaths ⟨"bab"⟩
    let donor := Driver.json.withPaths ⟨"babab"⟩
    let g₁ := ((Tree.build host .eager "tree" [] [Rule.empty "abbaba"]).exec Grove.empty).2
    let g₂ := ((Tree.build donor .eager "tree" [] [Rule.empty "abbabababbababba"]).exec g₁).2
    let g := ((Tree.graft 2 6).exec g₂).2
    Reachable g ∧ ((Tree.graft 2 6).exec g₂).1 = .ok none ∧
      Tree.node? g 0 "babbababbabbabababbababbab" = some 6 ∧
      Tree.has g 0 "babbababbabbabababbababbab" = false := by
  intro host donor g₁ g₂ g
  have hReach : Reachable g :=
    .tail (.tail (.single (.build _ _ _ _ _ _)) (.build _ _ _ _ _ _))
      (.graft (by decide +kernel) (by decide +kernel))
  have hGraft : ((Tree.graft 2 6).exec g₂).1 = .ok none := by
    simp only [g₂, g₁, host, donor]
    cbv
  exact ⟨hReach, hGraft, by decide +kernel, by decide +kernel⟩

end RuleOverlay
