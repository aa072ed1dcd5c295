import RuleOverlay.Proofs.Route
/-! # Lazy-instant trees answer from the processors bound now

A lazy-instant node runs its processors on every visit, from the document its parent hands it,
and never reads back what it stored on an earlier visit. So whatever a session does to a
lazy-instant tree (rules set on any node, subtrees deleted or grafted in, documents read
anywhere), a lookup from the root threads the template through the processors bound along the
route of the path as it is now, node by node.

The route is the one a lookup takes: each node names its next child by the path's next
segment, read with the node's own driver.
-/
namespace RuleOverlay

open Grove

variable {g₀ g₁ g : Grove}

/-- A lookup from the root of a lazy-instant tree, after any session, realizes the template
along the current route of the path. -/
theorem getDoc_lazyInstant_eq_realizeAlong {d : Driver} {name : String} {t : Bytes}
    {rules : List Rule} {root : NodeId} (path : String) (hReach : Reachable g₀)
    (hBuild : (Tree.build d .lazyInstant name t rules).exec g₀ = (.ok root, g₁))
    (hRun : Relation.ReflTransGen Step g₁ g) :
    ∃ ids, g.Route path root ids ∧ ((Tree.getDoc root path).exec g).1 = g.realizeAlong t ids := by
  have hs₀ := hReach.sound
  obtain ⟨-, hLt, hOrigin⟩ := Tree.build_root hs₀ hBuild
  have hs₁ : Sound g₁ := (Tree.build_changes hs₀ hBuild).sound hs₀
  have hs : Sound g := steps_sound hs₁ hRun
  have hKeeps := steps_keeps hs₁ hRun
  have hRoot := hOrigin.trans (hKeeps.origin hLt)
  have hRootLt : root < g.nodes.size := Nat.lt_of_lt_of_le hLt hKeeps.size_le
  obtain ⟨ids, hRoute⟩ : ∃ ids, g.Route path root ids := Route.exists hs hRootLt
  have hRe : ∀ x ∈ ids, (g.node x).recomputes = true := fun x hx =>
    Node.recomputes_of_lazyInstant ((hRoute.mode_eq hs x hx).trans hRoot.mode)
  refine ⟨ids, hRoute, ?_⟩
  rw [Tree.getDoc_exec_of_recomputes hs hRootLt hRoute hRe, hRoot.baseline]
  rfl

theorem getDoc_lazyInstant_after_set :
    let g₁ := ((Tree.build Driver.json .lazyInstant "conf" [] [Rule.empty "/a"]).exec Grove.empty).2
    let g := ((Tree.setRule 0 (Rule.empty "/a/b")).exec g₁).2
    Reachable Grove.empty ∧
      (Tree.build Driver.json .lazyInstant "conf" [] [Rule.empty "/a"]).exec Grove.empty =
        (.ok 0, g₁) ∧ Relation.ReflTransGen Step g₁ g ∧
      ∃ ids, g.Route "/a/b/c" 0 ids ∧ ((Tree.getDoc 0 "/a/b/c").exec g).1 = g.realizeAlong [] ids :=
  ⟨.refl, Prod.ext (by cbv) rfl, .single (.set (by cbv) _),
    getDoc_lazyInstant_eq_realizeAlong "/a/b/c" .refl (Prod.ext (by cbv) rfl) (.single (.set (by cbv) _))⟩

end RuleOverlay
