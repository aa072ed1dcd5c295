import RuleOverlay.Proofs.Built
/-! # Where eager and lazy trees fail

An eager build realizes each rule as it sets it, shallow first; a lazy tree realizes only when a
get walks a path, and then only with the processors bound last. So an eager build that succeeds
leaves no get of the lazy tree to fail: the two trees answer every path alike. The converse holds
when the rules bind each address once, and then the eager failure is the answer of a lazy get.
Without that, an eager build also runs processors that a later rule for the same address
replaces, and fails on them where a lazy tree never runs them.
-/
namespace RuleOverlay

open Grove

namespace Rule

variable {style : PathStyle}

theorem boundAt_append_of_forall_ne {rules rest : List Rule} {a : List String}
    (h : ∀ r ∈ rest, style.segments r.path ≠ a) :
    boundAt style (rules ++ rest) a = boundAt style rules a := by
  have hNil : rest.filter (fun r => style.segments r.path = a) = [] :=
    List.filter_eq_nil_iff.mpr fun r hr hEq => h r hr (of_decide_eq_true hEq)
  simp only [boundAt, List.filter_append, hNil, List.append_nil]

/-- When rules bind each address once, every prefix of a rule's address holds, once the rules
before it in the shallow-first order are set, what it holds in the end. -/
theorem boundAt_of_sorted {rules pre post : List Rule} {r : Rule}
    (hNodup : (rules.map fun r => style.segments r.path).Nodup)
    (hSorted : sortByLevel style rules = pre ++ r :: post) {a : List String}
    (ha : a <+: style.segments r.path) :
    boundAt style (pre ++ [r]) a = boundAt style rules a := by
  have hEnd : boundAt style rules a = boundAt style (pre ++ [r] ++ post) a := by
    rw [← List.append_cons, ← hSorted, boundAt_sortByLevel]
  rw [hEnd]
  refine (boundAt_append_of_forall_ne fun r' hr' hEq => ?_).symm
  have hPairwise : (pre ++ r :: post).Pairwise
      fun r r' => style.level r.path ≤ style.level r'.path := hSorted ▸ pairwise_sortByLevel
  have hLe : style.level r.path ≤ style.level r'.path :=
    (List.pairwise_cons.mp (List.pairwise_append.mp hPairwise).2.1).1 r' hr'
  have hSame : style.segments r'.path = style.segments r.path := by
    have hLen : (style.segments r.path).length ≤ a.length := by rw [← hEq]; exact hLe
    rw [hEq]
    exact ha.eq_of_length (Nat.le_antisymm ha.length_le hLen)
  have hNodupSorted : ((pre ++ r :: post).map fun r => style.segments r.path).Nodup := by
    rw [← hSorted]
    exact ((List.mergeSort_perm rules _).map _).nodup_iff.mpr hNodup
  rw [List.map_append, List.map_cons] at hNodupSorted
  exact (List.nodup_cons.mp (List.nodup_append.mp hNodupSorted).2.1).1
    (List.mem_map.mpr ⟨r', hr', hSame⟩)

end Rule

/-- A lazy build always succeeds, and its tree fails a get only where an eager build fails: when
the eager build succeeds, every get on both trees answers one document. When the rules bind each
address once, an eager build that fails leaves a get on the lazy tree that fails the same way. -/
theorem eager_build_fails_like_lazy_gets {g₀ : Grove} {d : Driver} {m : Mode} {name : String}
    {t : Bytes} {rules : List Rule} (hReach : Reachable g₀) (hLazy : m.isLazy = true) :
    ((Tree.build d m name t rules).exec g₀).1 = .ok g₀.nodes.size ∧
    (∀ root gE, (Tree.build d .eager name t rules).exec g₀ = (.ok root, gE) → ∀ p, ∃ doc,
      ((Tree.getDoc g₀.nodes.size p).exec ((Tree.build d m name t rules).exec g₀).2).1 =
        .ok doc ∧ ((Tree.getDoc root p).exec gE).1 = .ok doc) ∧
    ((rules.map fun r => d.paths.segments r.path).Nodup → ∀ e gE,
      (Tree.build d .eager name t rules).exec g₀ = (.error e, gE) → ∃ p,
        ((Tree.getDoc g₀.nodes.size p).exec ((Tree.build d m name t rules).exec g₀).2).1 =
          .error e) := by
  have hLazyBuild := Fresh.build g₀ d m name t rules
  rcases hL : (Tree.build d m name t rules).exec g₀ with ⟨_ | root, gL⟩
  · rw [hL] at hLazyBuild
    rw [hLazyBuild.1] at hLazy
    cases hLazy
  rw [hL] at hLazyBuild
  obtain ⟨rfl, placeL, hfL, hDomL⟩ := hLazyBuild
  refine ⟨rfl, fun root gE hE p => ?_, fun hNodup e gE hE => ?_⟩
  · have hEagerBuild := Fresh.build g₀ d .eager name t rules
    rw [hE] at hEagerBuild
    obtain ⟨-, placeE, hfE, hDomE⟩ := hEagerBuild
    obtain ⟨doc, hDoc⟩ := hfE.realizeInits_ok_of_eager rfl hDomE p
    refine ⟨doc, ?_, ?_⟩
    · rw [hfL.getDoc_eq (hReach.sound_of_build hL) hDomL]
      exact hDoc
    · rw [hfE.getDoc_eq (hReach.sound_of_build hE) hDomE]
      exact hDoc
  · have hEagerBuild := Fresh.build g₀ d .eager name t rules
    rw [hE] at hEagerBuild
    obtain ⟨-, pre, r, post, hSorted, hFail⟩ := hEagerBuild
    have hr : r ∈ rules := by
      have hMem : r ∈ Rule.sortByLevel d.paths rules := by rw [hSorted]; simp
      exact List.mem_mergeSort.mp hMem
    have hAll : (d.paths.segments r.path).take (d.paths.level r.path) = d.paths.segments r.path :=
      List.take_of_length_le (Nat.le_refl _)
    have hK : Nat.findGreatest
        (fun k => Rule.Addressed d.paths rules ((d.paths.segments r.path).take k))
        (d.paths.level r.path) = d.paths.level r.path :=
      Nat.findGreatest_eq (by rw [hAll]; exact .inr ⟨r, hr, List.prefix_refl _⟩)
    refine ⟨r.path, ?_⟩
    rw [hfL.getDoc_eq (hReach.sound_of_build hL) hDomL, hK, hAll, ← hFail]
    exact PathStyle.realizeInits_congr
      (fun a ha => (Rule.boundAt_of_sorted hNodup hSorted ((List.mem_inits _ _).mp ha)).symm) t

theorem eager_build_fails_like_lazy_gets_json :
    Reachable Grove.empty ∧ Mode.lazy.isLazy = true ∧
    ((Tree.build Driver.json .lazy "conf" [] [Rule.empty "/a"]).exec Grove.empty).1 =
      .ok Grove.empty.nodes.size ∧
    (∀ root gE,
      (Tree.build Driver.json .eager "conf" [] [Rule.empty "/a"]).exec Grove.empty =
        (.ok root, gE) →
      ∀ p, ∃ doc, ((Tree.getDoc Grove.empty.nodes.size p).exec
          ((Tree.build Driver.json .lazy "conf" [] [Rule.empty "/a"]).exec Grove.empty).2).1 =
        .ok doc ∧ ((Tree.getDoc root p).exec gE).1 = .ok doc) ∧
    (([Rule.empty "/a"].map fun r => Driver.json.paths.segments r.path).Nodup → ∀ e gE,
      (Tree.build Driver.json .eager "conf" [] [Rule.empty "/a"]).exec Grove.empty =
        (.error e, gE) →
      ∃ p, ((Tree.getDoc Grove.empty.nodes.size p).exec
          ((Tree.build Driver.json .lazy "conf" [] [Rule.empty "/a"]).exec Grove.empty).2).1 =
        .error e) :=
  ⟨.refl, rfl, eager_build_fails_like_lazy_gets .refl rfl⟩

theorem PathStyle.realizeInits_of_unbound {style : PathStyle}
    {bound : List String → List Processor} {l : List (List String)}
    (h : ∀ a ∈ l, bound a = [])
    (doc : Bytes) : style.realizeInits bound doc l = .ok doc := by
  induction l with
  | nil => rfl
  | cons a l ih =>
    rw [PathStyle.realizeInits_cons_of_ok (by rw [h a List.mem_cons_self]; rfl),
      ih fun b hb => h b (List.mem_cons_of_mem a hb)]

/-- Two rules for one address, the first with a raw processor that always fails, the second
binding nothing: the eager build runs the failing processor before the second rule replaces it,
and fails, while the lazy tree binds nothing anywhere and every get answers the template. -/
theorem eager_build_fails_on_replaced_rule :
    let broken : Processor :=
      .raw ⟨"", ⟨0, 0⟩, none, fun _ => .error (.error (.invalidDocument "broken"))⟩
    let rules := [Rule.mk "/a" [broken], Rule.empty "/a"]
    ((Tree.build Driver.json .eager "conf" [] rules).exec Grove.empty).1 =
      .error (.error (.realize "/a" ⟨"raw", "", .invalidDocument "broken"⟩)) ∧
    ∀ p, ((Tree.getDoc 0 p).exec
      ((Tree.build Driver.json .lazy "conf" [] rules).exec Grove.empty).2).1 = .ok [] := by
  intro broken rules
  refine ⟨by cbv, fun p => ?_⟩
  have hUnbound : ∀ a, Rule.boundAt Driver.json.paths rules a = [] := by
    intro a
    by_cases h : Driver.json.paths.segments "/a" = a <;> simp [rules, Rule.boundAt, Rule.empty, h]
  have hBuild : (Tree.build Driver.json .lazy "conf" [] rules).exec Grove.empty =
      (.ok 0, ((Tree.build Driver.json .lazy "conf" [] rules).exec Grove.empty).2) :=
    Prod.ext (by cbv) rfl
  have hFresh := Grove.Fresh.build Grove.empty Driver.json .lazy "conf" [] rules
  rw [hBuild] at hFresh
  obtain ⟨-, place, hf, hDom⟩ := hFresh
  have hs := Reachable.sound (.single (Step.build Grove.empty Driver.json .lazy "conf" [] rules))
  rw [hf.getDoc_eq hs hDom]
  exact PathStyle.realizeInits_of_unbound (fun a _ => hUnbound a) []

end RuleOverlay
