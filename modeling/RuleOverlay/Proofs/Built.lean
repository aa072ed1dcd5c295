import RuleOverlay.Proofs.Fresh
/-! # What a freshly built tree answers

Right after a build the tree is what its rules describe (`Grove.Fresh.build`), so every question
about it reads off the rules. A walk for a path from the root goes down the prefixes of the
path's segments for as long as they are addresses of the rules: a path exists when all its
segments are, its node holds what the last rule for it binds, the outline nests the addresses,
and a get realizes the template along the longest prefix that is an address, in every mode.
-/
namespace RuleOverlay

open Grove

theorem Node.recomputes_of_unrealized {n : Node} (hLazy : n.mode.isLazy = true)
    (hRealized : n.realized = false) : n.recomputes = true := by
  unfold Node.recomputes
  cases hMode : n.mode
  · rw [hMode] at hLazy; cases hLazy
  · simp [hRealized]
  · rfl

namespace Grove.Fresh

variable {g : Grove} {d : Driver} {m : Mode} {treeName : String} {t : Bytes} {base : NodeId}
  {bound : List String → List Processor} {place : List String → Option NodeId} {q : String}

theorem place_eq_none_of_prefix (hf : g.Fresh d m treeName t base bound place)
    {a b : List String} (h : place a = none) (hab : a <+: b) : place b = none := by
  cases hb : place b with
  | none => rfl
  | some i =>
    obtain ⟨j, hj⟩ := hf.place_prefix hb hab
    rw [h] at hj
    cases hj

theorem level_of_take (hf : g.Fresh d m treeName t base bound place) {j : Nat} {i : NodeId}
    (h : place ((d.paths.segments q).take j) = some i) (hj : j ≤ d.paths.level q) :
    (g.node i).level = j := by
  rw [hf.level h, List.length_take]
  exact Nat.min_eq_left hj

theorem next_of_lt (hf : g.Fresh d m treeName t base bound place) {j : Nat} {i : NodeId}
    (h : place ((d.paths.segments q).take j) = some i) (hj : j < d.paths.level q) :
    g.next q i = place ((d.paths.segments q).take (j + 1)) := by
  rw [Grove.next, hf.driver h, hf.level_of_take h (Nat.le_of_lt hj), hf.child? h,
    PathStyle.take_succ_segments hj]

theorem next_of_segments (hf : g.Fresh d m treeName t base bound place) {i : NodeId}
    (h : place (d.paths.segments q) = some i) : g.next q i = none := by
  have hLevel : (g.node i).level = d.paths.level q := hf.level h
  rw [Grove.next, hf.driver h, hLevel, hf.child? h,
    PathStyle.nameAt_of_level_lt (Nat.lt_succ_self _)]
  cases hc : place (d.paths.segments q ++ [""]) with
  | none => rfl
  | some c => exact absurd rfl (hf.named hc)

theorem name_of_segments (hf : g.Fresh d m treeName t base bound place) {i : NodeId}
    (h : place (d.paths.segments q) = some i) (hLevel : 0 < d.paths.level q) :
    (g.node i).name = d.paths.nameAt q (d.paths.level q) := by
  have hLast := PathStyle.getElem?_segments hLevel (Nat.le_refl (d.paths.level q))
  rw [hf.key h, List.getLast?_eq_getElem?]
  exact congrArg (·.getD treeName) hLast

theorem inits_drop_eq_cons {α : Type} (l : List α) {j : Nat} (hj : j ≤ l.length) :
    l.inits.drop j = l.take j :: l.inits.drop (j + 1) := by
  rw [List.drop_eq_getElem_cons (by rw [List.length_inits]; omega), List.getElem_inits]

/-- The walk for a path from the node at its first `j` segments visits the nodes at longer and
longer prefixes of its segments, up to the longest one the tree has. -/
theorem route (hf : g.Fresh d m treeName t base bound place) :
    ∀ (n : Nat) {j : Nat} {i : NodeId}, j + n = d.paths.level q →
      place ((d.paths.segments q).take j) = some i →
      ∃ K ids, j ≤ K ∧ K ≤ d.paths.level q ∧
        (∀ k, K < k → k ≤ d.paths.level q → place ((d.paths.segments q).take k) = none) ∧
        g.Route q i ids ∧
        List.Forall₂ (fun a x => place a = some x)
          (((d.paths.segments q).take K).inits.drop j) ids ∧
        place ((d.paths.segments q).take K) = some (ids.getLastD i) := by
  have hStop : ∀ {K : Nat} {i : NodeId}, K ≤ d.paths.level q →
      place ((d.paths.segments q).take K) = some i →
      List.Forall₂ (fun a x => place a = some x)
        (((d.paths.segments q).take K).inits.drop K) [i] := by
    intro K i hK h
    have hLen : ((d.paths.segments q).take K).length = K := by
      rw [List.length_take]; exact Nat.min_eq_left hK
    rw [inits_drop_eq_cons _ (Nat.le_of_eq hLen.symm), List.take_of_length_le (Nat.le_of_eq hLen),
      List.drop_eq_nil_of_le (by rw [List.length_inits]; omega)]
    exact .cons h .nil
  intro n
  induction n with
  | zero =>
    intro j i hj h
    have hAll : (d.paths.segments q).take j = d.paths.segments q :=
      List.take_of_length_le (Nat.le_of_eq hj.symm)
    refine ⟨j, [i], Nat.le_refl j, Nat.le_of_eq hj, fun k hk hk' => by omega,
      .last (hf.next_of_segments (hAll ▸ h)), hStop (Nat.le_of_eq hj) h, h⟩
  | succ n ih =>
    intro j i hj h
    have hNext := hf.next_of_lt h (by omega)
    cases hc : place ((d.paths.segments q).take (j + 1)) with
    | none =>
      refine ⟨j, [i], Nat.le_refl j, by omega, fun k hk hk' => ?_, .last (hNext.trans hc),
        hStop (by omega) h, h⟩
      exact hf.place_eq_none_of_prefix hc (List.take_prefix_take_left hk)
    | some c =>
      obtain ⟨K, ids, hjK, hKL, hBeyond, hRoute, hAddrs, hLast⟩ := ih (by omega) hc
      obtain ⟨rest, rfl⟩ := hRoute.eq_cons
      have hLen : d.paths.level q = (d.paths.segments q).length := rfl
      refine ⟨K, i :: c :: rest, by omega, hKL, hBeyond, .step (hNext.trans hc) hRoute, ?_, ?_⟩
      · rw [inits_drop_eq_cons _ (by rw [List.length_take]; omega), List.take_take,
          Nat.min_eq_left (by omega)]
        exact .cons h hAddrs
      · rw [List.getLastD_cons, List.getLastD_cons]
        rw [List.getLastD_cons] at hLast
        exact hLast

theorem exists_place_of_mem {addrs : List (List String)} {ids : List NodeId}
    (h : List.Forall₂ (fun a x => place a = some x) addrs ids) {x : NodeId} (hx : x ∈ ids) :
    ∃ a, place a = some x := by
  induction h with
  | nil => cases hx
  | cons ha _ ih =>
    rcases List.mem_cons.mp hx with rfl | hx
    · exact ⟨_, ha⟩
    · exact ih hx

theorem realizeAlong_eq (hf : g.Fresh d m treeName t base bound place)
    {addrs : List (List String)} {ids : List NodeId}
    (h : List.Forall₂ (fun a x => place a = some x) addrs ids) (doc : Bytes) :
    g.realizeAlong doc ids = d.paths.realizeInits bound doc addrs := by
  induction h generalizing doc with
  | nil => rfl
  | cons ha _ ih =>
    rw [realizeAlong, PathStyle.realizeInits, hf.path ha, hf.processors ha]
    congr 1
    funext next
    exact ih next

theorem not_fuel_zero (hf : g.Fresh d m treeName t base bound place) {j : Nat} {i : NodeId}
    (h : place ((d.paths.segments q).take j) = some i) (hj : j ≤ d.paths.level q) :
    j < g.nodes.size := by
  have hLt := hf.length_lt h
  rwa [List.length_take, Nat.min_eq_left (show j ≤ (d.paths.segments q).length from hj)] at hLt

/-- Asking from the node at a prefix of a path's segments whether the path exists answers
whether the tree has all its segments. -/
theorem hasFrom_eq (hf : g.Fresh d m treeName t base bound place) :
    ∀ (fuel : Nat) {j : Nat} {i : NodeId}, j ≤ d.paths.level q →
      place ((d.paths.segments q).take j) = some i → g.nodes.size < j + fuel →
      Tree.hasFrom g fuel i q = (place (d.paths.segments q)).isSome := by
  intro fuel
  induction fuel with
  | zero =>
    intro j i hj h hFuel
    have := hf.not_fuel_zero h hj
    omega
  | succ fuel ih =>
    intro j i hj h hFuel
    simp only [Tree.hasFrom, hf.driver h, hf.level_of_take h hj]
    by_cases hEnd : j = d.paths.level q
    · subst hEnd
      have hAll : (d.paths.segments q).take (d.paths.level q) = d.paths.segments q :=
        List.take_of_length_le (Nat.le_refl _)
      rw [hAll] at h
      rw [if_neg (Nat.lt_irrefl _), if_pos (beq_self_eq_true _), h, Option.isSome_some]
      by_cases hTop : d.paths.level q = 0
      · simp [hTop]
      · simp [hf.name_of_segments h (Nat.pos_of_ne_zero hTop)]
    · have hLt : j < d.paths.level q := Nat.lt_of_le_of_ne hj hEnd
      rw [if_neg (Nat.not_lt_of_le hj), if_neg (by rw [beq_iff_eq]; exact Ne.symm hEnd),
        hf.child? h, ← PathStyle.take_succ_segments hLt]
      cases hc : place ((d.paths.segments q).take (j + 1)) with
      | none => rw [hf.place_eq_none_of_prefix hc (List.take_prefix _ _)]; rfl
      | some c => exact ih (Nat.succ_le_of_lt hLt) hc (by omega)

theorem descend_eq (hf : g.Fresh d m treeName t base bound place) :
    ∀ (fuel : Nat) {j : Nat} {i : NodeId}, j ≤ d.paths.level q →
      place ((d.paths.segments q).take j) = some i → g.nodes.size < j + fuel →
      Tree.descend g d.paths q (d.paths.level q) fuel i = place (d.paths.segments q) := by
  intro fuel
  induction fuel with
  | zero =>
    intro j i hj h hFuel
    have := hf.not_fuel_zero h hj
    omega
  | succ fuel ih =>
    intro j i hj h hFuel
    simp only [Tree.descend, hf.level_of_take h hj]
    by_cases hLt : j < d.paths.level q
    · rw [if_pos hLt, hf.child? h, ← PathStyle.take_succ_segments hLt]
      cases hc : place ((d.paths.segments q).take (j + 1)) with
      | none => rw [hf.place_eq_none_of_prefix hc (List.take_prefix _ _)]; rfl
      | some c => exact ih (Nat.succ_le_of_lt hLt) hc (by omega)
    · rw [if_neg hLt, ← h, List.take_of_length_le (Nat.le_of_not_lt hLt)]

theorem has_eq (hf : g.Fresh d m treeName t base bound place) :
    Tree.has g base q = (place (d.paths.segments q)).isSome :=
  hf.hasFrom_eq (g.nodes.size + 1) (Nat.zero_le _)
    (hf.root : place ((d.paths.segments q).take 0) = some base) (by omega)

theorem node?_eq (hf : g.Fresh d m treeName t base bound place) :
    Tree.node? g base q = place (d.paths.segments q) := by
  have hRoot : place ((d.paths.segments q).take 0) = some base := hf.root
  simp only [Tree.node?, hf.driver hf.root, hf.level_of_take hRoot (Nat.zero_le _)]
  by_cases hTop : d.paths.level q = 0
  · have hNil : d.paths.segments q = [] := List.eq_nil_of_length_eq_zero hTop
    simp [hTop, hNil, hf.root]
  · have hLt : 0 < d.paths.level q := Nat.pos_of_ne_zero hTop
    have hTake : (d.paths.segments q).take 1 =
        (d.paths.segments q).take 0 ++ [d.paths.nameAt q 1] := PathStyle.take_succ_segments hLt
    rw [if_neg (Nat.not_lt_zero _), if_neg (by rw [beq_iff_eq]; exact hTop), hf.child? hRoot,
      ← hTake]
    cases hc : place ((d.paths.segments q).take 1) with
    | none => rw [hf.place_eq_none_of_prefix hc (List.take_prefix _ _)]; rfl
    | some c => exact hf.descend_eq (g.nodes.size + 1) hLt hc (by omega)

section Rules

variable {rules : List Rule}

theorem names_eq_namesBelow (hf : g.Fresh d m treeName t base bound place) (hs : Sound g)
    (hDom : ∀ b, (place b).isSome ↔ Rule.Addressed d.paths rules b) {a : List String}
    {i : NodeId} (h : place a = some i) :
    ((g.node i).children.map Prod.fst).mergeSort (fun x y => decide (x ≤ y)) =
      Rule.namesBelow d.paths rules a := by
  have hMem : ∀ x, x ∈ (g.node i).children.map Prod.fst ↔
      Rule.Addressed d.paths rules (a ++ [x]) := by
    intro x
    rw [← hDom, Option.isSome_iff_exists, List.mem_map]
    constructor
    · rintro ⟨⟨y, c⟩, hc, rfl⟩
      exact ⟨c, (hf.children h y c).mp hc⟩
    · rintro ⟨c, hc⟩
      exact ⟨(x, c), (hf.children h x c).mpr hc, rfl⟩
  refine List.Perm.eq_of_sortedLE List.sortedLE_mergeSort List.sortedLE_mergeSort ?_
  refine (List.perm_ext_iff_of_nodup (hs.keys_nodup i).mergeSort
    (List.nodup_dedup _).mergeSort).mpr fun x => ?_
  rw [List.mem_mergeSort, hMem, ← Rule.mem_namesBelow, Rule.namesBelow, List.mem_mergeSort]

theorem outlineFrom_eq (hf : g.Fresh d m treeName t base bound place) (hs : Sound g)
    (hDom : ∀ b, (place b).isSome ↔ Rule.Addressed d.paths rules b) :
    ∀ (fuel : Nat) {a : List String} {i : NodeId}, place a = some i →
      Tree.outlineFrom g fuel i = Rule.outlineFrom d.paths rules fuel a := by
  intro fuel
  induction fuel with
  | zero => intro a i h; rfl
  | succ fuel ih =>
    intro a i h
    have hKids : ∀ p ∈ (g.node i).children.mergeSort (fun x y => decide (x.1 ≤ y.1)),
        (p.1, Tree.outlineFrom g fuel p.2) =
          (fun x => (x, Rule.outlineFrom d.paths rules fuel (a ++ [x]))) p.1 := by
      intro p hp
      rw [ih ((hf.children h p.1 p.2).mp (List.mem_mergeSort.mp hp))]
    have hNames : ((g.node i).children.mergeSort fun x y => decide (x.1 ≤ y.1)).map Prod.fst =
        Rule.namesBelow d.paths rules a := by
      have hMap : ((g.node i).children.mergeSort fun x y => decide (x.1 ≤ y.1)).map Prod.fst =
          ((g.node i).children.map Prod.fst).mergeSort fun x y => decide (x ≤ y) :=
        List.map_mergeSort fun _ _ _ _ => rfl
      rw [hMap]
      exact hf.names_eq_namesBelow hs hDom h
    simp only [Tree.outlineFrom, Rule.outlineFrom]
    rw [List.map_congr_left hKids, ← hNames, List.map_map]
    rfl

theorem outline_eq (hf : g.Fresh d m treeName t base bound place) (hs : Sound g)
    (hDom : ∀ b, (place b).isSome ↔ Rule.Addressed d.paths rules b) :
    Tree.outline g base = Rule.outline d.paths rules := by
  have hDepth : Rule.depth d.paths rules < g.nodes.size := by
    have hRoot : 0 < g.nodes.size := hf.length_lt hf.root
    have hLe : Rule.depth d.paths rules ≤ g.nodes.size - 1 := Rule.depth_le fun r hr => by
      obtain ⟨i, hi⟩ := Option.isSome_iff_exists.mp
        ((hDom _).mpr (.inr ⟨r, hr, List.prefix_refl _⟩))
      have := hf.length_lt hi
      omega
    omega
  have hFuel : g.nodes.size + 1 =
      (Rule.depth d.paths rules + 1) + (g.nodes.size - Rule.depth d.paths rules) := by omega
  rw [Tree.outline, hf.outlineFrom_eq hs hDom (g.nodes.size + 1) hf.root, Rule.outline, hFuel,
    Rule.outlineFrom_add _ _ (by rw [List.length_nil]; omega)]

/-- A first get on a fresh tree realizes the template along the prefixes of the path's segments
up to the longest one that is an address of the rules, whatever the mode. -/
theorem getDoc_eq (hf : g.Fresh d m treeName t base bound place) (hs : Sound g)
    (hDom : ∀ b, (place b).isSome ↔ Rule.Addressed d.paths rules b) :
    ((Tree.getDoc base q).exec g).1 = d.paths.realizeInits bound t
      (((d.paths.segments q).take (Nat.findGreatest
        (fun k => Rule.Addressed d.paths rules ((d.paths.segments q).take k))
        (d.paths.level q))).inits) := by
  obtain ⟨K, ids, -, hKL, hBeyond, hRoute, hAddrs, hLast⟩ := hf.route (d.paths.level q)
    (Nat.zero_add _) (hf.root : place ((d.paths.segments q).take 0) = some base)
  have hK : Nat.findGreatest (fun k => Rule.Addressed d.paths rules ((d.paths.segments q).take k))
      (d.paths.level q) = K := by
    refine Nat.findGreatest_eq_iff.mpr
      ⟨hKL, fun _ => (hDom _).mp (by rw [hLast]; rfl), fun k hKk hk hAddr => ?_⟩
    have hSome := (hDom _).mpr hAddr
    rw [hBeyond k hKk hk] at hSome
    cases hSome
  rw [List.drop_zero] at hAddrs
  rw [hK]
  have hBase := (hf.lt hf.root).2
  cases hMode : m.isLazy
  · have hEager := Mode.eq_eager_of_isLazy_eq_false hMode
    rw [Tree.getDoc_exec_of_settled hs hBase hRoute fun x hx => ?_]
    · exact (hf.content hEager hLast).symm
    · obtain ⟨a, ha⟩ := exists_place_of_mem hAddrs hx
      exact Node.recomputes_of_eager (by rw [hf.mode ha, hEager])
  · rw [Tree.getDoc_exec_of_recomputes hs hBase hRoute fun x hx => ?_, hf.baseline,
      hf.realizeAlong_eq hAddrs]
    obtain ⟨a, ha⟩ := exists_place_of_mem hAddrs hx
    exact Node.recomputes_of_unrealized (by rw [hf.mode ha]; exact hMode) (hf.unrealized hMode ha)

theorem realizeInits_ok_of_eager (hf : g.Fresh d m treeName t base bound place)
    (hEager : m = .eager) (hDom : ∀ b, (place b).isSome ↔ Rule.Addressed d.paths rules b)
    (q : String) :
    ∃ doc, d.paths.realizeInits bound t
      (((d.paths.segments q).take (Nat.findGreatest
        (fun k => Rule.Addressed d.paths rules ((d.paths.segments q).take k))
        (d.paths.level q))).inits) = .ok doc := by
  have hAddr := @Nat.findGreatest_spec 0
    (fun k => Rule.Addressed d.paths rules ((d.paths.segments q).take k)) _ (d.paths.level q)
    (Nat.zero_le _) Rule.addressed_nil
  obtain ⟨i, hi⟩ := Option.isSome_iff_exists.mp ((hDom _).mpr hAddr)
  exact ⟨_, hf.content hEager hi⟩

end Rules

end Grove.Fresh

end RuleOverlay

namespace RuleOverlay

open Grove

theorem Grove.Reachable.sound_of_build {g₀ g : Grove} (hReach : Reachable g₀) {d : Driver}
    {m : Mode} {name : String} {t : Bytes} {rules : List Rule}
    {r : Except (Failure TreeError) NodeId}
    (h : (Tree.build d m name t rules).exec g₀ = (r, g)) : Sound g := by
  have hStep := Step.build g₀ d m name t rules
  rw [h] at hStep
  exact Reachable.sound (hReach.tail hStep)

/-- A tree just built answers what its rules say, in every mode: it has a path exactly when the
path's segments are an address of the rules, its outline nests those addresses, the node of an
address holds the processors of the last rule for it, and a first get realizes the template
along the path's prefixes up to the longest one that is an address. -/
theorem build_answers_rules {g₀ g : Grove} {d : Driver} {m : Mode} {name : String} {t : Bytes}
    {rules : List Rule} {root : NodeId} (hReach : Reachable g₀)
    (hBuild : (Tree.build d m name t rules).exec g₀ = (.ok root, g)) :
    (∀ q, Tree.has g root q = true ↔ Rule.Addressed d.paths rules (d.paths.segments q)) ∧
    Tree.outline g root = Rule.outline d.paths rules ∧
    (∀ q, Rule.Addressed d.paths rules (d.paths.segments q) →
      ∃ i, Tree.node? g root q = some i ∧
      (g.node i).processors = Rule.boundAt d.paths rules (d.paths.segments q)) ∧
    (∀ p, ((Tree.getDoc root p).exec g).1 = d.paths.realizeInits (Rule.boundAt d.paths rules) t
      (((d.paths.segments p).take (Nat.findGreatest
        (fun k => Rule.Addressed d.paths rules ((d.paths.segments p).take k))
        (d.paths.level p))).inits)) := by
  have hs : Sound g := hReach.sound_of_build hBuild
  have hFresh := Fresh.build g₀ d m name t rules
  rw [hBuild] at hFresh
  obtain ⟨-, place, hf, hDom⟩ := hFresh
  refine ⟨fun q => ?_, hf.outline_eq hs hDom, fun q hq => ?_, fun p => hf.getDoc_eq hs hDom⟩
  · rw [hf.has_eq, hDom]
  · obtain ⟨i, hi⟩ := Option.isSome_iff_exists.mp ((hDom _).mpr hq)
    exact ⟨i, by rw [hf.node?_eq, hi], hf.processors hi⟩

theorem build_answers_rules_two_levels :
    let g := ((Tree.build Driver.json .lazy "conf" [] [Rule.empty "/a/b"]).exec Grove.empty).2
    Reachable Grove.empty ∧
      (Tree.build Driver.json .lazy "conf" [] [Rule.empty "/a/b"]).exec Grove.empty = (.ok 0, g) ∧
      (∀ q, Tree.has g 0 q = true ↔
        Rule.Addressed Driver.json.paths [Rule.empty "/a/b"] (Driver.json.paths.segments q)) ∧
      Tree.outline g 0 = Rule.outline Driver.json.paths [Rule.empty "/a/b"] ∧
      (∀ q, Rule.Addressed Driver.json.paths [Rule.empty "/a/b"]
          (Driver.json.paths.segments q) →
        ∃ i, Tree.node? g 0 q = some i ∧ (g.node i).processors =
          Rule.boundAt Driver.json.paths [Rule.empty "/a/b"] (Driver.json.paths.segments q)) ∧
      (∀ p, ((Tree.getDoc 0 p).exec g).1 =
        Driver.json.paths.realizeInits (Rule.boundAt Driver.json.paths [Rule.empty "/a/b"]) []
          (((Driver.json.paths.segments p).take (Nat.findGreatest
            (fun k => Rule.Addressed Driver.json.paths [Rule.empty "/a/b"]
              ((Driver.json.paths.segments p).take k))
            (Driver.json.paths.level p))).inits)) :=
  ⟨.refl, Prod.ext (by cbv) rfl, build_answers_rules .refl (Prod.ext (by cbv) rfl)⟩

end RuleOverlay
