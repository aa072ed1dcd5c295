import RuleOverlay.Proofs.Addresses
/-! # Trees fresh from rules

A tree being built from rules is described by where each of its nodes sits (`Grove.Fresh`):
the nodes from `base` on are the tree's, each at one address, the root at the empty one and
every other node one name below a node of the tree. Every node carries the driver, mode and
name of the build and the path its address gives, and holds the processors bound at its
address. An eager node holds the document realized along its address and was sprouted from
the document realized along its parent's; a lazy node has not been realized yet.

Building keeps this description: planting the root starts it, growing a child extends it by one
address, and binding a rule's processors at an address updates what that address holds. A set
walks from the root down the rule's address, growing the nodes that are missing, and binds at
the end (`Grove.Fresh.setFrom_exec`). Eager binding realizes at once, which is right only because
no node below the address exists yet: the rules are taken shallow first.
-/
namespace RuleOverlay

open Grove

theorem PathStyle.take_succ_segments {style : PathStyle} {path : String} {j : Nat}
    (hj : j < style.level path) :
    (style.segments path).take (j + 1) =
      (style.segments path).take j ++ [style.nameAt path (j + 1)] := by
  have hName := PathStyle.getElem?_segments (Nat.succ_pos j) (Nat.succ_le_of_lt hj)
  rw [Nat.succ_sub_one] at hName
  rw [List.take_add_one, hName, Option.toList_some]

namespace Grove

/-- A tree fresh from rules, mid-build: the tree's nodes are those `place` gives an address, all
from `base` on; each carries the build's driver and mode, the path and name of its address, and
the processors `bound` binds there. An eager node holds the document realized along its address
and started from the one realized along its parent's; a lazy node is not realized yet. -/
structure Fresh (g : Grove) (d : Driver) (m : Mode) (treeName : String) (t : Bytes)
    (base : NodeId) (bound : List String → List Processor)
    (place : List String → Option NodeId) : Prop where
  root : place [] = some base
  lt : ∀ {a i}, place a = some i → base ≤ i ∧ i < g.nodes.size
  inj : ∀ {a b i}, place a = some i → place b = some i → a = b
  parent : ∀ {a x i}, place (a ++ [x]) = some i → ∃ j, place a = some j
  named : ∀ {a x i}, place (a ++ [x]) = some i → x ≠ ""
  level : ∀ {a i}, place a = some i → (g.node i).level = a.length
  driver : ∀ {a i}, place a = some i → (g.node i).driver = d
  mode : ∀ {a i}, place a = some i → (g.node i).mode = m
  path : ∀ {a i}, place a = some i → (g.node i).path = d.paths.pathOf a
  key : ∀ {a i}, place a = some i → (g.node i).name = a.getLast?.getD treeName
  children : ∀ {a i}, place a = some i →
    ∀ x j, (x, j) ∈ (g.node i).children ↔ place (a ++ [x]) = some j
  processors : ∀ {a i}, place a = some i → (g.node i).processors = bound a
  unbound : ∀ {a}, place a = none → bound a = []
  baseline : (g.node base).baseline = t
  unrealized : m.isLazy = true → ∀ {a i}, place a = some i → (g.node i).realized = false
  content : m = .eager → ∀ {a i}, place a = some i →
    d.paths.realizeInits bound t a.inits = .ok (g.node i).content
  inherits : m = .eager → ∀ {a x i}, place (a ++ [x]) = some i →
    d.paths.realizeInits bound t a.inits = .ok (g.node i).baseline

end Grove

theorem Mode.eq_eager_of_isLazy_eq_false {m : Mode} (h : m.isLazy = false) : m = .eager := by
  cases m
  · rfl
  · cases h
  · cases h

namespace Grove.Fresh

variable {g : Grove} {d : Driver} {m : Mode} {treeName : String} {t : Bytes} {base : NodeId}
  {bound : List String → List Processor} {place : List String → Option NodeId}

theorem child? (hf : g.Fresh d m treeName t base bound place) {a : List String} {i : NodeId}
    (h : place a = some i) (x : String) : (g.node i).child? x = place (a ++ [x]) := by
  cases hc : (g.node i).child? x with
  | some j => exact ((hf.children h x j).mp (Node.mem_of_child? hc)).symm
  | none =>
    cases hp : place (a ++ [x]) with
    | none => rfl
    | some j => exact absurd ((hf.children h x j).mpr hp) (Node.child?_eq_none_iff.mp hc j)

theorem place_prefix (hf : g.Fresh d m treeName t base bound place) {b : List String}
    {i : NodeId} (h : place b = some i) {a : List String} (hab : a <+: b) :
    ∃ j, place a = some j := by
  induction b using List.reverseRecOn generalizing i with
  | nil => rw [List.prefix_nil.mp hab]; exact ⟨i, h⟩
  | append_singleton b x ih =>
    rcases List.prefix_concat_iff.mp hab with rfl | hab'
    · exact ⟨i, h⟩
    · obtain ⟨j, hj⟩ := hf.parent h
      exact ih hj hab'

theorem length_lt (hf : g.Fresh d m treeName t base bound place) {b : List String} {i : NodeId}
    (h : place b = some i) : b.length < g.nodes.size := by
  have hLengths : b.inits.map List.length = List.range (b.length + 1) := by
    refine List.ext_getElem (by simp) fun n h₁ _ => ?_
    simp only [List.getElem_map, List.getElem_inits, List.length_take, List.getElem_range]
    simp only [List.length_map, List.length_inits] at h₁
    omega
  have hInits : b.inits.Nodup := List.Nodup.of_map _ (hLengths ▸ List.nodup_range)
  let ids := b.inits.filterMap place
  have hLen : ids.length = b.length + 1 := by
    rw [List.length_filterMap_eq_countP, ← List.length_inits]
    refine List.countP_eq_length.mpr fun a ha => ?_
    obtain ⟨j, hj⟩ := hf.place_prefix h ((List.mem_inits a b).mp ha)
    simp [hj]
  have hNodup : ids.Nodup := hInits.filterMap fun _ _ _ hj hj' => hf.inj hj hj'
  have hSub : ids ⊆ List.range g.nodes.size := fun j hj => by
    obtain ⟨a, -, ha⟩ := List.mem_filterMap.mp hj
    exact List.mem_range.mpr (hf.lt ha).2
  have hLe := (List.subperm_of_subset hNodup hSub).length_le
  rw [hLen, List.length_range] at hLe
  omega

theorem plant (g : Grove) (d : Driver) (m : Mode) (treeName : String) (t : Bytes) :
    (g.add (Node.root d m treeName t)).1.Fresh d m treeName t g.nodes.size (fun _ => [])
      (fun a => if a = [] then some g.nodes.size else none) := by
  have hPlace : ∀ {a : List String} {i : NodeId},
      (if a = [] then some g.nodes.size else none) = some i → a = [] ∧ i = g.nodes.size := by
    intro a i h
    split at h
    · exact ⟨‹_›, (Option.some.inj h).symm⟩
    · cases h
  have hRoot : ∀ {a : List String} {i : NodeId},
      (if a = [] then some g.nodes.size else none) = some i →
        (g.add (Node.root d m treeName t)).1.node i = Node.root d m treeName t := by
    intro a i h
    rw [(hPlace h).2, node_add_size]
  have hNotChild : ∀ {a : List String} {x : String} {i : NodeId},
      ¬ (if a ++ [x] = [] then some g.nodes.size else none) = some i := by
    intro a x i h
    exact List.append_ne_nil_of_right_ne_nil a (List.cons_ne_nil x []) (hPlace h).1
  refine
    { root := if_pos rfl
      lt := fun h => by rw [(hPlace h).2]; simp
      inj := fun h h' => (hPlace h).1.trans (hPlace h').1.symm
      parent := fun h => absurd h hNotChild
      named := fun h => absurd h hNotChild
      level := fun h => by rw [hRoot h, (hPlace h).1]; rfl
      driver := fun h => by rw [hRoot h]; rfl
      mode := fun h => by rw [hRoot h]; rfl
      path := fun h => by rw [hRoot h, (hPlace h).1]; rfl
      key := fun h => by rw [hRoot h, (hPlace h).1]; rfl
      children := fun h x j => by
        rw [hRoot h]
        exact ⟨fun hMem => absurd hMem List.not_mem_nil, fun h' => absurd h' hNotChild⟩
      processors := fun h => by rw [hRoot h]; rfl
      unbound := fun _ => rfl
      baseline := by rw [node_add_size]; rfl
      unrealized := fun hLazy _ _ h => by rw [hRoot h]; simp [Node.root, hLazy]
      content := fun _ _ _ h => by rw [hRoot h, (hPlace h).1]; rfl
      inherits := fun _ _ _ _ h => absurd h hNotChild }

/-- Sprouting a missing child of a tree node, and hanging it under the node, extends the tree by
the child's address. The child starts from the node's document with nothing bound, which is
what realizing along its address gives. -/
theorem sprout (hf : g.Fresh d m treeName t base bound place) {a : List String} {i : NodeId}
    {x : String} (h : place a = some i) (hx : x ≠ "") (hNone : place (a ++ [x]) = none) :
    ((g.add ((g.node i).sprout x)).1.modifyNode i (·.withChild x g.nodes.size)).Fresh
      d m treeName t base bound
      (fun b => if b = a ++ [x] then some g.nodes.size else place b) := by
  have hi := (hf.lt h).2
  have hSize : ((g.add ((g.node i).sprout x)).1).nodes.size = g.nodes.size + 1 := by simp
  have hNew : ((g.add ((g.node i).sprout x)).1.modifyNode i (·.withChild x g.nodes.size)).node
      g.nodes.size = (g.node i).sprout x := by
    rw [node_modifyNode_of_ne (Nat.ne_of_gt hi), node_add_size]
  have hOld : ∀ {b j}, place b = some j →
      ((g.add ((g.node i).sprout x)).1.modifyNode i (·.withChild x g.nodes.size)).node j =
        if j = i then (g.node i).withChild x g.nodes.size else g.node j := by
    intro b j hb
    rw [node_modifyNode (by rw [hSize]; exact Nat.lt_succ_of_lt hi), node_add_of_lt (hf.lt hb).2]
    split
    · subst j; rfl
    · rfl
  have hPlace : ∀ {b j}, (if b = a ++ [x] then some g.nodes.size else place b) = some j →
      (b = a ++ [x] ∧ j = g.nodes.size) ∨ (b ≠ a ++ [x] ∧ place b = some j) := by
    intro b j hb
    split at hb
    · exact .inl ⟨‹_›, (Option.some.inj hb).symm⟩
    · exact .inr ⟨‹_›, hb⟩
  have hField : ∀ {α : Type} {b j} (F : Node → α), place b = some j →
      (∀ n : Node, F (n.withChild x g.nodes.size) = F n) →
      F (((g.add ((g.node i).sprout x)).1.modifyNode i (·.withChild x g.nodes.size)).node j) =
        F (g.node j) := by
    intro α b j F hb hF
    rw [hOld hb]
    split
    · subst j; exact hF _
    · rfl
  have hBound : bound (a ++ [x]) = [] := hf.unbound hNone
  have hGrows : ∀ (b : List String) (z : String), b ≠ b ++ [z] := fun b z hEq => by
    simpa using congrArg List.length hEq
  have hLong : ∀ {b : List String} {y : String}, b ++ [y] = a ++ [x] → b = a ∧ y = x := by
    intro b y hEq
    have h := List.append_inj' hEq rfl
    exact ⟨h.1, List.singleton_inj.mp h.2⟩
  refine
    { root := by rw [if_neg (List.append_ne_nil_of_right_ne_nil a (List.cons_ne_nil x [])).symm]
                 exact hf.root
      lt := fun {b j} hb => ?lt
      inj := fun {b b' j} hb hb' => ?inj
      parent := fun {b y k} hb => ?parent
      named := fun {b y k} hb => ?named
      level := fun {b j} hb => ?level
      driver := fun {b j} hb => ?driver
      mode := fun {b j} hb => ?mode
      path := fun {b j} hb => ?path
      key := fun {b j} hb => ?key
      children := fun {b j} hb y k => ?children
      processors := fun {b j} hb => ?processors
      unbound := fun {b} hb => ?unbound
      baseline := ?baseline
      unrealized := fun hLazy {b j} hb => ?unrealized
      content := fun hEager {b j} hb => ?content
      inherits := fun hEager {b y k} hb => ?inherits }
  case lt =>
    simp only [size_modifyNode, size_add]
    rcases hPlace hb with ⟨-, hj⟩ | ⟨-, hb⟩
    · subst hj
      exact ⟨Nat.le_of_lt (Nat.lt_of_le_of_lt (hf.lt h).1 hi), Nat.lt_succ_self _⟩
    · exact ⟨(hf.lt hb).1, Nat.lt_succ_of_lt (hf.lt hb).2⟩
  case inj =>
    rcases hPlace hb with ⟨hEq, hj⟩ | ⟨-, hb⟩ <;>
      rcases hPlace hb' with ⟨hEq', hj'⟩ | ⟨-, hb'⟩
    · exact hEq.trans hEq'.symm
    · subst hj; exact absurd (hf.lt hb').2 (Nat.lt_irrefl _)
    · subst hj'; exact absurd (hf.lt hb).2 (Nat.lt_irrefl _)
    · exact hf.inj hb hb'
  case parent =>
    rcases hPlace hb with ⟨hEq, -⟩ | ⟨-, hb⟩
    · rw [(hLong hEq).1]
      exact ⟨i, by rw [if_neg (hGrows a x)]; exact h⟩
    · obtain ⟨k', hk'⟩ := hf.parent hb
      by_cases hEq : b = a ++ [x]
      · exact ⟨_, if_pos hEq⟩
      · exact ⟨k', by rw [if_neg hEq]; exact hk'⟩
  case named =>
    rcases hPlace hb with ⟨hEq, -⟩ | ⟨-, hb⟩
    · rw [(hLong hEq).2]; exact hx
    · exact hf.named hb
  case level =>
    rcases hPlace hb with ⟨hEq, hj⟩ | ⟨-, hb⟩
    · subst hEq hj
      rw [hNew]
      show (g.node i).level + 1 = _
      rw [hf.level h, List.length_append, List.length_singleton]
    · rw [hField Node.level hb fun _ => rfl]; exact hf.level hb
  case driver =>
    rcases hPlace hb with ⟨-, hj⟩ | ⟨-, hb⟩
    · subst hj; rw [hNew]; exact hf.driver h
    · rw [hField Node.driver hb fun _ => rfl]; exact hf.driver hb
  case mode =>
    rcases hPlace hb with ⟨-, hj⟩ | ⟨-, hb⟩
    · subst hj; rw [hNew]; exact hf.mode h
    · rw [hField Node.mode hb fun _ => rfl]; exact hf.mode hb
  case path =>
    rcases hPlace hb with ⟨hEq, hj⟩ | ⟨-, hb⟩
    · subst hEq hj
      rw [hNew, PathStyle.pathOf_concat]
      show (g.node i).driver.paths.append (g.node i).path x = _
      rw [hf.driver h, hf.path h]
    · rw [hField Node.path hb fun _ => rfl]; exact hf.path hb
  case key =>
    rcases hPlace hb with ⟨hEq, hj⟩ | ⟨-, hb⟩
    · subst hEq hj
      rw [hNew, List.getLast?_concat]; rfl
    · rw [hField Node.name hb fun _ => rfl]; exact hf.key hb
  case children =>
    rcases hPlace hb with ⟨hEq, hj⟩ | ⟨hNe, hb⟩
    · subst hEq hj
      rw [hNew, if_neg (hGrows (a ++ [x]) y).symm]
      refine ⟨fun hMem => absurd hMem List.not_mem_nil, fun hk => ?_⟩
      obtain ⟨c, hc⟩ := hf.parent hk
      rw [hNone] at hc
      cases hc
    · rw [hOld hb]
      by_cases hji : j = i
      · rw [if_pos hji]
        have hba : b = a := hf.inj hb (hji ▸ h)
        rw [hba, Node.mem_withChild, hf.children h]
        by_cases hy : y = x
        · rw [hy]
          simp [hNone, eq_comm]
        · rw [if_neg (fun hEq => hy (hLong hEq).2)]
          simp [hy]
      · have hOther : b ++ [y] ≠ a ++ [x] := fun hEq => by
          rw [(hLong hEq).1] at hb
          exact hji (Option.some.inj (hb.symm.trans h))
        rw [if_neg hji, hf.children hb, if_neg hOther]
  case processors =>
    rcases hPlace hb with ⟨hEq, hj⟩ | ⟨-, hb⟩
    · subst hEq hj
      rw [hNew, hBound]
      rfl
    · rw [hField Node.processors hb fun _ => rfl]; exact hf.processors hb
  case unbound =>
    split at hb
    · cases hb
    · exact hf.unbound hb
  case baseline =>
    rw [hField Node.baseline hf.root fun _ => rfl]; exact hf.baseline
  case unrealized =>
    rcases hPlace hb with ⟨-, hj⟩ | ⟨-, hb⟩
    · subst hj; rw [hNew]; simp [Node.sprout, hf.mode h, hLazy]
    · rw [hField Node.realized hb fun _ => rfl]; exact hf.unrealized hLazy hb
  case content =>
    rcases hPlace hb with ⟨hEq, hj⟩ | ⟨-, hb⟩
    · subst hEq hj
      rw [hNew, PathStyle.inits_concat,
        PathStyle.realizeInits_concat_of_ok (hf.content hEager h), hBound]
      rfl
    · rw [hField Node.content hb fun _ => rfl]; exact hf.content hEager hb
  case inherits =>
    rcases hPlace hb with ⟨hEq, hj⟩ | ⟨-, hb⟩
    · subst hj
      rw [(hLong hEq).1, hNew]
      exact hf.content hEager h
    · rw [hField Node.baseline hb fun _ => rfl]; exact hf.inherits hEager hb

theorem grow_exec (hf : g.Fresh d m treeName t base bound place) {a : List String} {i : NodeId}
    {x : String} (h : place a = some i) (hx : x ≠ "") :
    ∃ c g' place', (Tree.grow i x).exec g = (.ok c, g') ∧
      g'.Fresh d m treeName t base bound place' ∧ place' (a ++ [x]) = some c ∧
      (∀ {b j}, place b = some j → place' b = some j) ∧
      (∀ {b j}, place' b = some j → place b = some j ∨ b = a ++ [x]) := by
  rw [Tree.grow_exec]
  cases hc : g.child? i x with
  | none =>
    have hNone : place (a ++ [x]) = none := by rw [← hf.child? h x]; exact hc
    refine ⟨_, _, _, rfl, hf.sprout h hx hNone, if_pos rfl, fun {b j} hb => ?_,
      fun {b j} hb => ?_⟩
    · rw [if_neg fun hEq => by rw [hEq, hNone] at hb; cases hb]
      exact hb
    · split at hb
      · exact .inr ‹_›
      · exact .inl hb
  | some c =>
    have hSome : place (a ++ [x]) = some c := by rw [← hf.child? h x]; exact hc
    exact ⟨c, g, place, rfl, hf, hSome, fun hb => hb, fun hb => .inl hb⟩

theorem note (hf : g.Fresh d m treeName t base bound place) (ps : List Processor) :
    (g.note ps).Fresh d m treeName t base bound place := { hf with }

/-- Changing what the node at an address holds, and binding processors there, keeps the tree
fresh, provided the node holds what the new binding realizes and no other node's document
depends on the address. -/
theorem modify (hf : g.Fresh d m treeName t base bound place) {s : List String} {i : NodeId}
    (h : place s = some i) {f : Node → Node} {ps : List Processor}
    {bound' : List String → List Processor}
    (hBound : ∀ b, bound' b = if b = s then ps else bound b)
    (hKeep : ∀ n : Node, (f n).level = n.level ∧ (f n).driver = n.driver ∧
      (f n).mode = n.mode ∧ (f n).path = n.path ∧ (f n).name = n.name ∧
      (f n).children = n.children ∧ (f n).baseline = n.baseline)
    (hProcessors : (f (g.node i)).processors = ps)
    (hRealized : m.isLazy = true → (f (g.node i)).realized = false)
    (hContent : m = .eager → d.paths.realizeInits bound' t s.inits = .ok (f (g.node i)).content)
    (hLeaf : m = .eager → ∀ {b j}, place b = some j → b.length ≤ s.length) :
    (g.modifyNode i f).Fresh d m treeName t base bound' place := by
  have hi := (hf.lt h).2
  have hNode : ∀ {b j}, place b = some j →
      (g.modifyNode i f).node j = if j = i then f (g.node i) else g.node j := by
    intro b j hb
    rw [node_modifyNode hi]
    split
    · subst j; rfl
    · rfl
  have hField : ∀ {α : Type} {b j} (F : Node → α), place b = some j →
      (∀ n : Node, F (f n) = F n) →
      F ((g.modifyNode i f).node j) = F (g.node j) := by
    intro α b j F hb hF
    rw [hNode hb]
    split
    · subst j; exact hF _
    · rfl
  have hOff : ∀ {l : List (List String)}, s ∉ l →
      d.paths.realizeInits bound' t l = d.paths.realizeInits bound t l := fun hs =>
    PathStyle.realizeInits_congr (fun b hb => by rw [hBound, if_neg (ne_of_mem_of_not_mem hb hs)]) t
  have hNotPrefix : ∀ {b : List String}, b.length ≤ s.length → b ≠ s → s ∉ b.inits := by
    intro b hLen hNe hMem
    have hPre := (List.mem_inits s b).mp hMem
    exact hNe (hPre.eq_of_length (Nat.le_antisymm hPre.length_le hLen)).symm
  exact
    { root := hf.root
      lt := fun hb => by rw [size_modifyNode]; exact hf.lt hb
      inj := hf.inj
      parent := hf.parent
      named := hf.named
      level := fun hb => by rw [hField Node.level hb fun n => (hKeep n).1]; exact hf.level hb
      driver := fun hb => by rw [hField Node.driver hb fun n => (hKeep n).2.1]; exact hf.driver hb
      mode := fun hb => by rw [hField Node.mode hb fun n => (hKeep n).2.2.1]; exact hf.mode hb
      path := fun hb => by rw [hField Node.path hb fun n => (hKeep n).2.2.2.1]; exact hf.path hb
      key := fun hb => by rw [hField Node.name hb fun n => (hKeep n).2.2.2.2.1]; exact hf.key hb
      children := fun hb => by
        rw [hField Node.children hb fun n => (hKeep n).2.2.2.2.2.1]; exact hf.children hb
      processors := fun {b j} hb => by
        rw [hNode hb, hBound]
        by_cases hbs : b = s
        · subst hbs
          rw [if_pos (Option.some.inj (hb.symm.trans h)), if_pos rfl, hProcessors]
        · rw [if_neg fun (hji : j = i) => hbs (hf.inj hb (by rw [hji]; exact h)), if_neg hbs]
          exact hf.processors hb
      unbound := fun {b} hb => by
        rw [hBound, if_neg fun hbs => by rw [hbs, h] at hb; cases hb]
        exact hf.unbound hb
      baseline := by
        rw [hField Node.baseline hf.root fun n => (hKeep n).2.2.2.2.2.2]; exact hf.baseline
      unrealized := fun hLazy {b j} hb => by
        rw [hNode hb]
        split
        · exact hRealized hLazy
        · exact hf.unrealized hLazy hb
      content := fun hEager {b j} hb => by
        rw [hNode hb]
        by_cases hbs : b = s
        · subst hbs
          rw [if_pos (Option.some.inj (hb.symm.trans h))]
          exact hContent hEager
        · rw [if_neg fun (hji : j = i) => hbs (hf.inj hb (by rw [hji]; exact h)),
            hOff (hNotPrefix (hLeaf hEager hb) hbs)]
          exact hf.content hEager hb
      inherits := fun hEager {b y j} hb => by
        have hShort : b.length < s.length := by
          have := hLeaf hEager hb
          simp only [List.length_append, List.length_singleton] at this
          omega
        rw [hField Node.baseline hb fun n => (hKeep n).2.2.2.2.2.2,
          hOff (hNotPrefix (Nat.le_of_lt hShort) fun hEq => by rw [hEq] at hShort; omega)]
        exact hf.inherits hEager hb }

theorem update_lazy (hf : g.Fresh d m treeName t base bound place) (hLazy : m.isLazy = true)
    {s : List String} {i : NodeId} (h : place s = some i) {ps : List Processor}
    {bound' : List String → List Processor}
    (hBound : ∀ b, bound' b = if b = s then ps else bound b) :
    ∃ g', (Tree.update i ps).exec g = (.ok (), g') ∧
      g'.Fresh d m treeName t base bound' place := by
  have hMode : (g.node i).mode.isLazy = true := by rw [hf.mode h]; exact hLazy
  have hNotEager : m ≠ .eager := fun hEager => by rw [hEager] at hLazy; cases hLazy
  rw [Tree.update_exec, if_pos hMode]
  exact ⟨_, rfl, hf.modify h hBound (fun _ => ⟨rfl, rfl, rfl, rfl, rfl, rfl, rfl⟩) rfl
    (fun _ => rfl) (fun hEager => absurd hEager hNotEager)
    (fun hEager => absurd hEager hNotEager)⟩

theorem not_mem_inits_of_length_lt {a s : List String} (h : a.length < s.length) :
    s ∉ a.inits := fun hs => by
  have := ((List.mem_inits s a).mp hs).length_le
  omega

/-- Realizing along an address of an eager fresh tree, with new processors bound there, runs them
on the baseline of the address's node. -/
theorem realizeInits_rebind (hf : g.Fresh d m treeName t base bound place) (hEager : m = .eager)
    {s : List String} {i : NodeId} (h : place s = some i) {ps : List Processor}
    {bound' : List String → List Processor}
    (hBound : ∀ b, bound' b = if b = s then ps else bound b) :
    d.paths.realizeInits bound' t s.inits = realizeAt (g.node i).path (g.node i).baseline ps := by
  rw [hf.path h]
  rcases List.eq_nil_or_concat s with hs | ⟨a, x, hs⟩
  · subst hs
    have hi : i = base := Option.some.inj (h.symm.trans hf.root)
    show d.paths.realizeInits bound' t ([] ++ [[]]) = _
    rw [PathStyle.realizeInits_concat_of_ok rfl, hBound, if_pos rfl, hi, hf.baseline]
  · rw [List.concat_eq_append] at hs
    subst hs
    have hShort : a.length < (a ++ [x]).length := by simp
    have hParent : d.paths.realizeInits bound' t a.inits = .ok (g.node i).baseline := by
      rw [← hf.inherits hEager h]
      refine PathStyle.realizeInits_congr (fun b hb => ?_) t
      rw [hBound, if_neg (ne_of_mem_of_not_mem hb (not_mem_inits_of_length_lt hShort))]
    rw [PathStyle.inits_concat, PathStyle.realizeInits_concat_of_ok hParent, hBound, if_pos rfl]

/-- Binding at the deepest address of an eager fresh tree realizes the processors there at once:
the binding fails as the realization along the address does, and otherwise the node holds what
the address now realizes. -/
theorem update_eager (hf : g.Fresh d m treeName t base bound place) (hEager : m = .eager)
    {s : List String} {i : NodeId} (h : place s = some i) {ps : List Processor}
    {bound' : List String → List Processor}
    (hBound : ∀ b, bound' b = if b = s then ps else bound b)
    (hLeaf : ∀ {b j}, place b = some j → b.length ≤ s.length) :
    ∃ g', (Tree.update i ps).exec g =
        ((d.paths.realizeInits bound' t s.inits).map fun _ => (), g') ∧
      ∀ c, d.paths.realizeInits bound' t s.inits = .ok c →
        g'.Fresh d m treeName t base bound' place := by
  have hMode : (g.node i).mode.isLazy = false := by rw [hf.mode h, hEager]; rfl
  rw [Tree.update_exec, if_neg (by rw [hMode]; decide), ← hf.realizeInits_rebind hEager h hBound]
  cases hc : d.paths.realizeInits bound' t s.inits with
  | error e => exact ⟨_, rfl, fun _ hc' => by cases hc'⟩
  | ok c =>
    refine ⟨_, rfl, fun c' hc' => ?_⟩
    exact (hf.note _).modify h hBound (fun _ => ⟨rfl, rfl, rfl, rfl, rfl, rfl, rfl⟩) rfl
      (fun hLazy => by rw [hEager] at hLazy; cases hLazy) (fun _ => hc) (fun _ => hLeaf)

/-- Setting a rule from the node at a prefix of its address walks down the address, growing the
nodes that are missing, and binds at its end: the tree stays fresh with the rest of the address
placed, and what is left to do is the binding. -/
theorem setFrom_exec (hf : g.Fresh d m treeName t base bound place) (r : Rule) (fuel : Nat)
    {j : Nat} {i : NodeId} (hj : j ≤ (d.paths.segments r.path).length)
    (hFuel : (d.paths.segments r.path).length < j + fuel)
    (h : place ((d.paths.segments r.path).take j) = some i) :
    ∃ g' place' i', g'.Fresh d m treeName t base bound place' ∧
      place' (d.paths.segments r.path) = some i' ∧
      (∀ {b k}, place b = some k → place' b = some k) ∧
      (∀ {b k}, place' b = some k → place b = some k ∨ b <+: d.paths.segments r.path) ∧
      (Tree.setFrom fuel i r).exec g = (Tree.update i' r.processors).exec g' := by
  induction fuel generalizing j i g place with
  | zero => omega
  | succ fuel ih =>
    have hLevel : (g.node i).level = j := by
      rw [hf.level h, List.length_take]
      omega
    have hTarget : d.paths.level r.path = (d.paths.segments r.path).length := rfl
    rw [Tree.setFrom_succ_exec, hf.driver h, hLevel, hTarget]
    by_cases hEnd : (d.paths.segments r.path).length = j
    · rw [if_pos hEnd]
      rw [List.take_of_length_le (Nat.le_of_eq hEnd)] at h
      exact ⟨g, place, i, hf, h, fun hb => hb, fun hb => .inl hb, rfl⟩
    · rw [if_neg hEnd, if_neg (by omega)]
      have hTake := PathStyle.take_succ_segments (by rw [hTarget]; omega : j < d.paths.level r.path)
      obtain ⟨c, g₁, place₁, hGrow, hf₁, hc, hKeep₁, hNew₁⟩ := hf.grow_exec h
        (PathStyle.nameAt_ne_empty (Nat.succ_pos j) (by rw [hTarget]; omega))
      rw [hGrow]
      obtain ⟨g', place', i', hf', hi', hKeep', hNew', hExec⟩ :=
        @ih g₁ place₁ hf₁ (j + 1) c (by omega) (by omega) (by rw [hTake]; exact hc)
      refine ⟨g', place', i', hf', hi', fun hb => hKeep' (hKeep₁ hb), fun hb => ?_, hExec⟩
      rcases hNew' hb with hb₁ | hPre
      · rcases hNew₁ hb₁ with hb | hEq
        · exact .inl hb
        · exact .inr (hEq ▸ hTake ▸ List.take_prefix _ _)
      · exact .inr hPre

/-- The walk of `set` in a fresh tree has fuel for every level of a path in the tree's style. -/
theorem level_le_deepestLevel (hf : g.Fresh d m treeName t base bound place) (path : String) :
    d.paths.level path ≤ Tree.deepestLevel g path := by
  have hDeep := Tree.level_le_deepestLevel (hf.lt hf.root).2 path
  rwa [hf.driver hf.root] at hDeep

/-- Setting rules one after another, shallow first, keeps the tree fresh with every address of
the rules set so far placed and holding what those rules bind; an eager tree stops at the first
rule whose address fails to realize, with that failure. -/
theorem setAll_exec {done : List Rule} (rest : List Rule)
    (hf : g.Fresh d m treeName t base (Rule.boundAt d.paths done) place)
    (hDom : ∀ b, (place b).isSome ↔ Rule.Addressed d.paths done b)
    (hSorted : (done ++ rest).Pairwise fun r r' => d.paths.level r.path ≤ d.paths.level r'.path) :
    match (Tree.setAll base rest).exec g with
    | (.ok _, g') => ∃ place', g'.Fresh d m treeName t base (Rule.boundAt d.paths (done ++ rest))
        place' ∧ ∀ b, (place' b).isSome ↔ Rule.Addressed d.paths (done ++ rest) b
    | (.error e, _) => m = .eager ∧ ∃ pre r post, rest = pre ++ r :: post ∧
        d.paths.realizeInits (Rule.boundAt d.paths (done ++ pre ++ [r])) t
          (d.paths.segments r.path).inits = .error e := by
  induction rest generalizing done g place with
  | nil =>
    simp only [Tree.setAll, Grow.exec_pure, List.append_nil]
    exact ⟨place, hf, hDom⟩
  | cons r rest ih =>
    rw [Tree.setAll_cons_exec, Tree.setRule_exec]
    have hDeep := hf.level_le_deepestLevel r.path
    obtain ⟨g₁, place₁, i₁, hf₁, hi₁, hKeep₁, hNew₁, hExec₁⟩ :=
      hf.setFrom_exec r (Tree.deepestLevel g r.path + 1) (Nat.zero_le _)
        (by show _ < 0 + _; exact Nat.lt_of_le_of_lt hDeep (by omega))
        (hf.root : place ((d.paths.segments r.path).take 0) = some base)
    rw [hExec₁]
    have hBound : ∀ b, Rule.boundAt d.paths (done ++ [r]) b =
        if b = d.paths.segments r.path then r.processors else Rule.boundAt d.paths done b :=
      Rule.boundAt_concat r
    have hDom₁ : ∀ b, (place₁ b).isSome ↔ Rule.Addressed d.paths (done ++ [r]) b := by
      intro b
      rw [Rule.addressed_concat, ← hDom b]
      constructor
      · intro hb
        obtain ⟨k, hk⟩ := Option.isSome_iff_exists.mp hb
        rcases hNew₁ hk with hk | hPre
        · exact .inl (by rw [hk]; rfl)
        · exact .inr hPre
      · rintro (hb | hPre)
        · obtain ⟨k, hk⟩ := Option.isSome_iff_exists.mp hb
          rw [hKeep₁ hk]
          rfl
        · obtain ⟨k, hk⟩ := hf₁.place_prefix hi₁ hPre
          rw [hk]
          rfl
    have hSorted₁ : ((done ++ [r]) ++ rest).Pairwise
        fun r r' => d.paths.level r.path ≤ d.paths.level r'.path := by
      rwa [List.append_assoc, List.singleton_append]
    have hRest : ∀ {g₂ : Grove},
        g₂.Fresh d m treeName t base (Rule.boundAt d.paths (done ++ [r])) place₁ →
        match (Tree.setAll base rest).exec g₂ with
        | (.ok _, g') => ∃ place', g'.Fresh d m treeName t base
            (Rule.boundAt d.paths (done ++ r :: rest)) place' ∧
            ∀ b, (place' b).isSome ↔ Rule.Addressed d.paths (done ++ r :: rest) b
        | (.error e, _) => m = .eager ∧ ∃ pre r' post, r :: rest = pre ++ r' :: post ∧
            d.paths.realizeInits (Rule.boundAt d.paths (done ++ pre ++ [r'])) t
              (d.paths.segments r'.path).inits = .error e := by
      intro g₂ hf₂
      have hNext := ih hf₂ hDom₁ hSorted₁
      rcases hRun : (Tree.setAll base rest).exec g₂ with ⟨_ | e, g₃⟩
      · rw [hRun] at hNext
        obtain ⟨hEager, pre, r', post, hRest, hFail⟩ := hNext
        refine ⟨hEager, r :: pre, r', post, by rw [hRest]; rfl, ?_⟩
        simpa only [List.append_assoc, List.singleton_append, List.cons_append, List.nil_append]
          using hFail
      · rw [hRun] at hNext
        simpa only [List.append_assoc, List.singleton_append] using hNext
    rcases hMode : m.isLazy with _ | _
    · have hEager := Mode.eq_eager_of_isLazy_eq_false hMode
      have hLeaf : ∀ {b k}, place₁ b = some k →
          b.length ≤ (d.paths.segments r.path).length := by
        intro b k hb
        rcases hNew₁ hb with hb | hPre
        · rcases (hDom b).mp (by rw [hb]; rfl) with rfl | ⟨r', hr', hPre⟩
          · exact Nat.zero_le _
          · have hLe := (List.pairwise_append.mp hSorted).2.2 r' hr' r List.mem_cons_self
            exact Nat.le_trans hPre.length_le hLe
        · exact hPre.length_le
      obtain ⟨g₂, hExec₂, hOk⟩ := hf₁.update_eager hEager hi₁ hBound hLeaf
      rw [hExec₂]
      cases hc : d.paths.realizeInits (Rule.boundAt d.paths (done ++ [r])) t
          (d.paths.segments r.path).inits with
      | error e => exact ⟨hEager, [], r, rest, rfl, by simpa only [List.append_nil] using hc⟩
      | ok c => exact hRest (hOk c hc)
    · obtain ⟨g₂, hExec₂, hf₂⟩ := hf₁.update_lazy hMode hi₁ hBound
      rw [hExec₂]
      exact hRest hf₂

/-- A build plants a root and sets the rules on it shallow first. A successful build leaves a
fresh tree at the root it answers, placed at exactly the addresses of the rules, each holding
what the last rule for it binds. Only an eager build fails, at the first rule in that order
whose address fails to realize. -/
theorem build (g : Grove) (d : Driver) (m : Mode) (treeName : String) (t : Bytes)
    (rules : List Rule) :
    match (Tree.build d m treeName t rules).exec g with
    | (.ok root, g') => root = g.nodes.size ∧ ∃ place,
        g'.Fresh d m treeName t root (Rule.boundAt d.paths rules) place ∧
        ∀ b, (place b).isSome ↔ Rule.Addressed d.paths rules b
    | (.error e, _) => m = .eager ∧
        ∃ pre r post, Rule.sortByLevel d.paths rules = pre ++ r :: post ∧
        d.paths.realizeInits (Rule.boundAt d.paths (pre ++ [r])) t
          (d.paths.segments r.path).inits = .error e := by
  have hf₀ : (g.add (Node.root d m treeName t)).1.Fresh d m treeName t g.nodes.size
      (Rule.boundAt d.paths []) (fun a => if a = [] then some g.nodes.size else none) :=
    plant g d m treeName t
  have hDom₀ : ∀ b, ((fun a => if a = [] then some g.nodes.size else none) b).isSome ↔
      Rule.Addressed d.paths [] b := by
    intro b
    by_cases hb : b = [] <;> simp [hb, Rule.Addressed]
  have hRun := setAll_exec (Rule.sortByLevel d.paths rules) hf₀ hDom₀
    (by rw [List.nil_append]; exact Rule.pairwise_sortByLevel)
  rw [Tree.build_exec]
  rcases hAll : (Tree.setAll g.nodes.size (Rule.sortByLevel d.paths rules)).exec
      (g.add (Node.root d m treeName t)).1 with ⟨_ | e, g'⟩
  · rw [hAll] at hRun
    obtain ⟨hEager, pre, r, post, hSorted, hFail⟩ := hRun
    exact ⟨hEager, pre, r, post, hSorted, by simpa only [List.nil_append] using hFail⟩
  · rw [hAll] at hRun
    obtain ⟨place, hf, hDom⟩ := hRun
    have hBound : Rule.boundAt d.paths ([] ++ Rule.sortByLevel d.paths rules) =
        Rule.boundAt d.paths rules :=
      funext fun a => by rw [List.nil_append, Rule.boundAt_sortByLevel]
    refine ⟨rfl, place, hBound ▸ hf, fun b => ?_⟩
    rw [hDom b, List.nil_append, Rule.addressed_sortByLevel]

theorem of_build {g₀ g : Grove} {d : Driver} {m : Mode} {treeName : String} {t : Bytes}
    {rules : List Rule} {root : NodeId}
    (h : (Tree.build d m treeName t rules).exec g₀ = (.ok root, g)) :
    root = g₀.nodes.size ∧ ∃ place,
      g.Fresh d m treeName t root (Rule.boundAt d.paths rules) place ∧
      ∀ b, (place b).isSome ↔ Rule.Addressed d.paths rules b := by
  have hBuilt := build g₀ d m treeName t rules
  rw [h] at hBuilt
  exact hBuilt

end Grove.Fresh

end RuleOverlay
