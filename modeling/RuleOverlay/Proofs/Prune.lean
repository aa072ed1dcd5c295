import RuleOverlay.Proofs.Depth
import RuleOverlay.Proofs.Eager
/-! # Deleting a subtree

`del` on a root walks down along the segments of a path and cuts, from the node the segments
but the last lead to, the child the last one names; a path of the root's level is refused before
anything else is read. What the cut does to the tree rests on two things the spec asks of every
tree: every node below the root reads paths as the root does (`Grove.OneStyle`), and each node
hangs at one place only (`Grove.OnePlace`). Then a path is found after the deletion exactly when
it was found before and does not extend the deleted one; no node changes anything but its
children; and an eager lookup along the deleted path answers the document of the deepest node
left on it.

A graft checks the path text of the node it hangs and the name of its driver, nothing more. With
a delimiter that overlaps itself two lists of names can give one path, so a node can be grafted
at a second place of its own tree, and a cut below it is seen at both places.
-/
namespace RuleOverlay

open Grove

namespace Grove

variable {g g' : Grove} {r c n : NodeId} {ns ms : List String}

def OneStyle (g : Grove) (r : NodeId) : Prop :=
  ∀ ns n, g.Descends r ns n → (g.node n).driver.paths = (g.node r).driver.paths

def OnePlace (g : Grove) (r : NodeId) : Prop :=
  ∀ ns ns' n, g.Descends r ns n → g.Descends r ns' n → ns = ns'

section FreshTree

variable {d : Driver} {m : Mode} {treeName : String} {t : Bytes} {base : NodeId}
  {bound : List String → List Processor} {place : List String → Option NodeId}
  (hf : g.Fresh d m treeName t base bound place)
include hf

/-- In a tree fresh from rules, a descent from the node of an address ends at the node of the
address extended by the descent's names. -/
theorem Fresh.place_of_descends {a : List String} (hc : place a = some c)
    (h : g.Descends c ms n) : place (a ++ ms) = some n := by
  induction h generalizing a with
  | here => simpa using hc
  | down hMem _ ih => simpa using ih ((hf.children hc _ _).mp hMem)

theorem Fresh.oneStyle : g.OneStyle base := fun ns n h => by
  have hn : place ns = some n := by simpa using hf.place_of_descends hf.root h
  rw [hf.driver hn, hf.driver hf.root]

theorem Fresh.onePlace : g.OnePlace base := fun ns ns' n h h' =>
  hf.inj (by simpa using hf.place_of_descends hf.root h)
    (by simpa using hf.place_of_descends hf.root h')

end FreshTree

theorem Descends.trans (h : g.Descends r ns c) (h' : g.Descends c ms n) :
    g.Descends r (ns ++ ms) n := by
  induction h with
  | here => exact h'
  | down hMem _ ih => exact .down hMem (ih h')

theorem Descends.split : ∀ {r : NodeId} {ns ms : List String} {n : NodeId},
    g.Descends r (ns ++ ms) n → ∃ c, g.Descends r ns c ∧ g.Descends c ms n
  | r, [], _, _, h => ⟨r, .here r, h⟩
  | _, _ :: _, _, _, h => by
    cases h with
    | down hMem hRest =>
      obtain ⟨c, hc, hcn⟩ := Descends.split hRest
      exact ⟨c, .down hMem hc, hcn⟩

theorem Descends.lt (hs : Sound g) (h : g.Descends r ns n) (hr : r < g.nodes.size) :
    n < g.nodes.size := by
  induction h with
  | here => exact hr
  | down hMem _ ih => exact ih (hs.child_lt hMem)

theorem Descends.deterministic (hs : Sound g) {n' : NodeId} (h : g.Descends r ns n)
    (h' : g.Descends r ns n') : n = n' := by
  induction h generalizing n' with
  | here => cases h'; rfl
  | down hMem _ ih =>
    cases h' with
    | down hMem' hRest' =>
      have hSame := (Node.child?_eq_some_of_mem (hs.keys_nodup _) hMem).symm.trans
        (Node.child?_eq_some_of_mem (hs.keys_nodup _) hMem')
      cases hSame
      exact ih hRest'

theorem descends_snoc_iff (hs : Sound g) {x : String} :
    g.Descends r (ns ++ [x]) n ↔ ∃ c, g.Descends r ns c ∧ (g.node c).child? x = some n := by
  constructor
  · intro h
    obtain ⟨c, hc, hLast⟩ := Descends.split h
    cases hLast with
    | down hMem hRest =>
      cases hRest
      exact ⟨c, hc, Node.child?_eq_some_of_mem (hs.keys_nodup c) hMem⟩
  · rintro ⟨c, hc, hChild⟩
    exact hc.trans (.down (Node.mem_of_child? hChild) (.here n))

theorem Descends.level_eq (hs : Sound g) (hRoot : (g.node r).level = 0) (h : g.Descends r ns n) :
    (g.node n).level = ns.length := by
  rw [(h.shape hs).1, hRoot, Nat.zero_add]

section Cut

variable {y : NodeId} {x : String} (hy : y < g.nodes.size)
include hy

theorem node_cut (i : NodeId) :
    (g.modifyNode y (·.withoutChild x)).node i =
      { g.node i with children := ((g.modifyNode y (·.withoutChild x)).node i).children } := by
  rw [node_modifyNode hy]
  split
  · rfl
  · rfl

theorem mem_children_cut {i c : NodeId} {z : String} :
    (z, c) ∈ ((g.modifyNode y (·.withoutChild x)).node i).children ↔
      (z, c) ∈ (g.node i).children ∧ (i = y → z ≠ x) := by
  rw [node_modifyNode hy]
  split
  · rename_i hi
    subst hi
    simp [Node.mem_withoutChild]
  · rename_i hi
    simp [hi]

theorem Descends.of_cut (h : (g.modifyNode y (·.withoutChild x)).Descends c ms n) :
    g.Descends c ms n := by
  induction h with
  | here => exact .here _
  | down hMem _ ih => exact .down ((mem_children_cut hy).mp hMem).1 ih

theorem OneStyle.cut (hStyle : g.OneStyle r) : (g.modifyNode y (·.withoutChild x)).OneStyle r :=
  fun ns n h => by
    rw [node_cut hy n, node_cut hy r]
    exact hStyle ns n (h.of_cut hy)

/-- A descent that keeps off the cut edge stays. The cut node lies below the root along `mid`
only, so a descent through it has `mid` before it, and goes on by another name. -/
theorem Descends.to_cut (hPlace : g.OnePlace r) {mid : List String} (hMid : g.Descends r mid y)
    (h : g.Descends c ms n) :
    ∀ {pre : List String}, g.Descends r pre c → ¬ mid ++ [x] <+: pre ++ ms →
      (g.modifyNode y (·.withoutChild x)).Descends c ms n := by
  induction h with
  | here => exact fun _ _ => .here _
  | @down c c' n z ms hMem _ ih =>
    intro pre hc hAvoid
    have hKept : c = y → z ≠ x := by
      rintro rfl rfl
      obtain rfl := hPlace pre mid c hc hMid
      exact hAvoid ⟨ms, by simp⟩
    exact .down ((mem_children_cut hy).mpr ⟨hMem, hKept⟩)
      (ih (hc.trans (.down hMem (.here c'))) (by simpa using hAvoid))

end Cut

/-- Cutting the child `x` from the node `mid` leads to removes from the tree exactly the descents
along names that extend `mid ++ [x]`, when that node lies below the root at one place. -/
theorem descends_cut_iff (hs : Sound g) (hPlace : g.OnePlace r) (hr : r < g.nodes.size)
    {mid : List String} {x : String} {y : NodeId} (hMid : g.Descends r mid y) :
    (g.modifyNode y (·.withoutChild x)).Descends r ns n ↔
      g.Descends r ns n ∧ ¬ mid ++ [x] <+: ns := by
  have hy := hMid.lt hs hr
  constructor
  · intro h
    refine ⟨h.of_cut hy, ?_⟩
    rintro ⟨rest, rfl⟩
    have h' : (g.modifyNode y (·.withoutChild x)).Descends r (mid ++ x :: rest) n := by
      simpa using h
    obtain ⟨y', hy', hRest⟩ := Descends.split h'
    cases (hy'.of_cut hy).deterministic hs hMid
    cases hRest with
    | down hMem _ => exact ((mem_children_cut hy).mp hMem).2 rfl rfl
  · rintro ⟨h, hAvoid⟩
    exact Descends.to_cut hy hPlace hMid h (.here r) (by simpa using hAvoid)

end Grove

namespace Tree

variable {g : Grove} {r : NodeId} {q : String}

theorem nameAt_next_segment {style : PathStyle} {pre rest : List String} {x : String}
    (hSegs : pre ++ x :: rest = style.segments q) : style.nameAt q (pre.length + 1) = x :=
  nameAt_of_segments hSegs.symm (by simp)

theorem level_of_append {style : PathStyle} {pre rest : List String}
    (hSegs : pre ++ rest = style.segments q) : style.level q = pre.length + rest.length := by
  rw [PathStyle.level, ← hSegs, List.length_append]

section Lookups

variable (hs : Sound g) (hStyle : g.OneStyle r) (hRoot : (g.node r).level = 0)
include hs hStyle hRoot

theorem hasFrom_descends :
    ∀ {fuel : Nat} {c : NodeId} {pre rest : List String}, g.Descends r pre c →
      pre ++ rest = (g.node r).driver.paths.segments q →
      hasFrom g fuel c q = true → ∃ n, g.Descends c rest n
  | 0, _, _, _, _, _, h => by simp [hasFrom] at h
  | fuel + 1, c, pre, rest, hc, hSegs, h => by
    cases rest with
    | nil => exact ⟨c, .here c⟩
    | cons x rest =>
      have hLevel := hc.level_eq hs hRoot
      have hPaths := hStyle pre c hc
      have hTarget := level_of_append hSegs
      have hName := nameAt_next_segment hSegs
      simp only [List.length_cons] at hTarget
      simp only [hasFrom, hPaths, hLevel, hTarget, hName] at h
      rw [if_neg (by omega), if_neg (by simp)] at h
      cases hChild : (g.node c).child? x with
      | none => rw [hChild] at h; cases h
      | some c' =>
        rw [hChild] at h
        have hc' : g.Descends r (pre ++ [x]) c' := (descends_snoc_iff hs).mpr ⟨c, hc, hChild⟩
        obtain ⟨n, hn⟩ := hasFrom_descends hc' (by simpa using hSegs) h
        exact ⟨n, .down (Node.mem_of_child? hChild) hn⟩

/-- A node a lookup from a node below a root can reach along the rest of the path's segments is
found, given fuel for the rest. -/
theorem hasFrom_of_descends {n : NodeId} {rest : List String} (h : g.Descends c rest n) :
    ∀ {fuel : Nat} {pre : List String}, g.Descends r pre c →
      pre ++ rest = (g.node r).driver.paths.segments q → rest.length < fuel →
      hasFrom g fuel c q = true := by
  induction h with
  | @here c =>
    intro fuel pre hc hSegs hFuel
    obtain ⟨fuel, rfl⟩ : ∃ f, fuel = f + 1 := ⟨fuel - 1, by simp at hFuel; omega⟩
    have hLevel := hc.level_eq hs hRoot
    have hTarget := level_of_append hSegs
    simp only [List.length_nil, Nat.add_zero] at hTarget
    simp only [hasFrom, hStyle pre c hc, hLevel, hTarget, Nat.lt_irrefl, if_false, beq_self_eq_true,
      if_true, Bool.or_eq_true, beq_iff_eq]
    rcases List.eq_nil_or_concat pre with rfl | ⟨init, x, rfl⟩
    · exact .inl rfl
    · refine .inr ?_
      simp only [List.concat_eq_append] at hc hSegs ⊢
      rw [hc.name_eq hs (by simp), List.getLast_concat, List.length_append, List.length_singleton]
      have hLast : init ++ [x] = (g.node r).driver.paths.segments q := by simpa using hSegs
      exact (nameAt_next_segment hLast).symm
  | @down c c' n x rest hMem _ ih =>
    intro fuel pre hc hSegs hFuel
    obtain ⟨fuel, rfl⟩ : ∃ f, fuel = f + 1 := ⟨fuel - 1, by simp at hFuel; omega⟩
    have hLevel := hc.level_eq hs hRoot
    have hTarget := level_of_append hSegs
    have hName := nameAt_next_segment hSegs
    have hChild := Node.child?_eq_some_of_mem (hs.keys_nodup c) hMem
    simp only [List.length_cons] at hTarget hFuel
    simp only [hasFrom, hStyle pre c hc, hLevel, hTarget, hName, hChild]
    rw [if_neg (by omega), if_neg (by simp)]
    exact ih ((descends_snoc_iff hs).mpr ⟨c, hc, hChild⟩) (by simpa using hSegs) (by omega)

theorem has_iff_descends (hr : r < g.nodes.size) (q : String) :
    has g r q = true ↔ ∃ n, g.Descends r ((g.node r).driver.paths.segments q) n := by
  constructor
  · exact hasFrom_descends hs hStyle hRoot (.here r) rfl
  · rintro ⟨n, hn⟩
    exact hasFrom_of_descends hs hStyle hRoot hn (.here r) rfl
      (Nat.lt_succ_of_lt (hn.length_lt hs hr))

/-- A walk for a path from a node below a root ends at the deepest node the root lies above
along a prefix of the path's segments. -/
theorem route_last_deepest {c : NodeId} {ids : List NodeId} (h : g.Route q c ids) :
    ∀ {pre : List String}, g.Descends r pre c → pre <+: (g.node r).driver.paths.segments q →
      ∃ k z, pre.length ≤ k ∧ k ≤ ((g.node r).driver.paths.segments q).length ∧
        g.Descends r (((g.node r).driver.paths.segments q).take k) z ∧ ids.getLastD c = z ∧
        (k < ((g.node r).driver.paths.segments q).length →
          ∀ z', ¬ g.Descends r (((g.node r).driver.paths.segments q).take (k + 1)) z') := by
  induction h with
  | @last c hNone =>
    intro pre hc hPre
    obtain ⟨rest, hSegs⟩ := hPre
    have hTakePre : (pre ++ rest).take pre.length = pre := by simp
    refine ⟨pre.length, c, le_rfl, by rw [← hSegs, List.length_append]; omega,
      by rw [← hSegs, hTakePre]; exact hc, rfl,
      fun hLt z' hz' => ?_⟩
    rw [← hSegs] at hLt hz'
    cases rest with
    | nil => simp at hLt
    | cons x rest =>
      have hTake : (pre ++ x :: rest).take (pre.length + 1) = pre ++ [x] := by
        rw [List.take_append, List.take_of_length_le (by omega),
          Nat.add_sub_cancel_left]
        rfl
      rw [hTake] at hz'
      obtain ⟨c', hc', hChild⟩ := (descends_snoc_iff hs).mp hz'
      cases hc'.deterministic hs hc
      have hName := nameAt_next_segment hSegs
      rw [Grove.next, hStyle pre c hc, hc.level_eq hs hRoot, hName, hChild] at hNone
      cases hNone
  | @step c c' ids hSome hRest ih =>
    intro pre hc hPre
    obtain ⟨rest, hSegs⟩ := hPre
    cases rest with
    | nil =>
      have hPast : (g.node c).driver.paths.level q < (g.node c).level + 1 := by
        rw [hStyle pre c hc, hc.level_eq hs hRoot, PathStyle.level, ← hSegs]
        simp
      rw [Grove.next, PathStyle.nameAt_of_level_lt hPast] at hSome
      have hChild := hs.hangs (Node.mem_of_child? hSome)
      exact absurd hChild.key (hs.named (by rw [hChild.level]; omega))
    | cons x rest =>
      have hName := nameAt_next_segment hSegs
      rw [Grove.next, hStyle pre c hc, hc.level_eq hs hRoot, hName] at hSome
      have hc' : g.Descends r (pre ++ [x]) c' := (descends_snoc_iff hs).mpr ⟨c, hc, hSome⟩
      obtain ⟨k, z, hk, hkLe, hz, hLast, hDeepest⟩ := ih hc' ⟨rest, by simpa using hSegs⟩
      obtain ⟨rest', rfl⟩ := hRest.eq_cons
      refine ⟨k, z, by simp at hk; omega, hkLe, hz, ?_, hDeepest⟩
      simp only [List.getLastD_cons] at hLast ⊢
      exact hLast

/-- Below a root of one path style, deleting from a node at `pre` a path of the segments
`pre ++ mid ++ [x]` cuts `x` from the node `mid` leads to, and changes nothing when there is
none. -/
theorem delFrom_exec_cut {x : String} :
    ∀ {mid : List String} (fuel : Nat) {c : NodeId} {pre : List String}, g.Descends r pre c →
      pre ++ mid ++ [x] = (g.node r).driver.paths.segments q →
      (∀ y, g.Descends c mid y → mid.length < fuel →
        (delFrom fuel c q).exec g = (.ok (), g.modifyNode y (·.withoutChild x))) ∧
      ((∀ y, ¬ g.Descends c mid y) → (delFrom fuel c q).exec g = (.ok (), g))
  | [], fuel, c, pre, hc, hSegs => by
    simp only [List.append_nil] at hSegs
    have hLevel := hc.level_eq hs hRoot
    have hTarget := level_of_append hSegs
    have hName := nameAt_next_segment hSegs
    simp only [List.length_singleton] at hTarget
    refine ⟨fun y hy hFuel => ?_, fun hNone => absurd (.here c) (hNone c)⟩
    cases hy
    obtain ⟨fuel, rfl⟩ : ∃ f, fuel = f + 1 := ⟨fuel - 1, by simp at hFuel; omega⟩
    rw [delFrom_succ_exec, hStyle pre c hc, hLevel, hTarget, if_neg (by omega), if_neg (by omega),
      if_pos rfl, hName]
  | z :: mid, fuel, c, pre, hc, hSegs => by
    have hSegs' : pre ++ z :: (mid ++ [x]) = (g.node r).driver.paths.segments q := by
      simpa using hSegs
    have hLevel := hc.level_eq hs hRoot
    have hTarget := level_of_append hSegs'
    have hName := nameAt_next_segment hSegs'
    simp only [List.length_cons, List.length_append] at hTarget
    have hStep : ∀ f, (delFrom (f + 1) c q).exec g =
        ((g.node c).child? z).elim (.ok (), g) fun c' => (delFrom f c' q).exec g := by
      intro f
      rw [delFrom_succ_exec, hStyle pre c hc, hLevel, hTarget, hName, if_neg (by omega),
        if_neg (by omega), if_neg (by omega), Grove.child?]
      cases (g.node c).child? z <;> rfl
    refine ⟨fun y hy hFuel => ?_, fun hNone => ?_⟩
    · cases hy with
      | down hMem hRest =>
        obtain ⟨fuel, rfl⟩ : ∃ f, fuel = f + 1 := ⟨fuel - 1, by simp at hFuel; omega⟩
        rw [hStep, Node.child?_eq_some_of_mem (hs.keys_nodup c) hMem, Option.elim_some]
        exact (delFrom_exec_cut fuel (hc.trans (.down hMem (.here _))) (by simpa using hSegs)).1
          y hRest (by simp at hFuel; omega)
    · cases fuel with
      | zero => rfl
      | succ f =>
        rw [hStep]
        cases hChild : (g.node c).child? z with
        | none => rfl
        | some c' =>
          have hMem := Node.mem_of_child? hChild
          rw [Option.elim_some]
          exact (delFrom_exec_cut f (hc.trans (.down hMem (.here _))) (by simpa using hSegs)).2
            fun y hy => hNone y (.down hMem hy)

/-- Deleting a path below the root of a tree of one path style, where each node lies at one
place, changes nothing but children, and keeps exactly the descents along names that do not
extend the path's segments. -/
theorem del_exec_descends (hPlace : g.OnePlace r) (hr : r < g.nodes.size) {p : String}
    (hPos : 0 < (g.node r).driver.paths.level p) :
    ∃ g', (del r p).exec g = (.ok (), g') ∧ Sound g' ∧ g'.OneStyle r ∧
      g'.nodes.size = g.nodes.size ∧
      (∀ i, g'.node i = { g.node i with children := (g'.node i).children }) ∧
      (∀ ns n, g'.Descends r ns n ↔
        g.Descends r ns n ∧ ¬ (g.node r).driver.paths.segments p <+: ns) := by
  obtain ⟨mid, x, hSegs⟩ : ∃ mid x, (g.node r).driver.paths.segments p = mid ++ [x] := by
    rcases List.eq_nil_or_concat ((g.node r).driver.paths.segments p) with h | ⟨mid, x, h⟩
    · rw [PathStyle.level, h] at hPos
      simp at hPos
    · exact ⟨mid, x, by simpa using h⟩
  have hSegs' : [] ++ mid ++ [x] = (g.node r).driver.paths.segments p := by rw [hSegs]; rfl
  obtain ⟨hCut, hKeep⟩ := delFrom_exec_cut hs hStyle hRoot (g.nodes.size + 1) (.here r) hSegs'
  by_cases hMid : ∃ y, g.Descends r mid y
  · obtain ⟨y, hy⟩ := hMid
    have hyLt := hy.lt hs hr
    refine ⟨_, by rw [del_exec]; exact hCut y hy (Nat.lt_succ_of_lt (hy.length_lt hs hr)),
      hs.cut x, hStyle.cut hyLt, size_modifyNode, node_cut hyLt, fun ns n => ?_⟩
    rw [hSegs]
    exact descends_cut_iff hs hPlace hr hy
  · have hGone : ∀ ns n, g.Descends r ns n → ¬ mid ++ [x] <+: ns := by
      rintro ns n h ⟨rest, rfl⟩
      have h' : g.Descends r (mid ++ x :: rest) n := by simpa using h
      obtain ⟨y, hy, -⟩ := Descends.split h'
      exact hMid ⟨y, hy⟩
    refine ⟨g, by rw [del_exec]; exact hKeep fun y hy => hMid ⟨y, hy⟩, hs, hStyle, rfl,
      fun i => rfl, fun ns n => ?_⟩
    rw [hSegs]
    exact ⟨fun h => ⟨h, hGone ns n h⟩, And.left⟩

/-- An eager root with no descent along names extending `ps` answers, for a path extending `ps`,
the document of the deepest node along the path, which lies above the end of `ps`. -/
theorem getDoc_deepest_of_eager (hr : r < g.nodes.size) (hEager : (g.node r).mode = .eager)
    {ps : List String} (hGone : ∀ ns n, g.Descends r ns n → ¬ ps <+: ns)
    (hq : ps <+: (g.node r).driver.paths.segments q) :
    ∃ k z, k < ps.length ∧ g.Descends r (((g.node r).driver.paths.segments q).take k) z ∧
      (∀ z', ¬ g.Descends r (((g.node r).driver.paths.segments q).take (k + 1)) z') ∧
      (getDoc r q).exec g = (.ok (g.node z).content, g) := by
  obtain ⟨ids, hRoute⟩ : ∃ ids, g.Route q r ids := Route.exists hs hr
  obtain ⟨k, z, -, -, hz, hLast, hDeepest⟩ :=
    route_last_deepest hs hStyle hRoot hRoute (.here r) List.nil_prefix
  have hk : k < ps.length := by
    by_contra hk
    exact hGone _ z hz (List.prefix_take_iff.mpr ⟨hq, by omega⟩)
  refine ⟨k, z, hk, hz, hDeepest (by have := hq.length_le; omega), ?_⟩
  rw [getDoc_exec_of_eager hs hr hEager hRoute, hLast]

end Lookups

end Tree

variable {g₀ g₁ g : Grove}

/-- Through any session on a built tree whose nodes read paths as the root does and hang at one
place each: a path of level `0` is refused with nothing changed. Any other path is deleted: a
path is found afterwards exactly when it was found before and does not extend the deleted one,
no node changes anything but its children, and in an eager tree a lookup of a path extending the
deleted one answers the document of the deepest node left along it, which lies above the deleted
node. -/
theorem del_removes_one_subtree {d : Driver} {m : Mode} {name : String} {t : Bytes}
    {rules : List Rule} {root : NodeId} (hReach : Reachable g₀)
    (hBuild : (Tree.build d m name t rules).exec g₀ = (.ok root, g₁))
    (hRun : Relation.ReflTransGen Step g₁ g) (hStyle : g.OneStyle root)
    (hPlace : g.OnePlace root) (p : String) :
    (d.paths.level p = 0 → (Tree.del root p).exec g = (.error (.error .rootDeletion), g)) ∧
    (0 < d.paths.level p → ∃ g', (Tree.del root p).exec g = (.ok (), g') ∧
      (∀ q, Tree.has g' root q = true ↔
        Tree.has g root q = true ∧ ¬ d.paths.segments p <+: d.paths.segments q) ∧
      (∀ i, g'.node i = { g.node i with children := (g'.node i).children }) ∧
      (m = .eager → ∀ q, d.paths.segments p <+: d.paths.segments q →
        ∃ k z, k < d.paths.level p ∧ g'.Descends root ((d.paths.segments q).take k) z ∧
          (∀ z', ¬ g'.Descends root ((d.paths.segments q).take (k + 1)) z') ∧
          (Tree.getDoc root q).exec g' = (.ok (g'.node z).content, g'))) := by
  obtain ⟨hs, hr, hOrigin⟩ := session_root hReach hBuild hRun
  have hRoot : (g.node root).level = 0 := hOrigin.level
  have hPaths : (g.node root).driver.paths = d.paths := by rw [hOrigin.driver]; rfl
  refine ⟨fun hZero => ?_, fun hPos => ?_⟩
  · rw [Tree.del_exec, Tree.delFrom_succ_exec, hPaths, if_pos hZero]
  obtain ⟨g', hDel, hs', hStyle', hSize, hNodes, hDescends⟩ :=
    Tree.del_exec_descends hs hStyle hRoot hPlace hr (by rw [hPaths]; exact hPos)
  rw [hPaths] at hDescends
  have hRoot' : (g'.node root).level = 0 := (congrArg Node.level (hNodes root)).trans hRoot
  have hPaths' : (g'.node root).driver.paths = d.paths :=
    (congrArg (·.driver.paths) (hNodes root)).trans hPaths
  have hr' : root < g'.nodes.size := hSize ▸ hr
  refine ⟨g', hDel, fun q => ?_, hNodes, fun hm q hq => ?_⟩
  · rw [Tree.has_iff_descends hs' hStyle' hRoot' hr', Tree.has_iff_descends hs hStyle hRoot hr,
      hPaths', hPaths]
    simp only [hDescends, exists_and_right]
  · have hEager : (g'.node root).mode = .eager :=
      ((congrArg Node.mode (hNodes root)).trans hOrigin.mode).trans hm
    have hq' : d.paths.segments p <+: (g'.node root).driver.paths.segments q := by
      rw [hPaths']
      exact hq
    obtain ⟨k, z, hk, hz, hDeepest, hGet⟩ :=
      Tree.getDoc_deepest_of_eager hs' hStyle' hRoot' hr' hEager
        (fun ns n h => ((hDescends ns n).mp h).2) hq'
    rw [hPaths'] at hz hDeepest
    exact ⟨k, z, hk, hz, hDeepest, hGet⟩

theorem del_removes_one_subtree_after_build :
    let g := ((Tree.build Driver.json .eager "conf" [] [Rule.empty "/a/b"]).exec Grove.empty).2
    Reachable Grove.empty ∧
      (Tree.build Driver.json .eager "conf" [] [Rule.empty "/a/b"]).exec Grove.empty = (.ok 0, g) ∧
      Relation.ReflTransGen Step g g ∧ g.OneStyle 0 ∧ g.OnePlace 0 ∧
      (Driver.json.paths.level "/a" = 0 →
        (Tree.del 0 "/a").exec g = (.error (.error .rootDeletion), g)) ∧
      (0 < Driver.json.paths.level "/a" → ∃ g', (Tree.del 0 "/a").exec g = (.ok (), g') ∧
        (∀ q, Tree.has g' 0 q = true ↔
          Tree.has g 0 q = true ∧
            ¬ Driver.json.paths.segments "/a" <+: Driver.json.paths.segments q) ∧
        (∀ i, g'.node i = { g.node i with children := (g'.node i).children }) ∧
        ((Mode.eager : Mode) = .eager → ∀ q,
          Driver.json.paths.segments "/a" <+: Driver.json.paths.segments q →
          ∃ k z, k < Driver.json.paths.level "/a" ∧
            g'.Descends 0 ((Driver.json.paths.segments q).take k) z ∧
            (∀ z', ¬ g'.Descends 0 ((Driver.json.paths.segments q).take (k + 1)) z') ∧
            (Tree.getDoc 0 q).exec g' = (.ok (g'.node z).content, g'))) := by
  intro g
  have hBuild : (Tree.build Driver.json .eager "conf" [] [Rule.empty "/a/b"]).exec Grove.empty =
      (.ok 0, g) := Prod.ext (by cbv) rfl
  obtain ⟨-, place, hf, -⟩ := Grove.Fresh.of_build hBuild
  exact ⟨.refl, hBuild, .refl, hf.oneStyle, hf.onePlace,
    del_removes_one_subtree .refl hBuild .refl hf.oneStyle hf.onePlace "/a"⟩

/-- With the delimiter `aba` the names `b, a` and `ba, baa` both give the path `abababaa`. A
graft hangs the node at `b, a, b` under the node at `ba, baa` too; deleting the path of
`b, a, b, b` then cuts below it at both places, and the path along `ba, baa, b, b`, which does not
extend the deleted one, is found before and lost after. -/
theorem del_cuts_shared_node :
    let d := Driver.json.withPaths ⟨"aba"⟩
    let g₁ := ((Tree.build d .eager "tree" [] [Rule.empty "abababaaabababab"]).exec Grove.empty).2
    let g₂ := ((Tree.setRule 0 (Rule.empty "ababaababaa")).exec g₁).2
    let g₃ := ((Tree.graft 6 3).exec g₂).2
    let g₄ := ((Tree.del 0 "abababaaabababab").exec g₃).2
    Reachable g₃ ∧ Tree.node? g₂ 0 "ababaababaa" = some 6 ∧
      Tree.node? g₂ 0 "abababaaabab" = some 3 ∧ ((Tree.graft 6 3).exec g₂).1 = .ok none ∧
      0 < d.paths.level "abababaaabababab" ∧
      ¬ d.paths.segments "abababaaabababab" <+: d.paths.segments "ababaababaaabababab" ∧
      Tree.has g₃ 0 "ababaababaaabababab" = true ∧
      ((Tree.del 0 "abababaaabababab").exec g₃).1 = .ok () ∧
      Tree.has g₄ 0 "ababaababaaabababab" = false := by
  intro d g₁ g₂ g₃ g₄
  have hReach : Reachable g₃ :=
    .tail (.tail (.single (.build _ _ _ _ _ _)) (.set (by decide +kernel) _))
      (.graft (by decide +kernel) (by decide +kernel))
  have hGraft : ((Tree.graft 6 3).exec g₂).1 = .ok none := by
    simp only [g₂, g₁, d]
    cbv
  have hDel : ((Tree.del 0 "abababaaabababab").exec g₃).1 = .ok () := by
    simp only [g₃, g₂, g₁, d]
    cbv
  exact ⟨hReach, by decide +kernel, by decide +kernel, hGraft, by decide +kernel,
    by decide +kernel, by decide +kernel, hDel, by decide +kernel⟩

end RuleOverlay
