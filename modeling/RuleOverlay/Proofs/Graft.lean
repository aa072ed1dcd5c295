import RuleOverlay.Proofs.Prune
import RuleOverlay.Proofs.Atomic
/-! # Grafting a subtree

A graft hangs a node `c` under a node `h` by `c`'s own name. It goes through exactly when `c`
hangs under `h` as every child of a sound grove does (`Node.Hangs`): one level deeper, at the
path `h` gives that name, with `h`'s driver name and mode. A wrong level is reported as such and
every other mismatch as an incompatible graft; a refused graft changes nothing. A graft that goes
through changes `h` alone, and of `h` only its child of `c`'s name.

Levels grow by one along every edge, so a descent from `c` never meets `h`: below `h`, the name of
`c` leads into `c`'s subtree as it stood, and every other name leads where it led before.

Between the roots of two trees a graft moves a whole branch. A root sits at the delimiter, and
the graft checks the path of the node it hangs, so host and donor split paths alike. An eager
lookup from the host that takes the new branch then answers what the donor answers, and one that
keeps off it answers as before.
-/
namespace RuleOverlay

namespace PathStyle

variable {style : PathStyle} {path : String}

theorem stripLeading_nil (d : List Char) : ∀ fuel, stripLeading d fuel [] = []
  | 0 => rfl
  | _ + 1 => by cases d <;> simp [stripLeading]

theorem stripLeading_self (e : List Char) (fuel : Nat) : stripLeading e (fuel + 1) e = [] := by
  cases e with
  | nil => rfl
  | cons ch rest => simp [stripLeading, stripLeading_nil]

theorem append_root (style : PathStyle) (name : String) :
    style.append style.root name = style.delimiter ++ name := by
  simp [append, root, stripTrailing, stripLeading_self]

theorem eq_of_append_root {style' : PathStyle} {name : String}
    (h : style.append style.root name = style'.append style'.root name) : style = style' := by
  rw [append_root, append_root] at h
  have hDelimiter : style.delimiter = style'.delimiter := (String.append_left_inj name).mp h
  cases style
  cases style'
  exact congrArg PathStyle.mk hDelimiter

theorem segments_of_level_one (hLevel : style.level path = 1) :
    style.segments path = [style.nameAt path 1] := by
  obtain ⟨x, hx⟩ := List.length_eq_one_iff.mp hLevel
  simp [nameAt, hx]

end PathStyle

namespace Node

theorem child?_withChild_self (n : Node) (name : String) (c : NodeId) :
    (n.withChild name c).child? name = some c := by
  simp [child?, withChild]

theorem SameOrigin.path_root {d : Driver} {m : Mode} {name : String} {t : Bytes} {n : Node}
    (h : (Node.root d m name t).SameOrigin n) : n.path = n.driver.paths.root := by
  rw [h.path, h.driver]
  rfl

end Node

namespace Grove

variable {g g' : Grove} {h r n : NodeId} {ns : List String}

theorem Descends.of_frame (hs : Sound g) (hSame : ∀ i, i ≠ h → g'.node i = g.node i)
    (hd : g.Descends r ns n) (hAbove : (g.node h).level < (g.node r).level) :
    g'.Descends r ns n := by
  induction hd with
  | here n => exact .here n
  | @down r c n x ns hMem _ ih =>
    have hr : r ≠ h := fun hEq => by rw [hEq] at hAbove; exact Nat.lt_irrefl _ hAbove
    have hLevel := (hs.hangs hMem).level
    exact .down (by rw [hSame r hr]; exact hMem) (ih (by omega))

theorem node_hang {p c : NodeId} {x : String} (hp : p < g.nodes.size) (i : NodeId) :
    (g.modifyNode p (·.withChild x c)).node i =
      { g.node i with children := ((g.modifyNode p (·.withChild x c)).node i).children } := by
  rw [node_modifyNode hp]
  split <;> rfl

section Hang

variable {c : NodeId} {x : String} (hs : Sound g) (hh : h < g.nodes.size) (hc : c < g.nodes.size)
  (hHangs : (g.node h).Hangs (g.node c) x)
include hs hh hc hHangs

theorem descends_hang_below {c' : NodeId} (hLevel : (g.node h).level < (g.node c').level) :
    (g.modifyNode h (·.withChild x c)).Descends c' ns n ↔ g.Descends c' ns n := by
  have hs' := hs.hang hh hc hHangs
  have hLevels : ∀ i, ((g.modifyNode h (·.withChild x c)).node i).level = (g.node i).level :=
    fun i => by rw [node_hang hh i]
  constructor
  · intro hd
    exact hd.of_frame hs' (fun i hi => (node_modifyNode_of_ne hi).symm)
      (by rw [hLevels, hLevels]; exact hLevel)
  · intro hd
    exact hd.of_frame hs (fun i hi => node_modifyNode_of_ne hi) hLevel

theorem descends_hang_self :
    (g.modifyNode h (·.withChild x c)).Descends h (x :: ns) n ↔ g.Descends c ns n := by
  have hBelow := hHangs.level
  constructor
  · intro hd
    cases hd with
    | down hMem hRest =>
      rw [node_modifyNode_self hh] at hMem
      rcases Node.mem_withChild.mp hMem with hNew | ⟨-, hSame⟩
      · cases (Prod.mk.inj hNew).2
        exact (descends_hang_below hs hh hc hHangs (by omega)).mp hRest
      · exact absurd rfl hSame
  · intro hd
    refine .down ?_ ((descends_hang_below hs hh hc hHangs (by omega)).mpr hd)
    rw [node_modifyNode_self hh]
    exact Node.mem_withChild.mpr (.inl rfl)

theorem descends_hang_of_ne {y : String} (hy : y ≠ x) :
    (g.modifyNode h (·.withChild x c)).Descends h (y :: ns) n ↔ g.Descends h (y :: ns) n := by
  constructor
  · intro hd
    cases hd with
    | down hMem hRest =>
      rw [node_modifyNode_self hh] at hMem
      rcases Node.mem_withChild.mp hMem with hNew | ⟨hOld, -⟩
      · exact absurd (Prod.mk.inj hNew).1 hy
      · have hBelow := (hs.hangs hOld).level
        exact .down hOld ((descends_hang_below hs hh hc hHangs (by omega)).mp hRest)
  · intro hd
    cases hd with
    | down hMem hRest =>
      have hBelow := (hs.hangs hMem).level
      refine .down ?_ ((descends_hang_below hs hh hc hHangs (by omega)).mpr hRest)
      rw [node_modifyNode_self hh]
      exact Node.mem_withChild.mpr (.inr ⟨hMem, hy⟩)

end Hang

end Grove

namespace Tree

open Grove

variable {g : Grove} {h c r : NodeId}

theorem descend_level (hs : Sound g) {style : PathStyle} {path : String} {L : Nat} :
    ∀ {fuel : Nat} {id n : NodeId}, descend g style path L fuel id = some n →
      (n = id ∧ L ≤ (g.node id).level) ∨ (g.node id).level < (g.node n).level
  | 0, _, _, hd => by simp [descend] at hd
  | fuel + 1, id, n, hd => by
    simp only [descend] at hd
    split_ifs at hd with hLt
    · obtain ⟨c, hc, hn⟩ := Option.bind_eq_some_iff.mp hd
      have hLevel := (hs.hangs (Node.mem_of_child? hc)).level
      right
      rcases descend_level hs hn with ⟨rfl, -⟩ | hDeeper <;> omega
    · cases hd
      exact .inl ⟨rfl, Nat.not_lt.mp hLt⟩

theorem node?_of_level_one (hs : Sound g) (hRoot : (g.node r).level = 0) {q : String}
    (hFound : node? g r q = some c) (hc : (g.node c).level = 1) :
    (g.node r).driver.paths.level q = 1 ∧
      (g.node r).child? ((g.node r).driver.paths.nameAt q 1) = some c := by
  simp only [node?, hRoot] at hFound
  split_ifs at hFound with hLt hZero
  · cases hFound
    omega
  · obtain ⟨c₁, hc₁, hd⟩ := Option.bind_eq_some_iff.mp hFound
    have hLevel₁ := (hs.hangs (Node.mem_of_child? hc₁)).level
    rw [hRoot] at hLevel₁
    rcases descend_level hs hd with ⟨rfl, hLe⟩ | hDeeper
    · simp only [beq_iff_eq] at hZero
      exact ⟨by omega, hc₁⟩
    · omega

/-- A graft of a node that hangs under the parent as a child should goes through: it hangs the
node by its name and answers the child it replaced. -/
theorem graft_exec_of_hangs (hHangs : (g.node h).Hangs (g.node c) (g.node c).name) :
    (graft h c).exec g = (.ok ((g.node h).child? (g.node c).name),
      g.modifyNode h (·.withChild (g.node c).name c)) := by
  simp [graft, hHangs.level, hHangs.path, hHangs.driver, hHangs.mode]

theorem graft_exec_of_level_ne (hLevel : (g.node c).level ≠ (g.node h).level + 1) :
    (graft h c).exec g = (.error (.error
      (.graftLevelMismatch (g.node c).name (g.node h).level (g.node c).level)), g) := by
  simp [graft, hLevel]

/-- A graft at the right level of a node that does not hang under the parent as a child should
is refused as incompatible, naming the node's path, with nothing changed. -/
theorem graft_exec_of_not_hangs (hLevel : (g.node c).level = (g.node h).level + 1)
    (hNot : ¬ (g.node h).Hangs (g.node c) (g.node c).name) :
    ∃ reason,
      (graft h c).exec g = (.error (.error (.graftIncompatible (g.node c).path reason)), g) := by
  by_cases hPath : (g.node c).path = (g.node h).driver.paths.append (g.node h).path (g.node c).name
  · by_cases hDriver : (g.node c).driver.name = (g.node h).driver.name
    · have hMode : (g.node c).mode ≠ (g.node h).mode := fun hMode =>
        hNot ⟨hLevel, rfl, hPath, hMode, hDriver⟩
      simp [graft, hLevel, hPath, hDriver, hMode]
    · simp [graft, hLevel, hPath, hDriver]
  · simp [graft, hLevel, hPath]

theorem graft_ok_iff_hangs :
    (∃ o, ((graft h c).exec g).1 = .ok o) ↔ (g.node h).Hangs (g.node c) (g.node c).name := by
  constructor
  · rintro ⟨o, hOk⟩
    obtain ⟨hLevel, hPath, hDriver, hMode, -⟩ := graft_exec_of_ok (Prod.ext hOk rfl)
    exact ⟨hLevel, rfl, hPath, hMode, hDriver⟩
  · intro hHangs
    exact ⟨_, by rw [graft_exec_of_hangs hHangs]⟩

/-- A refused graft changes nothing; it is a level mismatch when the level is wrong and an
incompatible graft at the node's path otherwise. -/
theorem graft_error_kind {e : Failure TreeError} {g' : Grove}
    (hErr : (graft h c).exec g = (.error e, g')) :
    g' = g ∧
      ((g.node c).level ≠ (g.node h).level + 1 →
        e = .error (.graftLevelMismatch (g.node c).name (g.node h).level (g.node c).level)) ∧
      ((g.node c).level = (g.node h).level + 1 →
        ∃ reason, e = .error (.graftIncompatible (g.node c).path reason)) := by
  refine ⟨graft_exec_of_error hErr, fun hLevel => ?_, fun hLevel => ?_⟩
  · rw [graft_exec_of_level_ne hLevel] at hErr
    cases hErr
    rfl
  · have hNot : ¬ (g.node h).Hangs (g.node c) (g.node c).name := fun hHangs => by
      rw [graft_exec_of_hangs hHangs] at hErr
      cases hErr
    obtain ⟨reason, hExec⟩ := graft_exec_of_not_hangs hLevel hNot
    rw [hExec] at hErr
    cases hErr
    exact ⟨reason, rfl⟩

/-- Hanging a child under `h` by a name other than the one a path names below `h` leaves what
every lookup of that path answers. -/
theorem getDoc_hang_of_ne (hs : Sound g) (hh : h < g.nodes.size) (hc : c < g.nodes.size)
    {x : String} (hHangs : (g.node h).Hangs (g.node c) x) {p : String}
    (hName : (g.node h).driver.paths.nameAt p ((g.node h).level + 1) ≠ x)
    (hr : r < g.nodes.size) :
    ((getDoc r p).exec (g.modifyNode h (·.withChild x c))).1 = ((getDoc r p).exec g).1 := by
  obtain ⟨ids, hRoute⟩ := Route.exists hs hr
  exact getDoc_result_congr hs (hs.hang hh hc hHangs) hr (by simpa using hr) hRoute
    (fun y _ => next_hang_of_ne hh hName y) (fun y _ => node_hang hh y)

section Roots

variable {root donor : NodeId} {q : String} {o : Option NodeId} {g' : Grove}
  (hs : Sound g) (hRootLevel : (g.node root).level = 0)
  (hRootPath : (g.node root).path = (g.node root).driver.paths.root)
  (hDonorLevel : (g.node donor).level = 0)
  (hDonorPath : (g.node donor).path = (g.node donor).driver.paths.root)
  (hFound : node? g donor q = some c) (hGraft : (graft root c).exec g = (.ok o, g'))
include hs hRootLevel hRootPath hDonorLevel hDonorPath hFound hGraft

/-- A graft of a node a donor root finds for `q` under another root: the node is the donor's
child named by the one segment of `q`, and since both roots sit at their delimiters and the
graft checks the node's path, the two roots split paths alike. -/
theorem graft_root_facts :
    c < g.nodes.size ∧ (g.node root).Hangs (g.node c) (g.node c).name ∧
      (g.node donor).driver.paths = (g.node root).driver.paths ∧
      (g.node root).driver.paths.segments q = [(g.node c).name] ∧
      (g.node donor).child? (g.node c).name = some c ∧
      g' = g.modifyNode root (·.withChild (g.node c).name c) := by
  obtain ⟨hLevel, hPath, hDriver, hMode, -, rfl⟩ := graft_exec_of_ok hGraft
  have hFirst : (g.node c).level = 1 := by rw [hLevel, hRootLevel]
  obtain ⟨hLevelQ, hChild⟩ := node?_of_level_one hs hDonorLevel hFound hFirst
  have hDonorHangs := hs.hangs (Node.mem_of_child? hChild)
  have hKey : (g.node c).name = (g.node donor).driver.paths.nameAt q 1 := hDonorHangs.key
  have hAtDonor : (g.node c).path = (g.node donor).driver.paths.append
      (g.node donor).driver.paths.root (g.node c).name := by
    rw [hDonorHangs.path, hDonorPath, hKey]
  have hAtRoot : (g.node c).path = (g.node root).driver.paths.append
      (g.node root).driver.paths.root (g.node c).name := by
    rw [hPath, hRootPath]
  have hStyle := PathStyle.eq_of_append_root (hAtDonor.symm.trans hAtRoot)
  refine ⟨hs.child_lt (Node.mem_of_child? hChild), ⟨hLevel, rfl, hPath, hMode, hDriver⟩,
    hStyle, ?_, ?_, rfl⟩
  · rw [← hStyle, PathStyle.segments_of_level_one hLevelQ, hKey]
  · rw [hKey]
    exact hChild

/-- After the graft, an eager lookup from the host root of a path that takes the grafted branch
answers what the same lookup from the donor root answers: both walks enter the branch at its
top and go on alike. -/
theorem getDoc_graft_root_inside (hr : root < g.nodes.size) (hd : donor < g.nodes.size)
    (hEager : (g.node root).mode = .eager) {p : String}
    (hExt : (g.node root).driver.paths.segments q <+: (g.node root).driver.paths.segments p) :
    ((getDoc root p).exec g').1 = ((getDoc donor p).exec g').1 := by
  obtain ⟨hc, hHangs, hStyle, hSegsQ, hChild, rfl⟩ :=
    graft_root_facts hs hRootLevel hRootPath hDonorLevel hDonorPath hFound hGraft
  have hs' := hs.hang hr hc hHangs
  obtain ⟨rest, hSegsP⟩ := hExt
  rw [hSegsQ, List.singleton_append] at hSegsP
  have hName : (g.node root).driver.paths.nameAt p 1 = (g.node c).name :=
    Grove.nameAt_of_segments hSegsP.symm (by rfl)
  have hNextRoot : (g.modifyNode root (·.withChild (g.node c).name c)).next p root = some c := by
    rw [Grove.next, node_modifyNode_self hr]
    show ((g.node root).withChild _ c).child? ((g.node root).driver.paths.nameAt p
      ((g.node root).level + 1)) = some c
    rw [hRootLevel, hName]
    exact Node.child?_withChild_self _ _ _
  have hNextDonor : (g.modifyNode root (·.withChild (g.node c).name c)).next p donor = some c := by
    by_cases hSame : donor = root
    · rw [hSame]
      exact hNextRoot
    · rw [Grove.next, node_modifyNode_of_ne hSame, hStyle, hDonorLevel, hName]
      exact hChild
  have hDonorEager : ((g.modifyNode root (·.withChild (g.node c).name c)).node donor).mode =
      .eager := by
    rw [node_hang hr donor]
    show (g.node donor).mode = .eager
    rw [← (hs.hangs (Node.mem_of_child? hChild)).mode, hHangs.mode, hEager]
  have hRootEager : ((g.modifyNode root (·.withChild (g.node c).name c)).node root).mode =
      .eager := by
    rw [node_hang hr root]
    exact hEager
  have hc' : c < (g.modifyNode root (·.withChild (g.node c).name c)).nodes.size := by
    simpa using hc
  obtain ⟨ids, hRoute⟩ :
      ∃ ids, (g.modifyNode root (·.withChild (g.node c).name c)).Route p c ids :=
    Route.exists hs' hc'
  obtain ⟨tail, rfl⟩ := hRoute.eq_cons
  rw [getDoc_exec_of_eager hs' (by simpa using hr) hRootEager (.step hNextRoot hRoute),
    getDoc_exec_of_eager hs' (by simpa using hd) hDonorEager (.step hNextDonor hRoute)]
  simp only [List.getLastD_cons]

theorem getDoc_graft_root_outside (hr : root < g.nodes.size) {p : String}
    (hOff : ¬ (g.node root).driver.paths.segments q <+: (g.node root).driver.paths.segments p) :
    ((getDoc root p).exec g').1 = ((getDoc root p).exec g).1 := by
  obtain ⟨hc, hHangs, -, hSegsQ, -, rfl⟩ :=
    graft_root_facts hs hRootLevel hRootPath hDonorLevel hDonorPath hFound hGraft
  refine getDoc_hang_of_ne hs hr hc hHangs ?_ hr
  rw [hSegsQ] at hOff
  rw [hRootLevel, PathStyle.nameAt, if_neg (by omega)]
  cases hSegsP : (g.node root).driver.paths.segments p with
  | nil =>
    have hNamed : (g.node c).name ≠ "" := hs.named (by rw [hHangs.level, hRootLevel]; omega)
    exact fun hEq => hNamed hEq.symm
  | cons y rest =>
    rw [hSegsP] at hOff
    intro hEq
    simp only [Nat.sub_self, List.getD_cons_zero] at hEq
    exact hOff ⟨rest, by rw [hEq]; rfl⟩

end Roots

end Tree

open Grove

variable {g : Grove}

/-- In every grove a session reaches, a graft of a node `c` under a node `h` goes through exactly
when `c` sits one level below `h`, at the path `h` gives `c`'s name, with `h`'s driver name and
mode. Refused, it changes nothing and reports a level mismatch when the level is wrong and an
incompatible graft at `c`'s path otherwise. Through, it answers the child `h` had under `c`'s name,
changes nothing but `h`'s children, and below `h` that name leads into `c`'s subtree as it stood
while every other name leads where it led.

Grafted under the root of an eager tree, a node a tree root finds for `q` moves a whole branch:
a lookup from the host of a path whose segments extend those of `q` answers what the donor
answers, and one of any other path answers as before. -/
theorem graft_splices_one_subtree (hReach : Reachable g) :
    (∀ h c, h < g.nodes.size → c < g.nodes.size →
      ((∃ o, ((Tree.graft h c).exec g).1 = .ok o) ↔
        (g.node c).level = (g.node h).level + 1 ∧
        (g.node c).path = (g.node h).driver.paths.append (g.node h).path (g.node c).name ∧
        (g.node c).driver.name = (g.node h).driver.name ∧ (g.node c).mode = (g.node h).mode) ∧
      (∀ e g', (Tree.graft h c).exec g = (.error e, g') → g' = g ∧
        ((g.node c).level ≠ (g.node h).level + 1 →
          e = .error (.graftLevelMismatch (g.node c).name (g.node h).level (g.node c).level)) ∧
        ((g.node c).level = (g.node h).level + 1 →
          ∃ reason, e = .error (.graftIncompatible (g.node c).path reason))) ∧
      (∀ o g', (Tree.graft h c).exec g = (.ok o, g') →
        o = (g.node h).child? (g.node c).name ∧
        g'.node h = { g.node h with children := (g'.node h).children } ∧
        (∀ i, i ≠ h → g'.node i = g.node i) ∧
        (∀ ns n, g'.Descends h ((g.node c).name :: ns) n ↔ g.Descends c ns n) ∧
        ∀ y ns n, y ≠ (g.node c).name →
          (g'.Descends h (y :: ns) n ↔ g.Descends h (y :: ns) n))) ∧
    (∀ (root donor c : NodeId) (d d' : Driver) (m' : Mode) (name name' : String) (t t' : Bytes)
        (q : String) (o : Option NodeId) (g' : Grove),
      root < g.nodes.size → donor < g.nodes.size →
      (Node.root d .eager name t).SameOrigin (g.node root) →
      (Node.root d' m' name' t').SameOrigin (g.node donor) →
      Tree.node? g donor q = some c → (Tree.graft root c).exec g = (.ok o, g') →
      ∀ p, (d.paths.segments q <+: d.paths.segments p →
          ((Tree.getDoc root p).exec g').1 = ((Tree.getDoc donor p).exec g').1) ∧
        (¬ d.paths.segments q <+: d.paths.segments p →
          ((Tree.getDoc root p).exec g').1 = ((Tree.getDoc root p).exec g).1)) := by
  have hs := hReach.sound
  refine ⟨fun h c hh hc =>
    ⟨?_, fun e g' hErr => Tree.graft_error_kind hErr, fun o g' hOk => ?_⟩, ?_⟩
  · rw [Tree.graft_ok_iff_hangs]
    exact ⟨fun hHangs => ⟨hHangs.level, hHangs.path, hHangs.driver, hHangs.mode⟩,
      fun ⟨hLevel, hPath, hDriver, hMode⟩ => ⟨hLevel, rfl, hPath, hMode, hDriver⟩⟩
  · obtain ⟨hLevel, hPath, hDriver, hMode, rfl, rfl⟩ := Tree.graft_exec_of_ok hOk
    have hHangs : (g.node h).Hangs (g.node c) (g.node c).name :=
      ⟨hLevel, rfl, hPath, hMode, hDriver⟩
    exact ⟨rfl, node_hang hh h, fun i hi => node_modifyNode_of_ne hi,
      fun ns n => descends_hang_self hs hh hc hHangs,
      fun y ns n hy => descends_hang_of_ne hs hh hc hHangs hy⟩
  · intro root donor c d d' m' name name' t t' q o g' hr hd hRoot hDonor hFound hGraft p
    have hPaths : (g.node root).driver.paths = d.paths := by
      rw [hRoot.driver]
      rfl
    rw [← hPaths]
    exact ⟨Tree.getDoc_graft_root_inside hs hRoot.level hRoot.path_root hDonor.level
        hDonor.path_root hFound hGraft hr hd hRoot.mode,
      Tree.getDoc_graft_root_outside hs hRoot.level hRoot.path_root hDonor.level
        hDonor.path_root hFound hGraft hr⟩

/-- The branch `/a` of an eager donor, grafted under an eager host root in place of the host's own
`/a`: the host then answers at `/a/b` what the donor answers. -/
theorem graft_splices_one_subtree_donor_branch :
    let g₁ := ((Tree.build Driver.json .eager "host" [] [Rule.empty "/a"]).exec Grove.empty).2
    let g := ((Tree.build Driver.json .eager "donor" [] [Rule.empty "/a/b"]).exec g₁).2
    let g' := ((Tree.graft 0 3).exec g).2
    Reachable g ∧ 0 < g.nodes.size ∧ 2 < g.nodes.size ∧
      (Node.root Driver.json .eager "host" []).SameOrigin (g.node 0) ∧
      (Node.root Driver.json .eager "donor" []).SameOrigin (g.node 2) ∧
      Tree.node? g 2 "/a" = some 3 ∧ (Tree.graft 0 3).exec g = (.ok (some 1), g') ∧
      Driver.json.paths.segments "/a" <+: Driver.json.paths.segments "/a/b" ∧
      ((Tree.getDoc 0 "/a/b").exec g').1 = ((Tree.getDoc 2 "/a/b").exec g').1 := by
  intro g₁ g g'
  have hHost : (Tree.build Driver.json .eager "host" [] [Rule.empty "/a"]).exec Grove.empty =
      (.ok 0, g₁) := Prod.ext (by cbv) rfl
  have hDonor : (Tree.build Driver.json .eager "donor" [] [Rule.empty "/a/b"]).exec g₁ =
      (.ok 2, g) := Prod.ext (by simp only [g₁]; cbv) rfl
  have hReach₁ : Reachable g₁ := .single (.build _ _ _ _ _ _)
  have hReach : Reachable g := .tail hReach₁ (.build _ _ _ _ _ _)
  obtain ⟨-, hr, hRoot⟩ := session_root .refl hHost (.single (.build _ _ _ _ _ _))
  obtain ⟨-, hd, hDonorRoot⟩ := session_root hReach₁ hDonor .refl
  have hFound : Tree.node? g 2 "/a" = some 3 := by decide +kernel
  have hGraft : (Tree.graft 0 3).exec g = (.ok (some 1), g') :=
    Prod.ext (by simp only [g, g₁]; cbv) rfl
  have hExt : Driver.json.paths.segments "/a" <+: Driver.json.paths.segments "/a/b" := by
    decide +kernel
  exact ⟨hReach, hr, hd, hRoot, hDonorRoot, hFound, hGraft, hExt,
    ((graft_splices_one_subtree hReach).2 0 2 3 Driver.json Driver.json .eager "host" "donor" [] []
      "/a" (some 1) g' hr hd hRoot hDonorRoot hFound hGraft "/a/b").1 hExt⟩

end RuleOverlay
