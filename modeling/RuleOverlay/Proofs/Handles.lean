import RuleOverlay.Proofs.Frames
import RuleOverlay.Proofs.Built
import RuleOverlay.Proofs.Eager
/-! # Lookups through a node of a tree

A lookup from a node starts from that node's own baseline and runs only the processors from
there down. In an eager tree every node already holds the document realized along its
address, so a lookup through the node of a prefix of the path ends at the node a lookup from
the root ends at, and answers alike. A lazy node holds nothing of its ancestors until it is
realized from the document its parent hands it: a lookup through it realizes it from its
baseline alone and keeps that, and a later lookup from the root reads it back.

Lookups keep the shape of a tree and the processors it binds (`Grove.SameBindings`); they change
which nodes are realized and what they hold. A lookup from the root answers as on the fresh
tree while every node it would not recompute holds the document realized along its address
(`Grove.Faithful`). That holds of a fresh tree, and lookups keep it in an eager or lazy-instant
tree from any of its nodes, in a lazy tree from its root only.
-/
namespace RuleOverlay

open Grove

theorem take_succ_inits {α : Type} : ∀ (l : List α) (k : Nat),
    l.inits.take (k + 1) = (l.take k).inits
  | [], _ => by simp
  | a :: l, 0 => by simp
  | a :: l, k + 1 => by
    rw [List.inits_cons, List.take_succ_cons, ← List.map_take, take_succ_inits l k,
      List.take_succ_cons, List.inits_cons]

theorem forall₂_getElem? {α β : Type} {R : α → β → Prop} {l₁ : List α}
    {l₂ : List β} (h : List.Forall₂ R l₁ l₂) {k : Nat} {y : β} (hy : l₂[k]? = some y) :
    ∃ a, l₁[k]? = some a ∧ R a y := by
  induction h generalizing k with
  | nil => cases hy
  | @cons a b l₁ l₂ hab _ ih =>
    cases k with
    | zero => cases hy; exact ⟨a, rfl, hab⟩
    | succ k => exact ih hy

namespace Grove

variable {g g' g'' : Grove}

/-- `g'` differs from `g` at most in the documents its nodes hold and whether they are
realized. -/
structure SameBindings (g g' : Grove) : Prop where
  size : g'.nodes.size = g.nodes.size
  node : ∀ x, g'.node x =
    { g.node x with content := (g'.node x).content, realized := (g'.node x).realized }

theorem SameBindings.refl (g : Grove) : SameBindings g g := ⟨rfl, fun _ => rfl⟩

theorem SameBindings.trans (h : SameBindings g g') (h' : SameBindings g' g'') :
    SameBindings g g'' :=
  ⟨h'.size.trans h.size, fun x => (h'.node x).trans (by rw [h.node x])⟩

theorem SameBindings.next_eq (h : SameBindings g g') (path : String) (x : NodeId) :
    g'.next path x = g.next path x := by
  unfold next
  rw [h.node x]
  rfl

theorem SameBindings.mode_eq (h : SameBindings g g') (x : NodeId) :
    (g'.node x).mode = (g.node x).mode := by
  rw [h.node x]

theorem SameBindings.baseline_eq (h : SameBindings g g') (x : NodeId) :
    (g'.node x).baseline = (g.node x).baseline := by
  rw [h.node x]

theorem SameBindings.path_eq (h : SameBindings g g') (x : NodeId) :
    (g'.node x).path = (g.node x).path := by
  rw [h.node x]

theorem SameBindings.processors_eq (h : SameBindings g g') (x : NodeId) :
    (g'.node x).processors = (g.node x).processors := by
  rw [h.node x]

theorem SameBindings.realizeAlong_eq (h : SameBindings g g') :
    ∀ (doc : Bytes) (ids : List NodeId), g'.realizeAlong doc ids = g.realizeAlong doc ids
  | _, [] => rfl
  | doc, x :: ids => by
    simp only [realizeAlong, h.path_eq x, h.processors_eq x, h.realizeAlong_eq _ ids]

def Memoized (g : Grove) (doc : Bytes) (ids : List NodeId) : Prop :=
  ∀ k x, ids[k]? = some x → (g.node x).recomputes = false →
    g.realizeAlong doc (ids.take (k + 1)) = .ok (g.node x).content

theorem Memoized.head {doc : Bytes} {x : NodeId} {xs : List NodeId} (h : g.Memoized doc (x :: xs))
    (hSettled : (g.node x).recomputes = false) :
    realizeAt (g.node x).path doc (g.node x).processors = .ok (g.node x).content := by
  have hHead := h 0 x rfl hSettled
  rw [List.take_succ_cons, List.take_zero] at hHead
  cases hc : realizeAt (g.node x).path doc (g.node x).processors with
  | ok c => rwa [realizeAlong_cons_of_ok hc] at hHead
  | error e => rw [realizeAlong_cons_of_error hc] at hHead; cases hHead

theorem Memoized.tail {doc c : Bytes} {x : NodeId} {xs : List NodeId}
    (h : g.Memoized doc (x :: xs))
    (hc : realizeAt (g.node x).path doc (g.node x).processors = .ok c) : g.Memoized c xs := by
  intro k y hy hSettled
  have hy' := h (k + 1) y (by simpa using hy) hSettled
  rwa [List.take_succ_cons, realizeAlong_cons_of_ok hc] at hy'

theorem exists_realized_cons {doc c d : Bytes} {x y : NodeId} {xs : List NodeId}
    (hc : realizeAt (g.node x).path doc (g.node x).processors = .ok c)
    (h : ∃ k, xs[k]? = some y ∧ g.realizeAlong c (xs.take (k + 1)) = .ok d) :
    ∃ k, (x :: xs)[k]? = some y ∧ g.realizeAlong doc ((x :: xs).take (k + 1)) = .ok d := by
  obtain ⟨k, hk, hReal⟩ := h
  exact ⟨k + 1, by simpa using hk, by rwa [List.take_succ_cons, realizeAlong_cons_of_ok hc]⟩

/-- A walk over a memoized route answers what realizing the whole route answers, and stores at
each node it realizes the document realized along the route up to that node. -/
theorem walk_memoized : ∀ {doc : Bytes} {ids : List NodeId}, g.Memoized doc ids →
    (g.walk (some doc) ids).result = g.realizeAlong doc ids ∧
      ∀ s ∈ (g.walk (some doc) ids).stored,
        ∃ k, ids[k]? = some s.1 ∧ g.realizeAlong doc (ids.take (k + 1)) = .ok s.2
  | _, [], _ => ⟨rfl, fun s hs => by simp [walk] at hs⟩
  | doc, x :: xs, h => by
    cases hRe : (g.node x).recomputes with
    | false =>
      have hc := h.head hRe
      obtain ⟨hResult, hStored⟩ := walk_memoized (h.tail hc)
      rw [walk_of_settled hRe, realizeAlong_cons_of_ok hc]
      exact ⟨hResult, fun s hs => exists_realized_cons hc (hStored s hs)⟩
    | true =>
      cases hc : realizeAt (g.node x).path doc (g.node x).processors with
      | error e =>
        have hc' : realizeAt (g.node x).path ((some doc).getD (g.node x).baseline)
            (g.node x).processors = .error e := hc
        rw [walk_of_error hRe hc', realizeAlong_cons_of_error hc]
        exact ⟨rfl, fun s hs => by cases hs⟩
      | ok c =>
        have hc' : realizeAt (g.node x).path ((some doc).getD (g.node x).baseline)
            (g.node x).processors = .ok c := hc
        obtain ⟨hResult, hStored⟩ := walk_memoized (h.tail hc)
        rw [walk_of_ok hRe hc', realizeAlong_cons_of_ok hc]
        refine ⟨hResult, fun s hs => ?_⟩
        rcases List.mem_cons.mp hs with rfl | hs
        · refine ⟨0, rfl, ?_⟩
          rw [List.take_succ_cons, List.take_zero, realizeAlong_cons_of_ok hc]
          rfl
        · exact exists_realized_cons hc (hStored s hs)

theorem walk_none_cons {x : NodeId} {xs : List NodeId} :
    g.walk none (x :: xs) = g.walk (some (g.node x).baseline) (x :: xs) := by
  cases hRe : (g.node x).recomputes <;> simp [walk, hRe]

/-- Every node at an address of the tree that a lookup would not recompute holds the document
realized from `t` along its address. -/
def Faithful (g : Grove) (style : PathStyle) (t : Bytes) (bound : List String → List Processor)
    (place : List String → Option NodeId) : Prop :=
  ∀ a i, place a = some i → (g.node i).recomputes = false →
    style.realizeInits bound t a.inits = .ok (g.node i).content

def ReadThrough (g₁ : Grove) (root : NodeId) (allowed : NodeId → Prop) (g g' : Grove) : Prop :=
  ∃ q h path, Tree.node? g₁ root q = some h ∧ allowed h ∧ g' = ((Tree.getDoc h path).exec g).2

end Grove

namespace Tree

variable {g g' : Grove}

theorem getDoc_sameBindings {id : NodeId} {path : String} {r : Except (Failure TreeError) Bytes}
    (hs : Sound g) (hId : id < g.nodes.size) (h : (getDoc id path).exec g = (r, g')) :
    SameBindings g g' := by
  obtain ⟨ids, hRoute⟩ : ∃ ids, g.Route path id ids := Route.exists hs hId
  have hSize : g'.nodes.size = g.nodes.size := by
    rw [getDoc_exec_eq_walk hs hId hRoute] at h
    rw [← (Prod.mk.inj h).2, size_after]
  refine ⟨hSize, fun x => ?_⟩
  rcases getDoc_node hs hId h x with hx | ⟨-, hx⟩ <;> rw [hx]

end Tree

namespace Grove.Fresh

variable {g₁ g g' : Grove} {d : Driver} {m : Mode} {treeName : String} {t : Bytes}
  {base : NodeId} {bound : List String → List Processor} {place : List String → Option NodeId}
  {L : List String} {ids : List NodeId}

theorem faithful (hf : g₁.Fresh d m treeName t base bound place) :
    g₁.Faithful d.paths t bound place := by
  intro a i h hSettled
  cases hMode : m with
  | eager => exact hf.content hMode h
  | lazy =>
    have hRe := Node.recomputes_of_unrealized (by rw [hf.mode h, hMode]; rfl)
      (hf.unrealized (by rw [hMode]; rfl) h)
    rw [hSettled] at hRe
    cases hRe
  | lazyInstant =>
    have hRe := Node.recomputes_of_lazyInstant (by rw [hf.mode h, hMode])
    rw [hSettled] at hRe
    cases hRe

theorem realizeAlong_take (hf : g₁.Fresh d m treeName t base bound place)
    (hSame : SameBindings g₁ g)
    (hAddrs : List.Forall₂ (fun a x => place a = some x) L.inits ids) (k : Nat) :
    g.realizeAlong t (ids.take (k + 1)) = d.paths.realizeInits bound t (L.take k).inits := by
  rw [hSame.realizeAlong_eq, hf.realizeAlong_eq (List.forall₂_take (k + 1) hAddrs),
    take_succ_inits]

theorem place_of_getElem? (hAddrs : List.Forall₂ (fun a x => place a = some x) L.inits ids)
    {k : Nat} {x : NodeId} (hx : ids[k]? = some x) : place (L.take k) = some x := by
  obtain ⟨a, ha, hPlace⟩ := forall₂_getElem? hAddrs hx
  obtain ⟨hk, rfl⟩ := List.getElem?_eq_some_iff.mp ha
  rwa [List.getElem_inits] at hPlace

theorem memoized (hf : g₁.Fresh d m treeName t base bound place) (hSame : SameBindings g₁ g)
    (hFaithful : g.Faithful d.paths t bound place)
    (hAddrs : List.Forall₂ (fun a x => place a = some x) L.inits ids) : g.Memoized t ids := by
  intro k x hx hSettled
  rw [hf.realizeAlong_take hSame hAddrs k]
  exact hFaithful _ _ (place_of_getElem? hAddrs hx) hSettled

theorem route_of_sameBindings (hf : g₁.Fresh d m treeName t base bound place)
    (hSame : SameBindings g₁ g) (p : String) :
    ∃ K ids, g₁.Route p base ids ∧ g.Route p base ids ∧
      List.Forall₂ (fun a x => place a = some x) ((d.paths.segments p).take K).inits ids := by
  obtain ⟨K, ids, -, -, -, hRoute, hAddrs, -⟩ := hf.route (d.paths.level p) (Nat.zero_add _)
    (hf.root : place ((d.paths.segments p).take 0) = some base)
  rw [List.drop_zero] at hAddrs
  exact ⟨K, ids, hRoute, hRoute.congr fun y _ => hSame.next_eq p y, hAddrs⟩

theorem getDoc_of_faithful (hf : g₁.Fresh d m treeName t base bound place) (hs : Sound g)
    (hSame : SameBindings g₁ g) (hFaithful : g.Faithful d.paths t bound place) {p : String}
    {K : Nat} (hRoute : g.Route p base ids)
    (hAddrs : List.Forall₂ (fun a x => place a = some x) ((d.paths.segments p).take K).inits ids) :
    (Tree.getDoc base p).exec g =
      ((g₁.realizeAlong t ids), g.after (g.walk (some t) ids)) := by
  have hBase : base < g.nodes.size := hSame.size ▸ (hf.lt hf.root).2
  obtain ⟨rest, hIds⟩ := hRoute.eq_cons
  have hWalk : g.walk none ids = g.walk (some t) ids := by
    rw [hIds, walk_none_cons, hSame.baseline_eq, hf.baseline]
  rw [Tree.getDoc_exec_eq_walk hs hBase hRoute, hWalk,
    (walk_memoized (hf.memoized hSame hFaithful hAddrs)).1, hSame.realizeAlong_eq]

theorem faithful_getDoc_base (hf : g₁.Fresh d m treeName t base bound place) (hs : Sound g)
    (hSame : SameBindings g₁ g) (hFaithful : g.Faithful d.paths t bound place) (p : String) :
    ((Tree.getDoc base p).exec g).2.Faithful d.paths t bound place := by
  obtain ⟨K, ids, -, hRoute, hAddrs⟩ := hf.route_of_sameBindings hSame p
  rw [hf.getDoc_of_faithful hs hSame hFaithful hRoute hAddrs]
  have hBase : base < g.nodes.size := hSame.size ▸ (hf.lt hf.root).2
  have hNodup : ((g.walk (some t) ids).stored.map Prod.fst).Nodup :=
    stored_keys_nodup (hRoute.eq_trailFrom hs hBase ▸ trailFrom_nodup hs _ hBase)
  obtain ⟨-, hStored⟩ := walk_memoized (hf.memoized hSame hFaithful hAddrs)
  intro a i hi hSettled
  by_cases hMem : i ∈ (g.walk (some t) ids).stored.map Prod.fst
  · obtain ⟨⟨y, c⟩, hs', rfl⟩ := List.mem_map.mp hMem
    obtain ⟨k, hk, hReal⟩ := hStored _ hs'
    have hLt : y < g.nodes.size := hRoute.lt hs hBase y (mem_stored hs').1
    rw [node_after_of_mem hNodup hs' hLt]
    have ha : a = ((d.paths.segments p).take K).take k :=
      hf.inj hi (place_of_getElem? hAddrs hk)
    rw [ha, ← hf.realizeAlong_take hSame hAddrs k]
    exact hReal
  · rw [node_after_of_not_mem hMem] at hSettled ⊢
    exact hFaithful _ _ hi hSettled

/-- A lookup through a node of the tree keeps it faithful in an eager tree, where it changes
nothing, and in a lazy-instant tree, where no node is read back; a lazy tree stays faithful
under lookups from its root. -/
theorem getDoc_keeps_faithful (hf : g₁.Fresh d m treeName t base bound place) (hs : Sound g)
    (hSame : SameBindings g₁ g) (hFaithful : g.Faithful d.paths t bound place) {a : List String}
    {h : NodeId} (ha : place a = some h) (hLazy : m = .lazy → h = base) {path : String}
    {r : Except (Failure TreeError) Bytes} (hRead : (Tree.getDoc h path).exec g = (r, g')) :
    SameBindings g₁ g' ∧ g'.Faithful d.paths t bound place := by
  have hh : h < g.nodes.size := hSame.size ▸ (hf.lt ha).2
  have hSame' := hSame.trans (Tree.getDoc_sameBindings hs hh hRead)
  refine ⟨hSame', ?_⟩
  cases hMode : m with
  | eager =>
    obtain ⟨ids, hRoute⟩ : ∃ ids, g.Route path h ids := Route.exists hs hh
    have hEager : (g.node h).mode = .eager := by rw [hSame.mode_eq, hf.mode ha, hMode]
    rw [Tree.getDoc_exec_of_eager hs hh hEager hRoute] at hRead
    rw [← (Prod.mk.inj hRead).2]
    exact hFaithful
  | lazy =>
    obtain rfl := hLazy hMode
    have hBase := hf.faithful_getDoc_base hs hSame hFaithful path
    rwa [hRead] at hBase
  | lazyInstant =>
    intro a' i hi hSettled
    have hRe := Node.recomputes_of_lazyInstant (by rw [hSame'.mode_eq, hf.mode hi, hMode])
    rw [hSettled] at hRe
    cases hRe

/-- In an eager tree a lookup through the node of a prefix of the path ends where the lookup
from the root ends, at the node of the longest prefix of the path the tree has. -/
theorem getDoc_handle_of_eager (hf : g.Fresh d m treeName t base bound place) (hs : Sound g)
    (hEager : m = .eager) {q p : String} {h : NodeId} (hq : place (d.paths.segments q) = some h)
    (hPre : d.paths.segments q <+: d.paths.segments p) :
    ((Tree.getDoc h p).exec g).1 = ((Tree.getDoc base p).exec g).1 := by
  have hTake : d.paths.segments q = (d.paths.segments p).take (d.paths.segments q).length :=
    List.prefix_iff_eq_take.mp hPre
  have hj : (d.paths.segments q).length ≤ d.paths.level p := hPre.length_le
  obtain ⟨K₀, ids₀, -, hK₀, hBeyond₀, hRoute₀, -, hLast₀⟩ := hf.route (d.paths.level p)
    (Nat.zero_add _) (hf.root : place ((d.paths.segments p).take 0) = some base)
  obtain ⟨K₁, ids₁, -, hK₁, hBeyond₁, hRoute₁, -, hLast₁⟩ :=
    hf.route (d.paths.level p - (d.paths.segments q).length) (by omega)
      (hTake ▸ hq : place ((d.paths.segments p).take (d.paths.segments q).length) = some h)
  have hK : K₀ = K₁ := by
    rcases Nat.lt_trichotomy K₀ K₁ with hlt | heq | hgt
    · rw [hBeyond₀ K₁ hlt hK₁] at hLast₁
      cases hLast₁
    · exact heq
    · rw [hBeyond₁ K₀ hgt hK₀] at hLast₀
      cases hLast₀
  have hLast : ids₁.getLastD h = ids₀.getLastD base :=
    Option.some.inj (hLast₁.symm.trans (hK ▸ hLast₀))
  have hMode : ∀ {a i}, place a = some i → (g.node i).mode = .eager := fun hi =>
    (hf.mode hi).trans hEager
  rw [Tree.getDoc_exec_of_eager hs (hf.lt hq).2 (hMode hq) hRoute₁,
    Tree.getDoc_exec_of_eager hs (hf.lt hf.root).2 (hMode hf.root) hRoute₀, hLast]

end Grove.Fresh

variable {g₀ g₁ : Grove}

/-- On a tree just built, a get through the node of a prefix of the path answers as the get
from the root when the tree is eager. And after any gets through nodes of the tree, reading a
lazy tree from its root only, a get from the root answers as on the fresh tree. -/
theorem handle_reads_keep_root_answers {d : Driver} {m : Mode} {name : String} {t : Bytes}
    {rules : List Rule} {root : NodeId} (hReach : Reachable g₀)
    (hBuild : (Tree.build d m name t rules).exec g₀ = (.ok root, g₁)) :
    (m = .eager → ∀ q p h, Tree.node? g₁ root q = some h →
      d.paths.segments q <+: d.paths.segments p →
      ((Tree.getDoc h p).exec g₁).1 = ((Tree.getDoc root p).exec g₁).1) ∧
    ∀ g, Relation.ReflTransGen (ReadThrough g₁ root fun h => m = .lazy → h = root) g₁ g →
      ∀ p, ((Tree.getDoc root p).exec g).1 = ((Tree.getDoc root p).exec g₁).1 := by
  have hs₁ : Sound g₁ := hReach.sound_of_build hBuild
  obtain ⟨-, place, hf, -⟩ := Fresh.of_build hBuild
  refine ⟨fun hEager q p h hq hPre => ?_, fun g hRun p => ?_⟩
  · rw [hf.node?_eq] at hq
    exact hf.getDoc_handle_of_eager hs₁ hEager hq hPre
  have hInv : Sound g ∧ SameBindings g₁ g ∧
      g.Faithful d.paths t (Rule.boundAt d.paths rules) place := by
    induction hRun with
    | refl => exact ⟨hs₁, .refl _, hf.faithful⟩
    | @tail g g' _ hRead ih =>
      obtain ⟨hs, hSame, hFaithful⟩ := ih
      obtain ⟨q, h, path, hq, hAllowed, rfl⟩ := hRead
      rw [hf.node?_eq] at hq
      have hh : h < g.nodes.size := hSame.size ▸ (hf.lt hq).2
      rcases hGet : (Tree.getDoc h path).exec g with ⟨r, g'⟩
      have hStep : Step g g' := by
        have hStep := Step.get hh path
        rwa [hGet] at hStep
      exact ⟨(hStep.changes hs).sound hs, hf.getDoc_keeps_faithful hs hSame hFaithful hq hAllowed hGet⟩
  obtain ⟨hs, hSame, hFaithful⟩ := hInv
  obtain ⟨K, ids, hRoute₁, hRoute, hAddrs⟩ := hf.route_of_sameBindings hSame p
  rw [hf.getDoc_of_faithful hs hSame hFaithful hRoute hAddrs,
    hf.getDoc_of_faithful hs₁ (.refl _) hf.faithful hRoute₁ hAddrs]

theorem handle_reads_keep_root_answers_eager :
    let g₁ := ((Tree.build Driver.json .eager "conf" [] [Rule.empty "/a"]).exec Grove.empty).2
    Reachable Grove.empty ∧
      (Tree.build Driver.json .eager "conf" [] [Rule.empty "/a"]).exec Grove.empty = (.ok 0, g₁) ∧
      (Mode.eager = .eager → ∀ q p h, Tree.node? g₁ 0 q = some h →
        Driver.json.paths.segments q <+: Driver.json.paths.segments p →
        ((Tree.getDoc h p).exec g₁).1 = ((Tree.getDoc 0 p).exec g₁).1) ∧
      ∀ g, Relation.ReflTransGen (ReadThrough g₁ 0 fun h => Mode.eager = .lazy → h = 0) g₁ g →
        ∀ p, ((Tree.getDoc 0 p).exec g).1 = ((Tree.getDoc 0 p).exec g₁).1 :=
  ⟨.refl, Prod.ext (by cbv) rfl, handle_reads_keep_root_answers .refl (Prod.ext (by cbv) rfl)⟩

/-- A lazy tree with processors at its root and at `/a`: a get through the node of `/a` runs
only that node's processors, and a later get from the root reads that back. -/
theorem handle_get_skips_ancestors :
    let suffix : UInt8 → Processor := fun b => .raw ⟨"", ⟨0, 0⟩, none, fun doc => .ok (doc ++ [b])⟩
    let g₁ := ((Tree.build Driver.json .lazy "conf" []
      [⟨"/", [suffix 114]⟩, ⟨"/a", [suffix 120]⟩]).exec Grove.empty).2
    Tree.node? g₁ 0 "/a" = some 1 ∧
      ((Tree.getDoc 0 "/a").exec g₁).1 = .ok [114, 120] ∧
      ((Tree.getDoc 1 "/a").exec g₁).1 = .ok [120] ∧
      ((Tree.getDoc 0 "/a").exec ((Tree.getDoc 1 "/a").exec g₁).2).1 = .ok [120] := by
  intro suffix g₁
  have hRoot : ((Tree.getDoc 0 "/a").exec g₁).1 = .ok [114, 120] := by
    simp only [suffix, g₁]
    cbv
  have hHandle : ((Tree.getDoc 1 "/a").exec g₁).1 = .ok [120] := by
    simp only [suffix, g₁]
    cbv
  have hAfter : ((Tree.getDoc 0 "/a").exec ((Tree.getDoc 1 "/a").exec g₁).2).1 = .ok [120] := by
    simp only [suffix, g₁]
    cbv
  refine ⟨?_, hRoot, hHandle, hAfter⟩
  have hBuild : (Tree.build Driver.json .lazy "conf" []
      [⟨"/", [suffix 114]⟩, ⟨"/a", [suffix 120]⟩]).exec Grove.empty = (.ok 0, g₁) :=
    Prod.ext (by simp only [suffix]; cbv) rfl
  have hSize : g₁.nodes.size = 2 := by
    simp only [suffix, g₁]
    cbv
  have hLength : (Driver.json.paths.segments "/a").length = 1 :=
    (by cbv : Driver.json.paths.level "/a" = 1)
  obtain ⟨-, place, hf, hDom⟩ := Grove.Fresh.of_build hBuild
  obtain ⟨i, hi⟩ := Option.isSome_iff_exists.mp ((hDom (Driver.json.paths.segments "/a")).mpr
    (.inr ⟨⟨"/a", [suffix 120]⟩, .tail _ (.head _), List.prefix_refl _⟩))
  have hLt := (hf.lt hi).2
  rw [hSize] at hLt
  have hNe : i ≠ 0 := by
    rintro rfl
    rw [hf.inj hi hf.root] at hLength
    cases hLength
  have hOne : i = 1 := Nat.le_antisymm (Nat.le_of_lt_succ hLt) (Nat.pos_of_ne_zero hNe)
  rw [hf.node?_eq, hi, hOne]

end RuleOverlay
