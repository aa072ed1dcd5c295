import RuleOverlay.Proofs.Route
/-! # What a lookup does

A lookup visits the nodes of its route in order. A node that recomputes on the visit runs its
processors on the document handed to it (its own baseline when it comes first) and keeps what
they make; any other node answers the document it holds. A route holds each node once, so every
visit reads its node as it was before the lookup began: the lookup is the walk read off the
grove it starts from (`Grove.walk`). The walk gives the answer, the processors run, in order,
and the documents stored, each at the node that made it (`Grove.after`).

So a lookup runs the processor lists of the recomputing nodes of its route, root first, each
once, up to the first failure; it changes no node that does not recompute, and of one that does
only the document and the realized flag.
-/
namespace RuleOverlay

/-- Two realizations in sequence: the second runs on the document the first made, if it made
one, and the processors both ran are recorded in order. -/
def Realized.andThen (r : Realized) (k : Bytes → Realized) : Realized :=
  match r.result with
  | .ok doc => ⟨(k doc).result, r.ran ++ (k doc).ran⟩
  | .error _ => r

theorem Realized.andThen_result (r : Realized) (k : Bytes → Realized) :
    (r.andThen k).result = r.result >>= fun doc => (k doc).result := by
  rcases r with ⟨f | doc, ran⟩ <;> rfl

theorem Realized.andThen_of_ok {r : Realized} {k : Bytes → Realized} {doc : Bytes}
    (h : r.result = .ok doc) : r.andThen k = ⟨(k doc).result, r.ran ++ (k doc).ran⟩ := by
  rw [Realized.andThen, h]

section Realize

variable {b c : Bytes} {ps : List Processor}

theorem realize_ran_of_ok : (realize b ps).result = .ok c → (realize b ps).ran = ps := by
  induction ps generalizing b with
  | nil => intro _; rfl
  | cons p rest ih =>
    intro h
    unfold realize at h ⊢
    rcases hRun : p.run b with (e | m) | next <;> simp only [hRun] at h ⊢
    · cases h
    · cases h
    · rw [ih h]

theorem realize_cons_of_ok {p : Processor} {next : Bytes} (h : p.run b = .ok next) :
    realize b (p :: ps) = ⟨(realize next ps).result, p :: (realize next ps).ran⟩ := by
  simp only [realize, h]

theorem realize_cons_of_error {p : Processor} {e : Failure ProcessError} (h : p.run b = .error e) :
    realize b (p :: ps) = ⟨.error (e.map fun src => ⟨p.kind, p.path, src⟩), [p]⟩ := by
  cases e <;> simp only [realize, h, Failure.map]

/-- Realizing a list in two parts realizes the first part, then the second on what the first
made; the processors run are those of both parts, in order. -/
theorem realize_append (b : Bytes) (ps qs : List Processor) :
    realize b (ps ++ qs) = (realize b ps).andThen fun doc => realize doc qs := by
  induction ps generalizing b with
  | nil => rfl
  | cons p rest ih =>
    rcases hRun : p.run b with e | next
    · rw [List.cons_append, realize_cons_of_error hRun, realize_cons_of_error hRun]
      rfl
    · rw [List.cons_append, realize_cons_of_ok hRun, realize_cons_of_ok hRun, ih next]
      rcases realize next rest with ⟨f | doc, ran⟩ <;> rfl

theorem exists_first_error {f : Failure RealizeError} (h : (realize b ps).result = .error f) :
    ∃ pre p post doc e, ps = pre ++ p :: post ∧ (realize b pre).result = .ok doc ∧
      p.run doc = .error e := by
  induction ps generalizing b with
  | nil => cases h
  | cons q rest ih =>
    rcases hRun : q.run b with e | next
    · exact ⟨[], q, rest, b, e, rfl, rfl, hRun⟩
    · rw [realize_cons_of_ok hRun] at h
      obtain ⟨pre, p, post, doc, e, rfl, hPre, hp⟩ := ih h
      refine ⟨q :: pre, p, post, doc, e, rfl, ?_, hp⟩
      rw [realize_cons_of_ok hRun]
      exact hPre

/-- A processor that fails on what the processors before it made ends the realization with its
kind and path, and nothing after it runs. -/
theorem realize_of_first_error {pre post : List Processor} {p : Processor} {doc : Bytes}
    {e : Failure ProcessError} (hPre : (realize b pre).result = .ok doc)
    (hp : p.run doc = .error e) :
    realize b (pre ++ p :: post) =
      ⟨.error (e.map fun src => ⟨p.kind, p.path, src⟩), pre ++ [p]⟩ := by
  rw [realize_append, Realized.andThen_of_ok hPre, realize_cons_of_error hp,
    realize_ran_of_ok hPre]

/-- A realization fails exactly at the first processor that fails on what the processors before
it made, with that processor's kind and path, and it runs nothing after that processor. -/
theorem realize_eq_error_iff {f : Failure RealizeError} :
    (realize b ps).result = .error f ↔
      ∃ pre p post doc e, ps = pre ++ p :: post ∧ (realize b pre).result = .ok doc ∧
        p.run doc = .error e ∧ f = e.map (fun src => ⟨p.kind, p.path, src⟩) ∧
        (realize b ps).ran = pre ++ [p] := by
  constructor
  · intro h
    obtain ⟨pre, p, post, doc, e, rfl, hPre, hp⟩ := exists_first_error h
    rw [realize_of_first_error hPre hp] at h ⊢
    exact ⟨pre, p, post, doc, e, rfl, hPre, hp, (Except.error.inj h).symm, rfl⟩
  · rintro ⟨pre, p, post, doc, e, rfl, hPre, hp, rfl, -⟩
    rw [realize_of_first_error hPre hp]

end Realize

/-- Realization is a left fold over the processors that stops at the first failure: no
processors leave the baseline as it is; a list in two parts realizes as the first part followed,
on what it made, by the second; and a failure carries the kind and path of the first processor
that failed, after which nothing runs. -/
theorem realize_short_circuit_fold (b : Bytes) (ps qs : List Processor) :
    realize b [] = ⟨.ok b, []⟩ ∧
      (realize b (ps ++ qs)).result =
        ((realize b ps).result >>= fun doc => (realize doc qs).result) ∧
      realize b (ps ++ qs) = (realize b ps).andThen (fun doc => realize doc qs) ∧
      ∀ f, (realize b ps).result = .error f ↔
        ∃ pre p post doc e, ps = pre ++ p :: post ∧ (realize b pre).result = .ok doc ∧
          p.run doc = .error e ∧ f = e.map (fun src => ⟨p.kind, p.path, src⟩) ∧
          (realize b ps).ran = pre ++ [p] :=
  ⟨rfl, by rw [realize_append, Realized.andThen_result], realize_append b ps qs,
    fun _ => realize_eq_error_iff⟩

/-- What a lookup does along its route: its answer, the processors it runs in order, and the
documents it stores, each at the node that made it. -/
structure Walk where
  result : Except (Failure TreeError) Bytes
  ran : List Processor
  stored : List (NodeId × Bytes)

namespace Grove

variable {g g' : Grove} {inherited : Option Bytes} {xs : List NodeId} {w : Walk}

/-- The walk over nodes read off a grove: a node that recomputes realizes from the document
handed to it, or from its baseline when none is; any other answers its own document. -/
def walk (g : Grove) : Option Bytes → List NodeId → Walk
  | inherited, [] => ⟨.ok (inherited.getD []), [], []⟩
  | inherited, x :: xs =>
    if (g.node x).recomputes then
      let b := inherited.getD (g.node x).baseline
      match realizeAt (g.node x).path b (g.node x).processors with
      | .ok c =>
        let w := g.walk (some c) xs
        ⟨w.result, (realize b (g.node x).processors).ran ++ w.ran, (x, c) :: w.stored⟩
      | .error e => ⟨.error e, (realize b (g.node x).processors).ran, []⟩
    else g.walk (some (g.node x).content) xs

def store (g : Grove) (x : NodeId) (c : Bytes) : Grove :=
  g.modifyNode x fun n => { n with content := c, realized := true }

def after (g : Grove) (w : Walk) : Grove :=
  (w.stored.foldl (fun g s => g.store s.1 s.2) g).note w.ran

theorem walk_of_settled {x : NodeId} (h : (g.node x).recomputes = false) :
    g.walk inherited (x :: xs) = g.walk (some (g.node x).content) xs := by
  simp [walk, h]

theorem walk_of_ok {x : NodeId} {c : Bytes} (h : (g.node x).recomputes = true)
    (hReal : realizeAt (g.node x).path (inherited.getD (g.node x).baseline)
      (g.node x).processors = .ok c) :
    g.walk inherited (x :: xs) =
      ⟨(g.walk (some c) xs).result,
        (realize (inherited.getD (g.node x).baseline) (g.node x).processors).ran ++
          (g.walk (some c) xs).ran, (x, c) :: (g.walk (some c) xs).stored⟩ := by
  simp [walk, h, hReal]

theorem walk_of_error {x : NodeId} {e : Failure TreeError} (h : (g.node x).recomputes = true)
    (hReal : realizeAt (g.node x).path (inherited.getD (g.node x).baseline)
      (g.node x).processors = .error e) :
    g.walk inherited (x :: xs) =
      ⟨.error e, (realize (inherited.getD (g.node x).baseline) (g.node x).processors).ran, []⟩ := by
  simp [walk, h, hReal]

theorem walk_congr (h : ∀ x ∈ xs, g'.node x = g.node x) (inherited : Option Bytes) :
    g'.walk inherited xs = g.walk inherited xs := by
  induction xs generalizing inherited with
  | nil => rfl
  | cons x xs ih =>
    have hRest : ∀ y ∈ xs, g'.node y = g.node y := fun y hy => h y (List.mem_cons_of_mem x hy)
    simp only [walk, h x List.mem_cons_self, ih hRest]

theorem walk_congr_of_children
    (h : ∀ x ∈ xs, g'.node x = { g.node x with children := (g'.node x).children })
    (inherited : Option Bytes) : g'.walk inherited xs = g.walk inherited xs := by
  induction xs generalizing inherited with
  | nil => rfl
  | cons x xs ih =>
    have hRest : ∀ y ∈ xs, g'.node y = { g.node y with children := (g'.node y).children } :=
      fun y hy => h y (List.mem_cons_of_mem x hy)
    have hRe : (g'.node x).recomputes = (g.node x).recomputes := by
      rw [h x List.mem_cons_self]; rfl
    simp only [walk, hRe, ih hRest]
    rw [h x List.mem_cons_self]

theorem stored_sublist : ((g.walk inherited xs).stored.map Prod.fst).Sublist
    (xs.filter fun x => (g.node x).recomputes) := by
  induction xs generalizing inherited with
  | nil => exact List.Sublist.slnil
  | cons x xs ih =>
    cases hRe : (g.node x).recomputes
    · rw [walk_of_settled hRe, List.filter_cons_of_neg (by simp [hRe])]
      exact ih
    · rw [List.filter_cons_of_pos (by exact hRe)]
      cases hReal : realizeAt (g.node x).path (inherited.getD (g.node x).baseline)
          (g.node x).processors with
      | error e => rw [walk_of_error hRe hReal]; exact List.nil_sublist _
      | ok c => rw [walk_of_ok hRe hReal]; exact ih.cons_cons x

theorem mem_stored {s : NodeId × Bytes} (hs : s ∈ (g.walk inherited xs).stored) :
    s.1 ∈ xs ∧ (g.node s.1).recomputes = true := by
  have hMem : s.1 ∈ xs.filter fun x => (g.node x).recomputes :=
    stored_sublist.subset (List.mem_map_of_mem hs)
  simpa using hMem

theorem stored_keys_nodup (h : xs.Nodup) : ((g.walk inherited xs).stored.map Prod.fst).Nodup :=
  (h.filter fun x => (g.node x).recomputes).sublist stored_sublist

@[simp] theorem note_nil : g.note [] = g := by
  simp [note]

theorem note_note (ps qs : List Processor) : (g.note ps).note qs = g.note (ps ++ qs) := by
  simp [note, Array.append_assoc]

theorem store_note (ps : List Processor) (x : NodeId) (c : Bytes) :
    (g.note ps).store x c = (g.store x c).note ps := rfl

theorem foldl_store_note (ps : List Processor) : ∀ (stored : List (NodeId × Bytes)) (g : Grove),
    stored.foldl (fun g s => g.store s.1 s.2) (g.note ps) =
      (stored.foldl (fun g s => g.store s.1 s.2) g).note ps
  | [], _ => rfl
  | s :: stored, g => by
    simp only [List.foldl_cons, store_note]
    exact foldl_store_note ps stored _

@[simp] theorem size_store (x : NodeId) (c : Bytes) : (g.store x c).nodes.size = g.nodes.size :=
  size_modifyNode

theorem size_foldl_store : ∀ (stored : List (NodeId × Bytes)) (g : Grove),
    (stored.foldl (fun g s => g.store s.1 s.2) g).nodes.size = g.nodes.size
  | [], _ => rfl
  | s :: stored, g => by
    rw [List.foldl_cons, size_foldl_store stored, size_store]

@[simp] theorem size_after : (g.after w).nodes.size = g.nodes.size := by
  simp only [after, size_note, size_foldl_store]

theorem node_foldl_store_of_not_mem {y : NodeId} : ∀ (stored : List (NodeId × Bytes)) (g : Grove),
    y ∉ stored.map Prod.fst →
      (stored.foldl (fun g s => g.store s.1 s.2) g).node y = g.node y
  | [], _, _ => rfl
  | s :: stored, g, h => by
    simp only [List.map_cons, List.mem_cons, not_or] at h
    rw [List.foldl_cons, node_foldl_store_of_not_mem stored _ h.2]
    exact node_modifyNode_of_ne h.1

theorem node_foldl_store_of_mem {y : NodeId} {c : Bytes} :
    ∀ (stored : List (NodeId × Bytes)) (g : Grove), (stored.map Prod.fst).Nodup →
      (y, c) ∈ stored → y < g.nodes.size →
      (stored.foldl (fun g s => g.store s.1 s.2) g).node y =
        { g.node y with content := c, realized := true }
  | [], _, _, h, _ => absurd h List.not_mem_nil
  | s :: stored, g, hNodup, h, hy => by
    rw [List.map_cons, List.nodup_cons] at hNodup
    rw [List.foldl_cons]
    rcases List.mem_cons.mp h with rfl | h
    · rw [node_foldl_store_of_not_mem stored _ hNodup.1]
      exact node_modifyNode_self hy
    · have hys : y ≠ s.1 := fun hEq => hNodup.1 (hEq ▸ List.mem_map_of_mem h)
      rw [node_foldl_store_of_mem stored _ hNodup.2 h (by rw [size_store]; exact hy),
        store, node_modifyNode_of_ne hys]

theorem node_after_of_not_mem {y : NodeId} (h : y ∉ w.stored.map Prod.fst) :
    (g.after w).node y = g.node y :=
  node_foldl_store_of_not_mem _ _ h

theorem node_after_of_mem {y : NodeId} {c : Bytes} (hNodup : (w.stored.map Prod.fst).Nodup)
    (h : (y, c) ∈ w.stored) (hy : y < g.nodes.size) :
    (g.after w).node y = { g.node y with content := c, realized := true } :=
  node_foldl_store_of_mem _ _ hNodup h hy

end Grove

namespace Tree

open Grove

variable {path : String}

/-- A lookup is the walk read off the grove it starts from: the route holds each node once, so
realizing one node leaves the rest of the route as it found it. -/
theorem lookupFrom_exec_eq_walk :
    ∀ (fuel : Nat) {g : Grove} {id : NodeId} (inherited : Option Bytes),
      (g.trailFrom path fuel id).Nodup →
      (lookupFrom fuel id path inherited).exec g =
        ((g.walk inherited (g.trailFrom path fuel id)).result,
          g.after (g.walk inherited (g.trailFrom path fuel id)))
  | 0, g, _, _, _ => by simp [lookupFrom, trailFrom, walk, after]
  | fuel + 1, g, id, inherited, hNodup => by
    rw [lookupFrom_succ_exec]
    cases hRe : (g.node id).recomputes
    · rw [visit_exec_of_settled _ hRe]
      dsimp only
      cases hN : g.next path id with
      | none => simp [trailFrom_succ_of_next_none hN, walk_of_settled hRe, walk, after]
      | some c =>
        rw [trailFrom_succ_of_next_some hN] at hNodup ⊢
        rw [walk_of_settled hRe]
        exact lookupFrom_exec_eq_walk fuel _ (List.nodup_cons.mp hNodup).2
    · rw [visit_exec_of_recomputes _ hRe]
      dsimp only
      cases hReal : realizeAt (g.node id).path (inherited.getD (g.node id).baseline)
          (g.node id).processors with
      | error e =>
        cases hN : g.next path id <;>
          simp [trailFrom_succ_of_next_none, trailFrom_succ_of_next_some, hN,
            walk_of_error hRe hReal, after]
      | ok c =>
        dsimp only
        generalize hVisited : (g.note (realize (inherited.getD (g.node id).baseline)
          (g.node id).processors).ran).modifyNode id
            (fun n => { n with content := c, realized := true }) = g₁
        have hNext : ∀ x, g₁.next path x = g.next path x := fun x => by
          rw [← hVisited, next_modifyNode, next_note]
          exact fun _ => ⟨rfl, rfl, rfl⟩
        have hStore : g₁ = (g.store id c).note
            (realize (inherited.getD (g.node id).baseline) (g.node id).processors).ran := by
          rw [← hVisited, ← store_note]; rfl
        rw [hNext]
        cases hN : g.next path id with
        | none =>
          simp [trailFrom_succ_of_next_none hN, walk_of_ok hRe hReal, walk, after, hStore]
        | some c' =>
          dsimp only
          rw [trailFrom_succ_of_next_some hN] at hNodup ⊢
          obtain ⟨hFresh, hNodup⟩ := List.nodup_cons.mp hNodup
          have hKept : ∀ x ∈ g.trailFrom path fuel c', g₁.node x = g.node x := fun x hx => by
            rw [← hVisited, node_modifyNode_of_ne (ne_of_mem_of_not_mem hx hFresh), node_note]
          have hTrail := trailFrom_congr hNext fuel c'
          rw [lookupFrom_exec_eq_walk fuel _ (by rw [hTrail]; exact hNodup), hTrail,
            walk_congr hKept, walk_of_ok hRe hReal]
          simp only [after, List.foldl_cons, hStore, foldl_store_note, note_note]

theorem getDoc_exec_eq_walk {g : Grove} (hs : Sound g) {id : NodeId} {ids : List NodeId}
    (hId : id < g.nodes.size) (hRoute : g.Route path id ids) :
    (getDoc id path).exec g = ((g.walk none ids).result, g.after (g.walk none ids)) := by
  rw [getDoc_exec, hRoute.eq_trailFrom hs hId,
    lookupFrom_exec_eq_walk _ none (trailFrom_nodup hs _ hId)]

end Tree

end RuleOverlay
