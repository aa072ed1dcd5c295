import RuleOverlay.Proofs.Grow
import RuleOverlay.Proofs.Segments
/-! # What a step can do to a grove

Every step of a tree is a chain of a few changes (`Grove.Change`): processors recorded as run, a
new root or a new node sprouted from another added at the end, a node hung under a parent or a
child cut from it, and one node's processors or document replaced. The changes are stated once
here, each with the conditions the step checks before making it, and every invariant of groves
is proved from the changes alone.

The invariant of shape is `Grove.Sound`: every child sits one level below its parent, under its
own name, at the path the parent gives that name, with the parent's mode and driver name; no
node below a root has the empty name; and a node has one child of each name. A node keeps where
it sits, how it realizes and what it starts from for its whole life (`Grove.Keeps`).
-/
namespace RuleOverlay

namespace Node

/-- How a child hangs under its parent by a name: one level deeper, named by the key, at the
path the parent gives that name, with the parent's mode and driver name. -/
structure Hangs (p c : Node) (name : String) : Prop where
  level : c.level = p.level + 1
  key : c.name = name
  path : c.path = p.driver.paths.append p.path name
  mode : c.mode = p.mode
  driver : c.driver.name = p.driver.name

/-- What a node keeps for its whole life: where it sits, how it realizes and what it starts
from. -/
structure SameOrigin (n n' : Node) : Prop where
  name : n'.name = n.name
  path : n'.path = n.path
  level : n'.level = n.level
  mode : n'.mode = n.mode
  driver : n'.driver = n.driver
  baseline : n'.baseline = n.baseline

theorem SameOrigin.refl (n : Node) : n.SameOrigin n := ⟨rfl, rfl, rfl, rfl, rfl, rfl⟩

theorem SameOrigin.trans {n n' n'' : Node} (h : n.SameOrigin n') (h' : n'.SameOrigin n'') :
    n.SameOrigin n'' :=
  ⟨h'.name.trans h.name, h'.path.trans h.path, h'.level.trans h.level, h'.mode.trans h.mode,
    h'.driver.trans h.driver, h'.baseline.trans h.baseline⟩

theorem Hangs.of_sameOrigin {p c p' c' : Node} {name : String} (h : p.Hangs c name)
    (hp : p.SameOrigin p') (hc : c.SameOrigin c') : p'.Hangs c' name where
  level := by rw [hc.level, hp.level, h.level]
  key := by rw [hc.name, h.key]
  path := by rw [hc.path, hp.path, hp.driver, h.path]
  mode := by rw [hc.mode, hp.mode, h.mode]
  driver := by rw [hc.driver, hp.driver, h.driver]

theorem hangs_sprout (p : Node) (name : String) : p.Hangs (p.sprout name) name :=
  ⟨rfl, rfl, rfl, rfl, rfl⟩

theorem mem_withChild {n : Node} {name : String} {c : NodeId} {e : String × NodeId} :
    e ∈ (n.withChild name c).children ↔ e = (name, c) ∨ (e ∈ n.children ∧ e.1 ≠ name) := by
  simp [withChild]

theorem mem_withoutChild {n : Node} {name : String} {e : String × NodeId} :
    e ∈ (n.withoutChild name).children ↔ e ∈ n.children ∧ e.1 ≠ name := by
  simp [withoutChild]

theorem child?_withChild_of_ne {n : Node} {name other : String} {c : NodeId} (h : other ≠ name) :
    (n.withChild name c).child? other = n.child? other := by
  have hOther : (other == name) = false := beq_eq_false_iff_ne.mpr h
  have hDrop : ∀ l : List (String × NodeId),
      (l.filter (·.1 != name)).lookup other = l.lookup other := by
    intro l
    induction l with
    | nil => rfl
    | cons e l ih =>
      obtain ⟨k, v⟩ := e
      by_cases hKey : k = name
      · subst hKey
        simp [ih, List.lookup_cons, hOther]
      · simp [hKey, ih, List.lookup_cons]
  simp [child?, withChild, List.lookup_cons, hOther, hDrop]

theorem mem_of_child? {n : Node} {name : String} {c : NodeId} (h : n.child? name = some c) :
    (name, c) ∈ n.children := by
  obtain ⟨l₁, l₂, hSplit, -⟩ := List.lookup_eq_some_iff.mp h
  rw [hSplit]
  exact List.mem_append_right _ List.mem_cons_self

theorem child?_eq_none_iff {n : Node} {name : String} :
    n.child? name = none ↔ ∀ c, (name, c) ∉ n.children := by
  simp only [child?, List.lookup_eq_none_iff, bne_iff_ne, ne_eq]
  constructor
  · intro h c hMem
    exact h _ hMem rfl
  · rintro h ⟨x, c⟩ hMem rfl
    exact h c hMem

theorem child?_eq_some_of_mem {n : Node} {name : String} {c : NodeId}
    (hNodup : (n.children.map Prod.fst).Nodup) (h : (name, c) ∈ n.children) :
    n.child? name = some c := by
  obtain ⟨l₁, l₂, hSplit⟩ := List.append_of_mem h
  have hFree : ∀ p ∈ l₁, name ≠ p.1 := by
    intro p hp hEq
    rw [hSplit, List.map_append, List.map_cons] at hNodup
    exact (List.nodup_append.mp hNodup).2.2 _ (List.mem_map_of_mem hp) _
      List.mem_cons_self hEq.symm
  exact List.lookup_eq_some_iff.mpr ⟨l₁, l₂, hSplit, fun p hp => bne_iff_ne.mpr (hFree p hp)⟩

theorem keys_withChild_nodup {n : Node} {name : String} {c : NodeId}
    (h : (n.children.map Prod.fst).Nodup) : ((n.withChild name c).children.map Prod.fst).Nodup := by
  refine List.nodup_cons.mpr ⟨?_, h.sublist ((List.filter_sublist).map _)⟩
  simp

theorem keys_withoutChild_nodup {n : Node} {name : String}
    (h : (n.children.map Prod.fst).Nodup) :
    ((n.withoutChild name).children.map Prod.fst).Nodup :=
  h.sublist ((List.filter_sublist).map _)

end Node

namespace Grove

variable {g g' g'' : Grove}

theorem node_add (n : Node) (i : NodeId) :
    (g.add n).1.node i =
      if i < g.nodes.size then g.node i else if i = g.nodes.size then n else default := by
  by_cases hLt : i < g.nodes.size
  · rw [if_pos hLt]; exact node_add_of_lt hLt
  · by_cases hEq : i = g.nodes.size
    · rw [if_neg hLt, if_pos hEq, hEq]; exact node_add_size
    · rw [if_neg hLt, if_neg hEq]
      exact node_eq_default (by
        rw [size_add]; exact Nat.lt_of_le_of_ne (Nat.not_lt.mp hLt) (Ne.symm hEq))

theorem node_modifyNode {id : NodeId} {f : Node → Node} (h : id < g.nodes.size) (i : NodeId) :
    (g.modifyNode id f).node i = if i = id then f (g.node i) else g.node i := by
  split
  · subst i; exact node_modifyNode_self h
  · exact node_modifyNode_of_ne ‹_›

/-- The changes a step makes to a grove, one at a time, each with the conditions the step checks
before making it. -/
inductive Change : Grove → Grove → Prop
  /-- processors were run -/
  | note (g : Grove) (ps : List Processor) : Change g (g.note ps)
  /-- the root of a new tree -/
  | plant (g : Grove) (d : Driver) (m : Mode) (name : String) (t : Bytes) :
      Change g (g.add (Node.root d m name t)).1
  /-- a new node sprouted from a node, not yet hung under it -/
  | sprout {g : Grove} {id : NodeId} (name : String) (hId : id < g.nodes.size)
      (hName : name ≠ "") : Change g (g.add ((g.node id).sprout name)).1
  /-- a node hung under a parent by a name, in place of any child of that name -/
  | hang {g : Grove} {p c : NodeId} {name : String} (hp : p < g.nodes.size)
      (hc : c < g.nodes.size) (hHangs : (g.node p).Hangs (g.node c) name) :
      Change g (g.modifyNode p (·.withChild name c))
  /-- the child of a name cut from a node -/
  | cut {g : Grove} {p : NodeId} (name : String) (hp : p < g.nodes.size) :
      Change g (g.modifyNode p (·.withoutChild name))
  /-- processors bound to a lazy node, to run on a later visit -/
  | bind {g : Grove} {id : NodeId} (ps : List Processor) (hId : id < g.nodes.size)
      (hLazy : (g.node id).mode.isLazy = true) :
      Change g (g.modifyNode id fun n => { n with processors := ps, realized := false })
  /-- processors bound to an eager node and realized from its baseline -/
  | settle {g : Grove} {id : NodeId} {ps : List Processor} {c : Bytes} (hId : id < g.nodes.size)
      (hEager : (g.node id).mode.isLazy = false)
      (hReal : realizeAt (g.node id).path (g.node id).baseline ps = .ok c) :
      Change g (g.modifyNode id fun n => { n with content := c, processors := ps, realized := true })
  /-- a node realized on a visit from the document it was handed -/
  | refresh {g : Grove} {id : NodeId} {b c : Bytes} (hId : id < g.nodes.size)
      (hRecomputes : (g.node id).recomputes = true)
      (hReal : realizeAt (g.node id).path b (g.node id).processors = .ok c) :
      Change g (g.modifyNode id fun n => { n with content := c, realized := true })

abbrev Changes : Grove → Grove → Prop := Relation.ReflTransGen Change

/-- `g'` keeps the nodes of `g`: it has at least as many, and each keeps its origin. -/
structure Keeps (g g' : Grove) : Prop where
  size_le : g.nodes.size ≤ g'.nodes.size
  origin : ∀ {i}, i < g.nodes.size → (g.node i).SameOrigin (g'.node i)

theorem Keeps.refl (g : Grove) : Keeps g g := ⟨Nat.le_refl _, fun _ => .refl _⟩

theorem Keeps.trans (h : Keeps g g') (h' : Keeps g' g'') : Keeps g g'' :=
  ⟨Nat.le_trans h.size_le h'.size_le,
    fun hi => (h.origin hi).trans (h'.origin (Nat.lt_of_lt_of_le hi h.size_le))⟩

theorem keeps_add (n : Node) : Keeps g (g.add n).1 :=
  ⟨by simp, fun hi => by rw [node_add_of_lt hi]; exact .refl _⟩

theorem keeps_modifyNode {id : NodeId} {f : Node → Node} (hf : ∀ n : Node, n.SameOrigin (f n)) :
    Keeps g (g.modifyNode id f) := by
  refine ⟨by simp, fun {i} hi => ?_⟩
  by_cases hEq : i = id
  · subst hEq; rw [node_modifyNode_self hi]; exact hf _
  · rw [node_modifyNode_of_ne hEq]; exact .refl _

theorem Change.keeps (h : Change g g') : Keeps g g' := by
  cases h with
  | note => exact ⟨Nat.le_refl _, fun _ => .refl _⟩
  | plant => exact keeps_add _
  | sprout => exact keeps_add _
  | hang => exact keeps_modifyNode fun _ => ⟨rfl, rfl, rfl, rfl, rfl, rfl⟩
  | cut => exact keeps_modifyNode fun _ => ⟨rfl, rfl, rfl, rfl, rfl, rfl⟩
  | bind => exact keeps_modifyNode fun _ => ⟨rfl, rfl, rfl, rfl, rfl, rfl⟩
  | settle => exact keeps_modifyNode fun _ => ⟨rfl, rfl, rfl, rfl, rfl, rfl⟩
  | refresh => exact keeps_modifyNode fun _ => ⟨rfl, rfl, rfl, rfl, rfl, rfl⟩

theorem Changes.keeps (h : Changes g g') : Keeps g g' := by
  induction h with
  | refl => exact .refl _
  | tail _ hStep ih => exact ih.trans hStep.keeps

theorem modifyNode_of_size_le {id : NodeId} {f : Node → Node} (h : g.nodes.size ≤ id) :
    g.modifyNode id f = g := by
  have hNodes : g.nodes.modify id f = g.nodes := by
    apply Array.ext_getElem?
    intro j
    rw [Array.getElem?_modify]
    split
    · subst j; simp [Array.getElem?_eq_none h]
    · rfl
  simp only [modifyNode, hNodes]

theorem origin_modifyNode {id : NodeId} {f : Node → Node} (hf : ∀ n : Node, n.SameOrigin (f n))
    (i : NodeId) : (g.node i).SameOrigin ((g.modifyNode id f).node i) := by
  by_cases hId : id < g.nodes.size
  · rw [node_modifyNode hId]
    split
    · exact hf _
    · exact .refl _
  · rw [modifyNode_of_size_le (Nat.not_lt.mp hId)]
    exact .refl _

theorem mem_children_modifyNode {id i : NodeId} {f : Node → Node} {e : String × NodeId}
    (h : e ∈ ((g.modifyNode id f).node i).children) :
    (i = id ∧ id < g.nodes.size ∧ e ∈ (f (g.node id)).children) ∨
      (i ≠ id ∧ e ∈ (g.node i).children) ∨ e ∈ (g.node i).children := by
  by_cases hId : id < g.nodes.size
  · rw [node_modifyNode hId] at h
    split at h
    · subst i; exact .inl ⟨rfl, hId, h⟩
    · exact .inr (.inl ⟨‹_›, h⟩)
  · rw [modifyNode_of_size_le (Nat.not_lt.mp hId)] at h
    exact .inr (.inr h)

/-- The shape of every grove a session reaches: each child hangs under its parent as it should,
names below a root are never empty, and a node has one child of each name. -/
structure Sound (g : Grove) : Prop where
  child_lt : ∀ {i : NodeId} {name : String} {c : NodeId},
    (name, c) ∈ (g.node i).children → c < g.nodes.size
  hangs : ∀ {i : NodeId} {name : String} {c : NodeId},
    (name, c) ∈ (g.node i).children → (g.node i).Hangs (g.node c) name
  named : ∀ {i : NodeId}, 0 < (g.node i).level → (g.node i).name ≠ ""
  keys_nodup : ∀ i, ((g.node i).children.map Prod.fst).Nodup

theorem sound_empty : Sound Grove.empty := by
  have hKids : ∀ i, (Grove.empty.node i).children = [] := fun _ => rfl
  have hLevel : ∀ i, (Grove.empty.node i).level = 0 := fun _ => rfl
  refine ⟨fun {i _ _} h => ?_, fun {i _ _} h => ?_, fun {i} h => ?_, fun i => ?_⟩
  · rw [hKids i] at h; exact absurd h List.not_mem_nil
  · rw [hKids i] at h; exact absurd h List.not_mem_nil
  · rw [hLevel i] at h; exact absurd h (Nat.lt_irrefl 0)
  · rw [hKids i]; exact List.nodup_nil

/-- Adding nodes keeps a grove sound when the old nodes stay as they are and the new ones have
no children and a name if they sit below a root. -/
theorem Sound.of_extends (hs : Sound g) (hSize : g.nodes.size ≤ g'.nodes.size)
    (hOld : ∀ {i}, i < g.nodes.size → g'.node i = g.node i)
    (hNew : ∀ {i}, g.nodes.size ≤ i →
      (g'.node i).children = [] ∧ (0 < (g'.node i).level → (g'.node i).name ≠ "")) :
    Sound g' := by
  have hOldKids : ∀ {i e}, e ∈ (g'.node i).children → i < g.nodes.size ∧ e ∈ (g.node i).children := by
    intro i e he
    by_cases hi : i < g.nodes.size
    · exact ⟨hi, hOld hi ▸ he⟩
    · rw [(hNew (Nat.not_lt.mp hi)).1] at he
      simp at he
  refine ⟨fun h => ?_, fun h => ?_, fun {i} hLevel => ?_, fun i => ?_⟩
  · exact Nat.lt_of_lt_of_le (hs.child_lt (hOldKids h).2) hSize
  · obtain ⟨hi, hMem⟩ := hOldKids h
    rw [hOld hi, hOld (hs.child_lt hMem)]
    exact hs.hangs hMem
  · by_cases hi : i < g.nodes.size
    · rw [hOld hi] at hLevel ⊢
      exact hs.named hLevel
    · exact (hNew (Nat.not_lt.mp hi)).2 hLevel
  · by_cases hi : i < g.nodes.size
    · rw [hOld hi]
      exact hs.keys_nodup i
    · rw [(hNew (Nat.not_lt.mp hi)).1]
      simp

theorem Sound.add (hs : Sound g) {n : Node} (hKids : n.children = [])
    (hNamed : 0 < n.level → n.name ≠ "") : Sound (g.add n).1 := by
  refine hs.of_extends (by simp) (fun hi => node_add_of_lt hi) (fun {i} hi => ?_)
  rw [node_add]
  rw [if_neg (Nat.not_lt.mpr hi)]
  split
  · exact ⟨hKids, hNamed⟩
  · exact ⟨rfl, fun h => absurd h (Nat.lt_irrefl 0)⟩

/-- A change in place keeps a grove sound when it keeps every origin, and every child it gives
a node either was there or hangs under it as it should. -/
theorem Sound.of_origin (hs : Sound g) (hSize : g'.nodes.size = g.nodes.size)
    (hOrigin : ∀ i, (g.node i).SameOrigin (g'.node i))
    (hKids : ∀ {i name c}, (name, c) ∈ (g'.node i).children →
      (name, c) ∈ (g.node i).children ∨ (c < g.nodes.size ∧ (g.node i).Hangs (g.node c) name))
    (hNodup : ∀ i, ((g'.node i).children.map Prod.fst).Nodup) : Sound g' := by
  refine ⟨fun h => ?_, fun {i name c} h => ?_, fun {i} hLevel => ?_, hNodup⟩
  · rw [hSize]
    rcases hKids h with hMem | ⟨hc, -⟩
    · exact hs.child_lt hMem
    · exact hc
  · rcases hKids h with hMem | ⟨-, hHangs⟩
    · exact (hs.hangs hMem).of_sameOrigin (hOrigin i) (hOrigin c)
    · exact hHangs.of_sameOrigin (hOrigin i) (hOrigin c)
  · rw [(hOrigin i).level] at hLevel
    rw [(hOrigin i).name]
    exact hs.named hLevel

theorem Sound.modify_docs (hs : Sound g) {id : NodeId} {f : Node → Node}
    (hf : ∀ n : Node, n.SameOrigin (f n)) (hKids : ∀ n : Node, (f n).children = n.children) :
    Sound (g.modifyNode id f) := by
  refine hs.of_origin (by simp) (origin_modifyNode hf) (fun {i _ _} h => .inl ?_) (fun i => ?_)
  · rcases mem_children_modifyNode h with ⟨rfl, -, hMem⟩ | ⟨-, hMem⟩ | hMem
    · rwa [hKids] at hMem
    · exact hMem
    · exact hMem
  · by_cases hId : id < g.nodes.size
    · rw [node_modifyNode hId]
      split
      · rw [hKids]; exact hs.keys_nodup i
      · exact hs.keys_nodup i
    · rw [modifyNode_of_size_le (Nat.not_lt.mp hId)]
      exact hs.keys_nodup i

theorem Sound.cut (hs : Sound g) {p : NodeId} (name : String) :
    Sound (g.modifyNode p (·.withoutChild name)) := by
  refine hs.of_origin (by simp) (origin_modifyNode fun _ => ⟨rfl, rfl, rfl, rfl, rfl, rfl⟩)
    (fun {i _ _} h => .inl ?_) (fun i => ?_)
  · rcases mem_children_modifyNode h with ⟨rfl, -, hMem⟩ | ⟨-, hMem⟩ | hMem
    · exact (Node.mem_withoutChild.mp hMem).1
    · exact hMem
    · exact hMem
  · by_cases hId : p < g.nodes.size
    · rw [node_modifyNode hId]
      split
      · exact Node.keys_withoutChild_nodup (hs.keys_nodup i)
      · exact hs.keys_nodup i
    · rw [modifyNode_of_size_le (Nat.not_lt.mp hId)]
      exact hs.keys_nodup i

theorem Sound.hang (hs : Sound g) {p c : NodeId} {name : String} (hp : p < g.nodes.size)
    (hc : c < g.nodes.size) (hHangs : (g.node p).Hangs (g.node c) name) :
    Sound (g.modifyNode p (·.withChild name c)) := by
  refine hs.of_origin (by simp) (origin_modifyNode fun _ => ⟨rfl, rfl, rfl, rfl, rfl, rfl⟩)
    (fun {i _ _} h => ?_) (fun i => ?_)
  · rcases mem_children_modifyNode h with ⟨rfl, -, hMem⟩ | ⟨-, hMem⟩ | hMem
    · rcases Node.mem_withChild.mp hMem with hNew | ⟨hOld, -⟩
      · obtain ⟨rfl, rfl⟩ := Prod.mk.inj hNew
        exact .inr ⟨hc, hHangs⟩
      · exact .inl hOld
    · exact .inl hMem
    · exact .inl hMem
  · rw [node_modifyNode hp]
    split
    · exact Node.keys_withChild_nodup (hs.keys_nodup i)
    · exact hs.keys_nodup i

theorem Change.sound (h : Change g g') (hs : Sound g) : Sound g' := by
  cases h with
  | note => exact ⟨hs.child_lt, hs.hangs, hs.named, hs.keys_nodup⟩
  | plant => exact hs.add rfl fun h => absurd h (Nat.lt_irrefl 0)
  | sprout name _ hName => exact hs.add rfl fun _ => hName
  | hang hp hc hHangs => exact hs.hang hp hc hHangs
  | cut name => exact hs.cut name
  | bind => exact hs.modify_docs (fun _ => ⟨rfl, rfl, rfl, rfl, rfl, rfl⟩) fun _ => rfl
  | settle => exact hs.modify_docs (fun _ => ⟨rfl, rfl, rfl, rfl, rfl, rfl⟩) fun _ => rfl
  | refresh => exact hs.modify_docs (fun _ => ⟨rfl, rfl, rfl, rfl, rfl, rfl⟩) fun _ => rfl

theorem Changes.sound (h : Changes g g') (hs : Sound g) : Sound g' := by
  induction h with
  | refl => exact hs
  | tail _ hStep ih => exact hStep.sound ih

end Grove

end RuleOverlay
