import Mathlib
import RuleOverlay.Forest.Basic
/-! # What a forest's operations do with their builders' runs

Every operation of a forest that runs builders does two things: it runs some builders, each
once and in a fixed order, and it folds what those runs ended with into the forest. The fold
does not depend on the monad the builders run in, so it is stated here once, as the forest after
an outcome (`Forest.record` for a run that binds its builder, `Forest.renew` for a rebuild that
does not), and each operation is proved to be its runs followed by that fold. A run that fails or
panics is an outcome like any other, and it leaves the forest as it was.

Read as maps, trees and bindings are updated by name, the last run that made a tree of a name
winning. Along any session of operations the forest keeps one tree and one binding per name,
each tree under the name of its own root, so `names` is the sorted set of those names and `len`
their number.
-/
namespace RuleOverlay

namespace Outcome

def isBuilt : Outcome → Bool
  | .built _ _ => true
  | _ => false

def rootFor (name : String) : Outcome → Option NodeId
  | .built n root => if n = name then some root else none
  | _ => none

def Named (nameOf : NodeId → String) : Outcome → Prop
  | .built n root => nameOf root = n
  | _ => True

end Outcome

namespace Forest

variable {β : Type}

/-- The forest after a run of `b` ended with `o`: a tree made is installed under its name, with
`b` bound to that name; an error or a panic changes nothing. -/
def record (f : Forest β) (b : β) : Outcome → Forest β
  | .built name root => (f.bind name b).set name root
  | _ => f

def recordAll (f : Forest β) : List β → List Outcome → Forest β
  | b :: bs, o :: os => (f.record b o).recordAll bs os
  | _, _ => f

def renew (f : Forest β) : Outcome → Forest β
  | .built name root => f.set name root
  | _ => f

section Runs

variable {m : Type → Type} [Monad m] [LawfulMonad m] (run : β → m Outcome)

theorem install_eq (f : Forest β) (b : β) :
    f.install run b = (fun o => (f.record b o, o.isBuilt)) <$> run b := by
  rw [install, map_eq_bind_pure_comp]
  congr 1
  funext o
  cases o <;> rfl

theorem installAll_eq (f : Forest β) (bs : List β) :
    f.installAll run bs = f.recordAll bs <$> bs.mapM run := by
  induction bs generalizing f with
  | nil => simp [installAll, recordAll]
  | cons b bs ih =>
    have hStep : f.installAll run (b :: bs) =
        f.install run b >>= fun p => p.1.installAll run bs := by
      simp [installAll]
    rw [hStep, install_eq, List.mapM_cons]
    simp only [bind_map_left, ih, map_bind, Functor.map_map, bind_pure_comp]
    rfl

theorem build_eq (f : Forest β) : f.build run = f.recordAll f.builders <$> f.builders.mapM run :=
  installAll_eq run f f.builders

theorem append_eq (f : Forest β) (bs : List β) :
    f.append run bs = (f.register bs).recordAll bs <$> bs.mapM run :=
  installAll_eq run (f.register bs) bs

theorem new_eq (bs : List β) :
    Forest.new run bs = (empty.register bs).recordAll bs <$> bs.mapM run :=
  installAll_eq run (empty.register bs) bs

/-- A rebuild of a name runs the builder bound to it, if any, and renews the forest with what
the run ended with; a name with no builder runs nothing. -/
theorem refreshTree_eq (f : Forest β) (name : String) :
    f.refreshTree run name = (f.bound.lookup name).elim (pure (f, false))
      fun b => (fun o => (f.renew o, o.isBuilt)) <$> run b := by
  rw [refreshTree]
  cases f.bound.lookup name with
  | none => rfl
  | some b =>
    dsimp only
    rw [Option.elim_some, map_eq_bind_pure_comp]
    congr 1
    funext o
    cases o <;> rfl

end Runs

/-! ### Trees and bindings as maps by name -/

section Upsert

variable {γ : Type}

theorem lookup_filter_of_ne {n k : String} (h : n ≠ k) :
    ∀ l : List (String × γ), (l.filter (·.1 != n)).lookup k = l.lookup k
  | [] => rfl
  | (a, w) :: l => by
    by_cases ha : a = n
    · subst ha
      have hk : (k == a) = false := by simpa using Ne.symm h
      rw [List.filter_cons_of_neg (by simp), lookup_filter_of_ne h l, List.lookup_cons, hk]
    · rw [List.filter_cons_of_pos (by simpa using ha), List.lookup_cons, List.lookup_cons,
        lookup_filter_of_ne h l]

theorem lookup_upsert (l : List (String × γ)) (n k : String) (v : γ) :
    ((n, v) :: l.filter (·.1 != n)).lookup k = if n = k then some v else l.lookup k := by
  by_cases h : n = k
  · subst h
    simp
  · have hk : (k == n) = false := by simpa using Ne.symm h
    rw [if_neg h, List.lookup_cons, lookup_filter_of_ne h l, hk]

theorem keys_upsert_nodup {l : List (String × γ)} (hl : (l.map (·.1)).Nodup) (n : String)
    (v : γ) : (((n, v) :: l.filter (·.1 != n)).map (·.1)).Nodup := by
  rw [List.map_cons, List.nodup_cons]
  refine ⟨fun hn => ?_, ((List.filter_sublist).map _).nodup hl⟩
  obtain ⟨⟨a, w⟩, hMem, rfl⟩ := List.mem_map.mp hn
  simp at hMem

theorem mem_upsert {l : List (String × γ)} {n k : String} {v w : γ}
    (h : (k, w) ∈ (n, v) :: l.filter (·.1 != n)) : (k, w) = (n, v) ∨ (k, w) ∈ l := by
  rcases List.mem_cons.mp h with h | h
  · exact .inl h
  · exact .inr (List.mem_filter.mp h).1

end Upsert

theorem get?_set (f : Forest β) (n k : String) (r : NodeId) :
    (f.set n r).get? k = if n = k then some r else f.get? k :=
  lookup_upsert f.trees n k r

theorem lookup_bind (f : Forest β) (n k : String) (b : β) :
    (f.bind n b).bound.lookup k = if n = k then some b else f.bound.lookup k :=
  lookup_upsert f.bound n k b

theorem get?_record (f : Forest β) (b : β) (o : Outcome) (k : String) :
    (f.record b o).get? k = (o.rootFor k).or (f.get? k) := by
  cases o with
  | built n r =>
    rw [record, get?_set, Outcome.rootFor]
    split_ifs <;> rfl
  | failed => rfl
  | panicked => rfl

/-- After a run, a name is bound to the run's builder if the run made a tree of that name, and
else to what it was bound to. -/
theorem lookup_record (f : Forest β) (b : β) (o : Outcome) (k : String) :
    (f.record b o).bound.lookup k = ((o.rootFor k).map fun _ => b).or (f.bound.lookup k) := by
  cases o with
  | built n r =>
    change (f.bind n b).bound.lookup k = _
    rw [lookup_bind, Outcome.rootFor]
    split_ifs <;> rfl
  | failed => rfl
  | panicked => rfl

theorem builders_record (f : Forest β) (b : β) (o : Outcome) :
    (f.record b o).builders = f.builders := by
  cases o <;> rfl

/-- After runs in order, a name has the tree the last run that made one of that name made, and
the tree it had when no run made one. -/
theorem get?_recordAll (k : String) : ∀ (f : Forest β) (bs : List β) (os : List Outcome),
    (f.recordAll bs os).get? k =
      ((bs.zip os).reverse.findSome? fun p => p.2.rootFor k).or (f.get? k)
  | _, [], _ => rfl
  | _, _ :: _, [] => rfl
  | f, b :: bs, o :: os => by
    rw [recordAll, get?_recordAll k _ bs os, get?_record, List.zip_cons_cons, List.reverse_cons,
      List.findSome?_append, List.findSome?_singleton, Option.or_assoc]

/-- After runs in order, a name is bound to the builder of the last run that made a tree of that
name, and to what it was bound to when no run made one. -/
theorem lookup_recordAll (k : String) : ∀ (f : Forest β) (bs : List β) (os : List Outcome),
    (f.recordAll bs os).bound.lookup k =
      ((bs.zip os).reverse.findSome? fun p => (p.2.rootFor k).map fun _ => p.1).or
        (f.bound.lookup k)
  | _, [], _ => rfl
  | _, _ :: _, [] => rfl
  | f, b :: bs, o :: os => by
    rw [recordAll, lookup_recordAll k _ bs os, lookup_record, List.zip_cons_cons,
      List.reverse_cons, List.findSome?_append, List.findSome?_singleton, Option.or_assoc]

theorem builders_recordAll : ∀ (f : Forest β) (bs : List β) (os : List Outcome),
    (f.recordAll bs os).builders = f.builders
  | _, [], _ => rfl
  | _, _ :: _, [] => rfl
  | f, b :: bs, o :: os => by
    rw [recordAll, builders_recordAll _ bs os, builders_record]

theorem get?_renew (f : Forest β) (o : Outcome) (k : String) :
    (f.renew o).get? k = (o.rootFor k).or (f.get? k) := by
  cases o with
  | built n r =>
    rw [renew, get?_set, Outcome.rootFor]
    split_ifs <;> rfl
  | failed => rfl
  | panicked => rfl

theorem renew_bound (f : Forest β) (o : Outcome) : (f.renew o).bound = f.bound ∧
    (f.renew o).builders = f.builders := by
  cases o <;> exact ⟨rfl, rfl⟩

/-! ### One tree per name -/

/-- A forest holds one tree and one binding per name, and every tree under the name of its
root. -/
structure Keyed (nameOf : NodeId → String) (f : Forest β) : Prop where
  trees_nodup : (f.trees.map (·.1)).Nodup
  bound_nodup : (f.bound.map (·.1)).Nodup
  own_name : ∀ k r, (k, r) ∈ f.trees → nameOf r = k

section Keyed

variable {nameOf : NodeId → String} {f : Forest β}

theorem keyed_empty : (empty : Forest β).Keyed nameOf :=
  ⟨List.nodup_nil, List.nodup_nil, fun _ _ h => absurd h List.not_mem_nil⟩

theorem Keyed.register (hf : f.Keyed nameOf) (bs : List β) : (f.register bs).Keyed nameOf :=
  ⟨hf.trees_nodup, hf.bound_nodup, hf.own_name⟩

theorem Keyed.bind (hf : f.Keyed nameOf) (n : String) (b : β) : (f.bind n b).Keyed nameOf :=
  ⟨hf.trees_nodup, keys_upsert_nodup hf.bound_nodup n b, hf.own_name⟩

theorem Keyed.set (hf : f.Keyed nameOf) {n : String} {r : NodeId} (h : nameOf r = n) :
    (f.set n r).Keyed nameOf := by
  refine ⟨keys_upsert_nodup hf.trees_nodup n r, hf.bound_nodup, fun k r' hMem => ?_⟩
  rcases mem_upsert hMem with hEq | hMem
  · obtain ⟨rfl, rfl⟩ := Prod.mk.inj hEq
    exact h
  · exact hf.own_name k r' hMem

theorem Keyed.record (hf : f.Keyed nameOf) (b : β) {o : Outcome} (h : o.Named nameOf) :
    (f.record b o).Keyed nameOf := by
  cases o with
  | built n r => exact (hf.bind n b).set h
  | failed => exact hf
  | panicked => exact hf

theorem Keyed.recordAll {bs : List β} {os : List Outcome} (h : ∀ o ∈ os, o.Named nameOf) :
    ∀ {f : Forest β}, f.Keyed nameOf → (f.recordAll bs os).Keyed nameOf := by
  induction bs generalizing os with
  | nil => exact fun hf => hf
  | cons b bs ih =>
    cases os with
    | nil => exact fun hf => hf
    | cons o os =>
      intro f hf
      exact ih (fun o' h' => h o' (List.mem_cons_of_mem o h'))
        (hf.record b (h o List.mem_cons_self))

theorem Keyed.renew (hf : f.Keyed nameOf) {o : Outcome} (h : o.Named nameOf) :
    (f.renew o).Keyed nameOf := by
  cases o with
  | built n r => exact hf.set h
  | failed => exact hf
  | panicked => exact hf

theorem Keyed.get?_name (hf : f.Keyed nameOf) {k : String} {r : NodeId}
    (h : f.get? k = some r) : nameOf r = k := by
  obtain ⟨l₁, l₂, hTrees, -⟩ := List.lookup_eq_some_iff.mp h
  exact hf.own_name k r (by rw [hTrees]; simp)

theorem mem_names (f : Forest β) (k : String) : k ∈ f.names ↔ (f.get? k).isSome := by
  rw [names, List.mem_mergeSort, get?, List.lookup_isSome_iff]
  simp only [List.mem_map, beq_iff_eq]
  exact ⟨fun ⟨p, hp, hk⟩ => ⟨p, hp, hk.symm⟩, fun ⟨p, hp, hk⟩ => ⟨p, hp, hk.symm⟩⟩

theorem len_eq_length_names (f : Forest β) : f.len = f.names.length := by
  rw [len, names, List.length_mergeSort, List.length_map]

theorem Keyed.names_sorted (hf : f.Keyed nameOf) : f.names.Pairwise (· < ·) := by
  have hSorted : f.names.Pairwise fun a b => decide (a ≤ b) = true :=
    List.pairwise_mergeSort (fun a b c hab hbc => by simp at *; exact le_trans hab hbc)
      (fun a b => by simpa using le_total a b) _
  have hNodup : f.names.Nodup := (List.mergeSort_perm _ _).nodup_iff.mpr hf.trees_nodup
  exact (hSorted.and hNodup).imp fun h => lt_of_le_of_ne (by simpa using h.1) h.2

end Keyed

/-! ### Sessions -/

section Session

variable {σ : Type} (run : β → StateM σ Outcome) (nameOf : NodeId → String)

/-- One operation of a session on a forest whose builders run in a state `σ`, doing whatever
`run` makes of it: each run may make a tree, fail or panic. `set` installs a tree under the
name of its root. -/
inductive Move : Forest β × σ → Forest β × σ → Prop
  | new (f : Forest β) (s : σ) (bs : List β) : Move (f, s) ((Forest.new run bs).run s)
  | register (f : Forest β) (s : σ) (bs : List β) : Move (f, s) (f.register bs, s)
  | append (f : Forest β) (s : σ) (bs : List β) : Move (f, s) ((f.append run bs).run s)
  | build (f : Forest β) (s : σ) : Move (f, s) ((f.build run).run s)
  | refreshTree (f : Forest β) (s : σ) (name : String) :
      Move (f, s) (((f.refreshTree run name).run s).1.1, ((f.refreshTree run name).run s).2)
  | bind (f : Forest β) (s : σ) (name : String) (b : β) : Move (f, s) (f.bind name b, s)
  | set (f : Forest β) (s : σ) (root : NodeId) : Move (f, s) (f.set (nameOf root) root, s)

variable {run nameOf}

theorem mapM_run_cons (b : β) (bs : List β) (s : σ) :
    ((b :: bs).mapM run).run s =
      (((run b).run s).1 :: ((bs.mapM run).run ((run b).run s).2).1,
        ((bs.mapM run).run ((run b).run s).2).2) := by
  rw [List.mapM_cons]
  rfl

theorem outcomes_named (hNamed : ∀ b s, ((run b).run s).1.Named nameOf) :
    ∀ (bs : List β) (s : σ), ∀ o ∈ ((bs.mapM run).run s).1, o.Named nameOf
  | [], _, o, h => absurd h List.not_mem_nil
  | b :: bs, s, o, h => by
    rw [mapM_run_cons] at h
    rcases List.mem_cons.mp h with rfl | h
    · exact hNamed b s
    · exact outcomes_named hNamed bs _ o h

theorem recordAll_run_keyed (hNamed : ∀ b s, ((run b).run s).1.Named nameOf) {f : Forest β}
    (hf : f.Keyed nameOf) (bs : List β) (s : σ) :
    ((f.recordAll bs <$> bs.mapM run).run s).1.Keyed nameOf := by
  rw [StateT.run_map]
  exact hf.recordAll (outcomes_named hNamed bs s)

/-- Every operation keeps one tree and one binding per name, each tree under the name of its
root, when the builders report the names of the trees they make. -/
theorem Move.keyed (hNamed : ∀ b s, ((run b).run s).1.Named nameOf) {p q : Forest β × σ}
    (h : Move run nameOf p q) (hp : p.1.Keyed nameOf) : q.1.Keyed nameOf := by
  cases h with
  | new f s bs =>
    rw [new_eq]
    exact recordAll_run_keyed hNamed (keyed_empty.register bs) bs s
  | register f s bs => exact hp.register bs
  | append f s bs =>
    rw [append_eq]
    exact recordAll_run_keyed hNamed (hp.register bs) bs s
  | build f s =>
    rw [build_eq]
    exact recordAll_run_keyed hNamed hp f.builders s
  | refreshTree f s name =>
    rw [refreshTree_eq]
    cases f.bound.lookup name with
    | none => exact hp
    | some b =>
      rw [Option.elim_some, StateT.run_map]
      exact hp.renew (hNamed b s)
  | bind f s name b => exact hp.bind name b
  | set f s root => exact hp.set rfl

theorem keyed_of_session (hNamed : ∀ b s, ((run b).run s).1.Named nameOf) {s₀ : σ}
    {p : Forest β × σ} (h : Relation.ReflTransGen (Move run nameOf) (empty, s₀) p) :
    p.1.Keyed nameOf := by
  induction h with
  | refl => exact keyed_empty
  | tail _ hMove ih => exact hMove.keyed hNamed ih

end Session

end Forest

variable {β : Type}

/-- In a session of forest operations whose builders run in a state of any kind and each time
make a tree, fail or panic, reporting the name of each tree they make: `build` and `append` run
their builders once each, in order, and record what the runs ended with, and a rebuild of a name
runs the builder bound to it and renews the forest with what it made, answering whether it made
a tree. Recorded runs install each tree made under its name and bind the builder to that name,
the last run that made a tree of a name winning; a run that fails or panics changes nothing. A
rebuild changes no binding, `bind` rebinds one name and `set` installs a tree under the name of
its root. Every forest reached keeps each tree under the name of its root, `names` lists the
names of its trees strictly ascending and `len` counts them. -/
theorem forest_session_installs_by_name {σ : Type} (run : β → StateM σ Outcome)
    (nameOf : NodeId → String) (hNamed : ∀ b s, ((run b).run s).1.Named nameOf)
    {s₀ s : σ} {f : Forest β}
    (hReach : Relation.ReflTransGen (Forest.Move run nameOf) (Forest.empty, s₀) (f, s)) :
    f.build run = f.recordAll f.builders <$> f.builders.mapM run ∧
    (∀ bs, f.append run bs = (f.register bs).recordAll bs <$> bs.mapM run) ∧
    (∀ bs, Forest.new run bs = (Forest.empty.register bs).recordAll bs <$> bs.mapM run) ∧
    (∀ name, f.refreshTree run name = (f.bound.lookup name).elim (pure (f, false))
      fun b => (fun o => (f.renew o, o.isBuilt)) <$> run b) ∧
    (∀ bs os k, (f.recordAll bs os).get? k =
        ((bs.zip os).reverse.findSome? fun p => p.2.rootFor k).or (f.get? k) ∧
      (f.recordAll bs os).bound.lookup k =
        ((bs.zip os).reverse.findSome? fun p => (p.2.rootFor k).map fun _ => p.1).or
          (f.bound.lookup k) ∧
      (f.recordAll bs os).builders = f.builders) ∧
    (∀ o k, (f.renew o).get? k = (o.rootFor k).or (f.get? k) ∧ (f.renew o).bound = f.bound) ∧
    (∀ name b k, (f.bind name b).bound.lookup k =
      if name = k then some b else f.bound.lookup k) ∧
    (∀ r k, (f.set (nameOf r) r).get? k = if nameOf r = k then some r else f.get? k) ∧
    (∀ k r, f.get? k = some r → nameOf r = k) ∧
    f.names.Pairwise (· < ·) ∧ (∀ k, k ∈ f.names ↔ (f.get? k).isSome) ∧
    f.len = f.names.length := by
  have hf : f.Keyed nameOf := Forest.keyed_of_session hNamed hReach
  exact ⟨Forest.build_eq run f, Forest.append_eq run f, Forest.new_eq run,
    Forest.refreshTree_eq run f,
    fun bs os k => ⟨Forest.get?_recordAll k f bs os, Forest.lookup_recordAll k f bs os,
      Forest.builders_recordAll f bs os⟩,
    fun o k => ⟨Forest.get?_renew f o k, (Forest.renew_bound f o).1⟩,
    fun name b k => Forest.lookup_bind f name k b, fun r k => Forest.get?_set f (nameOf r) k r,
    fun k r h => hf.get?_name h, hf.names_sorted, Forest.mem_names f,
    Forest.len_eq_length_names f⟩

/-- A session whose builders count their runs: builder 0 always fails, builder 1 panics on odd
runs, and the others always build. It makes a forest of three builders (0 fails, 1 panics),
appends builder 3, rebuilds "two", binds "four" to builder 1, sets tree 5, builds again (0 fails,
1 now builds) and rebuilds "one" (it panics). No failed or panicked run installs a tree. -/
theorem forest_session_installs_by_name_mixed_runs :
    let nameOf : NodeId → String := fun r =>
      if r = 1 then "one" else if r = 2 then "two" else if r = 3 then "three" else "other"
    let run : Nat → StateM Nat Outcome := fun b k =>
      (if b = 0 then .failed "no rules" else if b = 1 ∧ k % 2 = 1 then .panicked "boom"
        else .built (nameOf b) b, k + 1)
    let p₁ := (Forest.new run [0, 1, 2]).run 0
    let p₂ := (p₁.1.append run [3]).run p₁.2
    let p₃ := (((p₂.1.refreshTree run "two").run p₂.2).1.1,
      ((p₂.1.refreshTree run "two").run p₂.2).2)
    let p₄ := (p₃.1.bind "four" 1, p₃.2)
    let p₅ := (p₄.1.set (nameOf 5) 5, p₄.2)
    let p₆ := (p₅.1.build run).run p₅.2
    let p := (((p₆.1.refreshTree run "one").run p₆.2).1.1,
      ((p₆.1.refreshTree run "one").run p₆.2).2)
    let f := p.1
    (∀ b s, ((run b).run s).1.Named nameOf) ∧
    Relation.ReflTransGen (Forest.Move run nameOf) (Forest.empty, 0) p ∧
    f.get? "one" = some 1 ∧ f.get? "other" = some 5 ∧ f.bound.lookup "four" = some 1 ∧
    f.len = 4 ∧ p.2 = 10 ∧
    f.build run = f.recordAll f.builders <$> f.builders.mapM run ∧
    (∀ bs, f.append run bs = (f.register bs).recordAll bs <$> bs.mapM run) ∧
    (∀ bs, Forest.new run bs = (Forest.empty.register bs).recordAll bs <$> bs.mapM run) ∧
    (∀ name, f.refreshTree run name = (f.bound.lookup name).elim (pure (f, false))
      fun b => (fun o => (f.renew o, o.isBuilt)) <$> run b) ∧
    (∀ bs os k, (f.recordAll bs os).get? k =
        ((bs.zip os).reverse.findSome? fun p => p.2.rootFor k).or (f.get? k) ∧
      (f.recordAll bs os).bound.lookup k =
        ((bs.zip os).reverse.findSome? fun p => (p.2.rootFor k).map fun _ => p.1).or
          (f.bound.lookup k) ∧
      (f.recordAll bs os).builders = f.builders) ∧
    (∀ o k, (f.renew o).get? k = (o.rootFor k).or (f.get? k) ∧ (f.renew o).bound = f.bound) ∧
    (∀ name b k, (f.bind name b).bound.lookup k =
      if name = k then some b else f.bound.lookup k) ∧
    (∀ r k, (f.set (nameOf r) r).get? k = if nameOf r = k then some r else f.get? k) ∧
    (∀ k r, f.get? k = some r → nameOf r = k) ∧
    f.names.Pairwise (· < ·) ∧ (∀ k, k ∈ f.names ↔ (f.get? k).isSome) ∧
    f.len = f.names.length := by
  intro nameOf run p₁ p₂ p₃ p₄ p₅ p₆ p f
  have hNamed : ∀ b s, ((run b).run s).1.Named nameOf := by
    intro b k
    show Outcome.Named nameOf (if b = 0 then _ else if b = 1 ∧ k % 2 = 1 then _ else _)
    split_ifs <;> trivial
  have hReach : Relation.ReflTransGen (Forest.Move run nameOf) (Forest.empty, 0) p :=
    .tail (.tail (.tail (.tail (.tail (.tail (.single (.new _ _ _)) (.append _ _ _))
      (.refreshTree _ _ _)) (.bind _ _ _ _)) (.set _ _ _)) (.build _ _)) (.refreshTree _ _ _)
  exact ⟨hNamed, hReach, by decide, by decide, by decide, by decide, by decide,
    @forest_session_installs_by_name Nat Nat run nameOf hNamed 0 p.2 f hReach⟩

end RuleOverlay
