import Mathlib
import RuleOverlay.Proofs.Forest
/-! # What a rebuild of one name touches

`refreshTree` looks a builder up by the name it is asked for, but installs what the builder
makes under the name of the new tree. So the entry a rebuild changes is the new tree's: every
other name keeps its tree, the installed names gain at most that one, and no binding moves.
That entry is the one asked for only when the bound builder makes a tree of that name. A
builder that names its trees differently from one run to the next, or one bound to another
name by `bind`, moves another entry (`refreshTree_moves_renamed_entry`).
-/
namespace RuleOverlay

namespace Outcome

def name? : Outcome → Option String
  | .built n _ => some n
  | _ => none

theorem rootFor_eq_none (o : Outcome) {k : String} (h : o.name? ≠ some k) :
    o.rootFor k = none := by
  cases o with
  | built n r =>
    have hn : n ≠ k := fun hnk => h (congrArg some hnk)
    simp [rootFor, hn]
  | failed => rfl
  | panicked => rfl

theorem isSome_rootFor (o : Outcome) (k : String) :
    (o.rootFor k).isSome ↔ o.name? = some k := by
  cases o with
  | built n r => by_cases h : n = k <;> simp [rootFor, name?, h]
  | failed => simp [rootFor, name?]
  | panicked => simp [rootFor, name?]

end Outcome

namespace Forest

variable {β σ : Type}

/-- The name a rebuild of `name` from state `s` installs a tree under: the name of the tree
that the builder bound to `name` makes on that run, if one is bound and the run makes a tree. -/
def rebuiltName? (run : β → StateM σ Outcome) (f : Forest β) (name : String) (s : σ) :
    Option String :=
  (f.bound.lookup name).bind fun b => ((run b).run s).1.name?

theorem get?_renew_of_ne (f : Forest β) {o : Outcome} {k : String} (h : o.name? ≠ some k) :
    (f.renew o).get? k = f.get? k := by
  rw [get?_renew, o.rootFor_eq_none h, Option.none_or]

theorem get?_renew_built (f : Forest β) (k : String) (r : NodeId) :
    (f.renew (.built k r)).get? k = some r := by
  rw [get?_renew, Outcome.rootFor, if_pos rfl, Option.some_or]

theorem mem_names_renew (f : Forest β) (o : Outcome) (k : String) :
    k ∈ (f.renew o).names ↔ k ∈ f.names ∨ o.name? = some k := by
  rw [mem_names, mem_names, get?_renew, Option.isSome_or, Bool.or_eq_true, o.isSome_rootFor,
    or_comm]

/-- The forest a rebuild leaves: the forest renewed with the outcome of the bound builder's
run, or the forest itself when no builder is bound. -/
theorem refreshTree_run_forest (run : β → StateM σ Outcome) (f : Forest β) (name : String)
    (s : σ) :
    ((f.refreshTree run name).run s).1.1 =
      (f.bound.lookup name).elim f fun b => f.renew ((run b).run s).1 := by
  rw [refreshTree_eq]
  cases f.bound.lookup name with
  | none => rfl
  | some b => rw [Option.elim_some, Option.elim_some, StateT.run_map]; rfl

end Forest

/-- A rebuild of `name` touches one entry, the one of the tree it makes: from any forest and
builder state, the tree the bound builder makes is installed under its own name `k`, the tree
under every name other than `k` is the same tree as before,
the installed names are the old ones and possibly the new tree's, and the bindings and the
registered builders stay as they were. When no builder is bound to `name`, or its run fails or
panics, nothing changes at all. -/
theorem refreshTree_touches_rebuilt_entry {β σ : Type} (run : β → StateM σ Outcome)
    (f : Forest β) (name : String) (s : σ) :
    let f' := ((f.refreshTree run name).run s).1.1
    (∀ b k r, f.bound.lookup name = some b → ((run b).run s).1 = .built k r →
      f'.get? k = some r) ∧
    (∀ m, f.rebuiltName? run name s ≠ some m → f'.get? m = f.get? m) ∧
    (∀ m, m ∈ f'.names ↔ m ∈ f.names ∨ f.rebuiltName? run name s = some m) ∧
    f'.bound = f.bound ∧ f'.builders = f.builders := by
  intro f'
  have hf' : f' = (f.bound.lookup name).elim f fun b => f.renew ((run b).run s).1 :=
    Forest.refreshTree_run_forest run f name s
  cases hb : f.bound.lookup name with
  | none =>
    have hSame : f' = f := by rw [hf', hb, Option.elim_none]
    have hNone : f.rebuiltName? run name s = none := by
      rw [Forest.rebuiltName?, hb, Option.bind_none]
    rw [hSame, hNone]
    exact ⟨fun _ _ _ hb' => (nomatch hb'), fun _ _ => rfl, fun _ => (or_iff_left nofun).symm, rfl,
      rfl⟩
  | some b =>
    have hRenew : f' = f.renew ((run b).run s).1 := by rw [hf', hb, Option.elim_some]
    have hName : f.rebuiltName? run name s = ((run b).run s).1.name? := by
      rw [Forest.rebuiltName?, hb, Option.bind_some]
    have hInstalls : ∀ k r, ((run b).run s).1 = .built k r → f'.get? k = some r := by
      intro k r hBuilt
      rw [hRenew, hBuilt]
      exact f.get?_renew_built k r
    rw [hRenew, hName] at *
    refine ⟨fun b' k r hb' => ?_, fun m hm => f.get?_renew_of_ne hm,
      f.mem_names_renew _, (f.renew_bound _).1, (f.renew_bound _).2⟩
    obtain rfl : b = b' := Option.some.inj hb'
    exact hInstalls k r

/-- A builder that names its first tree `a` and every later one `b`, each tree by the name of
its root. The build that made `a` bound the builder to `a`; a rebuild of `a` then installs its
tree under `b`, a name other than `a` that had no tree, so the names gain `b`. -/
theorem refreshTree_moves_renamed_entry :
    let run : Unit → StateM Nat Outcome := fun _ k =>
      (.built (if k = 0 then "a" else "b") k, k + 1)
    let nameOf : NodeId → String := fun r => if r = 0 then "a" else "b"
    let p := (Forest.new run [()]).run 0
    (∀ b s, ((run b).run s).1.Named nameOf) ∧
      Relation.ReflTransGen (Forest.Move run nameOf) (Forest.empty, 0) p ∧
      p.1.get? "b" = none ∧ ((p.1.refreshTree run "a").run p.2).1.1.get? "b" = some 1 ∧
      "b" ∉ p.1.names ∧ "b" ∈ ((p.1.refreshTree run "a").run p.2).1.1.names := by
  intro run nameOf p
  have hBefore : p.1.get? "b" = none := by decide
  have hAfter : ((p.1.refreshTree run "a").run p.2).1.1.get? "b" = some 1 := by decide
  refine ⟨fun _ _ => rfl, .single (.new _ _ _), hBefore, hAfter, ?_, ?_⟩
  · rw [Forest.mem_names, hBefore]
    decide
  · rw [Forest.mem_names, hAfter]
    rfl

end RuleOverlay
