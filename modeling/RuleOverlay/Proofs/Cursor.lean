import Mathlib
import RuleOverlay.Json.Read
/-! # Runs of the JSON reader

The JSON reader is a computation on a cursor that may fail. A run of a step takes a cursor to an
outcome and a cursor, and the equations here say what each step does to the cursor: a bind runs
its first step and, if that succeeds, the rest from where it stopped (`run_bind`); `advance`,
`peek`, `next` and `skipSpace` read from the front of what is left.

`Reads r X rest a` says that `r` reads exactly the bytes `X` off an input that goes on with
`rest`, answers `a`, and leaves the cursor at the end of `X`. Reads compose along binds
(`Reads.bind`), so a reader made of steps reads what its steps read, one after another.
-/
namespace RuleOverlay

namespace Json

variable {α β : Type}

/-! ### Runs of the monad -/

theorem run_pure (a : α) (c : Cursor) : (pure a : Reader α).run.run c = (.ok a, c) := rfl

theorem run_throw (e : Error) (c : Cursor) : (throw e : Reader α).run.run c = (.error e, c) :=
  rfl

theorem run_get (c : Cursor) : (get : Reader Cursor).run.run c = (.ok c, c) := rfl

theorem run_bind (x : Reader α) (f : α → Reader β) (c : Cursor) :
    (x >>= f).run.run c = match x.run.run c with
      | (.ok a, c') => (f a).run.run c'
      | (.error e, c') => (.error e, c') := by
  simp only [ExceptT.run_bind]
  show (StateT.run (x.run >>= _) c) = _
  simp only [StateT.run_bind]
  rcases x.run.run c with ⟨_ | a, c'⟩ <;> rfl

theorem run_map (x : Reader α) (f : α → β) (c : Cursor) :
    (f <$> x).run.run c = match x.run.run c with
      | (.ok a, c') => (.ok (f a), c')
      | (.error e, c') => (.error e, c') := by
  rw [map_eq_pure_bind, run_bind]
  rcases x.run.run c with ⟨_ | a, c'⟩ <;> rfl

theorem run_tryCatch (x : Reader α) (h : Error → Reader α) (c : Cursor) :
    (tryCatch x h).run.run c = match x.run.run c with
      | (.ok a, c') => (.ok a, c')
      | (.error e, c') => (h e).run.run c' := by
  show (ExceptT.tryCatch x h).run.run c = _
  unfold ExceptT.tryCatch
  simp only [ExceptT.run_mk]
  show (StateT.run (x.run >>= _) c) = _
  simp only [StateT.run_bind]
  rcases x.run.run c with ⟨_ | a, c'⟩ <;> rfl

theorem run_bind_eq_ok {x : Reader α} {f : α → Reader β} {c c'' : Cursor} {b : β}
    (h : (x >>= f).run.run c = (.ok b, c'')) :
    ∃ a c', x.run.run c = (.ok a, c') ∧ (f a).run.run c' = (.ok b, c'') := by
  rw [run_bind] at h
  rcases hx : x.run.run c with ⟨_ | a, c'⟩
  · rw [hx] at h
    cases h
  · rw [hx] at h
    exact ⟨a, c', rfl, h⟩

/-! ### Steps on the cursor -/

theorem run_advance (n : Nat) (inp rest : Bytes) (i : Nat) :
    (advance n).run.run ⟨inp, rest, i⟩ =
      (.ok (), ⟨inp, rest.drop n, i + min n rest.length⟩) := rfl

theorem run_peek (c : Cursor) : peek.run.run c = (.ok c.rest.head?, c) := rfl

/-! ### Reading bytes off the front -/

def Reads (r : Reader α) (X rest : Bytes) (a : α) : Prop :=
  ∀ inp i, r.run.run ⟨inp, X ++ rest, i⟩ = (.ok a, ⟨inp, rest, i + X.length⟩)

theorem Reads.bind {x : Reader α} {f : α → Reader β} {X Y rest : Bytes} {a : α} {b : β}
    (hx : Reads x X (Y ++ rest) a) (hf : Reads (f a) Y rest b) :
    Reads (x >>= f) (X ++ Y) rest b := by
  intro inp i
  rw [run_bind, List.append_assoc, hx inp i]
  dsimp only
  rw [hf inp (i + X.length), List.length_append, Nat.add_assoc]

theorem Reads.bind_last {x : Reader α} {f : α → Reader β} {X rest : Bytes} {a : α} {b : β}
    (hx : Reads x X rest a) (hf : Reads (f a) [] rest b) : Reads (x >>= f) X rest b := by
  have h : Reads (x >>= f) (X ++ []) rest b := Reads.bind hx hf
  rwa [List.append_nil] at h

theorem Reads.get_bind {f : Cursor → Reader α} {r : Reader α} {X rest : Bytes} {a : α}
    (hf : ∀ inp i, f ⟨inp, X ++ rest, i⟩ = r) (hr : Reads r X rest a) :
    Reads (get >>= f) X rest a := by
  intro inp i
  rw [run_bind, run_get]
  dsimp only
  rw [hf inp i]
  exact hr inp i

theorem reads_pure (rest : Bytes) (a : α) : Reads (pure a : Reader α) [] rest a := fun _ _ => rfl

theorem Reads.map {x : Reader α} {X rest : Bytes} {a : α} (hx : Reads x X rest a) (f : α → β) :
    Reads (f <$> x) X rest (f a) := by
  intro inp i
  rw [run_map, hx inp i]

theorem reads_advance (X rest : Bytes) : Reads (advance X.length) X rest () := by
  intro inp i
  rw [run_advance, List.drop_left, Nat.min_eq_left (by simp)]

theorem reads_bump (b : UInt8) (rest : Bytes) : Reads bump [b] rest () :=
  reads_advance [b] rest

theorem reads_peek (rest : Bytes) : Reads peek [] rest rest.head? := fun _ _ => rfl

theorem reads_next (b : UInt8) (rest : Bytes) : Reads next [b] rest (some b) := by
  show Reads (peek >>= fun b? => bump >>= fun _ => pure b?) ([] ++ ([b] ++ [])) rest (some b)
  exact (reads_peek _).bind ((reads_bump b rest).bind (reads_pure rest _))

theorem run_next (b : UInt8) (inp rest : Bytes) (i : Nat) :
    next.run.run ⟨inp, b :: rest, i⟩ = (.ok (some b), ⟨inp, rest, i + 1⟩) :=
  reads_next b rest inp i

theorem reads_skipSpace {rest : Bytes} (h : ∀ b ∈ rest.head?, isSpace b = false) :
    Reads skipSpace [] rest rest.head? := by
  intro inp i
  have hNone : (rest.takeWhile isSpace).length = 0 := by
    cases rest with
    | nil => rfl
    | cons b rest => simp [h b rfl]
  show (get >>= fun c => advance (c.rest.takeWhile isSpace).length >>= fun _ => peek).run.run
    ⟨inp, rest, i⟩ = _
  rw [run_bind, run_get]
  dsimp only
  rw [hNone, run_bind, run_advance]
  rfl

theorem reads_keyword (rest : Bytes) : ∀ ks : List UInt8, Reads (keyword ks) ks rest ()
  | [] => reads_pure rest ()
  | k :: ks => by
    intro inp i
    rw [keyword, run_bind, List.cons_append, ← List.singleton_append, reads_next k _ inp i]
    dsimp only
    rw [beq_self_eq_true, if_pos rfl, reads_keyword rest ks inp, List.length_singleton,
      List.length_cons, Nat.add_assoc, Nat.add_comm 1]

/-! ### What a reader answers -/

def Returns (r : Reader α) (P : α → Prop) : Prop :=
  ∀ c a c', r.run.run c = (.ok a, c') → P a

section Returns

variable {x : Reader α} {f : α → Reader β} {P : β → Prop} {Q : α → Prop}

theorem returns_pure {a : α} {P : α → Prop} (h : P a) : Returns (pure a) P := by
  intro c b c' hRun
  cases hRun
  exact h

theorem returns_throw {e : Error} {P : α → Prop} : Returns (throw e : Reader α) P := by
  intro c a c' hRun
  cases hRun

theorem Returns.bind (hx : Returns x Q) (hf : ∀ a, Q a → Returns (f a) P) :
    Returns (x >>= f) P := by
  intro c b c'' hRun
  obtain ⟨a, c', hFirst, hRest⟩ := run_bind_eq_ok hRun
  exact hf a (hx c a c' hFirst) c' b c'' hRest

theorem returns_bind (hf : ∀ a, Returns (f a) P) : Returns (x >>= f) P :=
  Returns.bind (fun _ _ _ _ => trivial : Returns x fun _ => True) fun a _ => hf a

theorem Returns.map {g : α → β} (hx : Returns x Q) (hg : ∀ a, Q a → P (g a)) :
    Returns (g <$> x) P := by
  rw [map_eq_pure_bind]
  exact hx.bind fun a ha => returns_pure (hg a ha)

theorem Returns.tryCatch {P : α → Prop} {h : Error → Reader α} (hx : Returns x P)
    (hh : ∀ e, Returns (h e) P) : Returns (tryCatch x h) P := by
  intro c a c' hRun
  rw [run_tryCatch] at hRun
  rcases hFirst : x.run.run c with ⟨r, c''⟩
  rw [hFirst] at hRun
  cases r with
  | error e => exact hh e c'' a c' hRun
  | ok b =>
    cases hRun
    exact hx c _ _ hFirst

theorem returns_failHere {P : α → Prop} (f : Fault) : Returns (failHere f : Reader α) P := by
  refine returns_bind fun c => ?_
  split
  exact returns_throw

theorem returns_failPeek {P : α → Prop} (f : Fault) : Returns (failPeek f : Reader α) P := by
  refine returns_bind fun c => ?_
  split
  exact returns_throw

end Returns

/-! ### Failing on what comes first -/

def Fails (r : Reader α) (X : Bytes) : Prop :=
  ∀ inp rest i, ∃ e c, r.run.run ⟨inp, X ++ rest, i⟩ = (.error e, c)

theorem Fails.append {r : Reader α} {X : Bytes} (h : Fails r X) (Y : Bytes) : Fails r (X ++ Y) := by
  intro inp rest i
  rw [List.append_assoc]
  exact h inp (Y ++ rest) i

theorem Fails.bind {x : Reader α} {X : Bytes} (hx : Fails x X) (f : α → Reader β) :
    Fails (x >>= f) X := by
  intro inp rest i
  obtain ⟨e, c, hRun⟩ := hx inp rest i
  exact ⟨e, c, by rw [run_bind, hRun]⟩

theorem fails_bind_of_forall {x : Reader α} {f : α → Reader β} (hf : ∀ a, Fails (f a) []) :
    Fails (x >>= f) [] := by
  intro inp rest i
  rw [run_bind]
  rcases x.run.run ⟨inp, [] ++ rest, i⟩ with ⟨_ | a, ⟨inp', rest', i'⟩⟩
  · exact ⟨_, _, rfl⟩
  · exact hf a inp' rest' i'

theorem Reads.bind_fails {x : Reader α} {f : α → Reader β} {X Y : Bytes} {a : α}
    (hx : ∀ rest, Reads x X (Y ++ rest) a) (hf : Fails (f a) Y) : Fails (x >>= f) (X ++ Y) := by
  intro inp rest i
  rw [run_bind, List.append_assoc, hx rest inp i]
  exact hf inp rest (i + X.length)

theorem fails_throw (e : Error) : Fails (throw e : Reader α) [] := fun _ _ _ => ⟨e, _, rfl⟩

theorem fails_failHere (f : Fault) (X : Bytes) : Fails (failHere f : Reader α) X := by
  intro inp rest i
  exact ⟨_, _, rfl⟩

theorem fails_failPeek (f : Fault) (X : Bytes) : Fails (failPeek f : Reader α) X := by
  intro inp rest i
  exact ⟨_, _, rfl⟩

end Json

end RuleOverlay
