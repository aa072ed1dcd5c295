import Mathlib.Logic.Relation
import RuleOverlay.Forest.Refresh
/-! # The schedule of a refresh loop

A refresh task on a paused clock keeps to the schedule of its interval
(`RefreshTask.OnSchedule`): the deadline of the ticker's next tick is one interval past the
deadline of the last rebuild begun, so the deadlines are the multiples of the interval, and the
clock lies between the firings of the two ticks' timers. The clock never moves past a firing,
and a tick whose timer has fired is taken at once unless a shutdown is ready, never late enough
for the ticker to move off its multiples. So the task begins its `k`-th rebuild when the clock
reads `k` intervals rounded up to a whole millisecond (`Timer.fireAt`), and none before;
whenever it waits with nothing due, it has rebuilt once for every multiple of the interval up to
the clock rounded down to a whole millisecond. Once a shutdown is ready only the task moves: it
ends the rebuild it is in, begins no other, and ends.

The run the driver makes, the loop left to run while the runner sleeps and then stopped, is one
of these runs, and it rebuilds once for every multiple of the interval whose timer fires before
the runner's. With an interval that is no whole number of milliseconds, a multiple that passed
before the stop can still miss its rebuild (`driven_misses_passed_multiple`).
-/
namespace RuleOverlay

namespace Timer

theorem fireAt_zero : fireAt 0 = 0 := by
  decide

theorem fireAt_le_cap (x : Nat) : fireAt x ≤ lastTick * milli :=
  Nat.mul_le_mul_right _ (Nat.min_le_right _ _)

theorem fireAt_mod (x : Nat) : fireAt x % milli = 0 :=
  Nat.mul_mod_left _ _

theorem fireAt_lt_add (x : Nat) : fireAt x < x + milli := by
  unfold fireAt milli
  omega

theorem fireAt_mono {x y : Nat} (h : x ≤ y) : fireAt x ≤ fireAt y := by
  unfold fireAt milli
  omega

theorem fireAt_le_of_le_wholeMillis {x c : Nat} (h : x ≤ wholeMillis c) : fireAt x ≤ c := by
  unfold fireAt wholeMillis milli at *
  omega

theorem le_wholeMillis_of_fireAt_le {x c : Nat} (h : fireAt x ≤ c) (hc : c < lastTick * milli) :
    x ≤ wholeMillis c := by
  unfold fireAt wholeMillis milli lastTick at *
  omega

/-- A timer fires before a whole-millisecond reading up to the wheel's last tick exactly when
its deadline is at least a millisecond before it. -/
theorem fireAt_lt_iff {x w : Nat} (hw : w % milli = 0) (hCap : w ≤ lastTick * milli)
    (hPos : 0 < w) : fireAt x < w ↔ x ≤ w - milli := by
  unfold fireAt milli lastTick at *
  omega

end Timer

namespace RefreshTask

variable {s s' : RefreshTask} {d : Nat}

def started (s : RefreshTask) : Nat := s.rebuilds + if s.phase = .rebuilding then 1 else 0

def Runs (intervalNanos : Nat) (s : RefreshTask) : Prop :=
  Relation.ReflTransGen Step (spawn intervalNanos) s

theorem started_of_ne_rebuilding (h : s.phase ≠ .rebuilding) : s.started = s.rebuilds := by
  simp [started, h]

theorem nextDeadline_on_time {deadline now period : Nat} (h : now ≤ Timer.fireAt deadline) :
    nextDeadline deadline now period = deadline + period := by
  have hLate := Timer.fireAt_lt_add deadline
  rw [nextDeadline, if_neg (by unfold Timer.milli at *; omega)]

/-- What one run of the task can do: make its ticker, end on a ready shutdown, begin a rebuild
on a tick whose timer fired, or end a rebuild. -/
theorem poll_eq_some_iff :
    s.poll = some s' ↔
      (s.phase = .starting ∧ s' = { s with phase := .waiting, deadline := s.clock + s.period }) ∨
      (s.phase = .waiting ∧ s.stopped = true ∧ s' = { s with phase := .finished }) ∨
      (s.phase = .waiting ∧ s.stopped = false ∧ Timer.fireAt s.deadline ≤ s.clock ∧
        s' = { s with phase := .rebuilding, deadline := nextDeadline s.deadline s.clock s.period }) ∨
      (s.phase = .rebuilding ∧ s' = { s with phase := .waiting, rebuilds := s.rebuilds + 1 }) := by
  rcases s with ⟨period, clock, deadline, stopped, phase, rebuilds⟩
  cases phase <;> cases stopped <;> by_cases hDue : Timer.fireAt deadline ≤ clock <;>
    simp [poll, hDue, eq_comm]

theorem poll_finished (h : s.phase = .finished) : s.poll = none := by
  simp [poll, h]

/-- A task keeps to the schedule of the interval `d`. Before it first runs, the clock has not
moved and nothing is rebuilt. Once it runs, the deadline of its ticker's next tick is the
multiple of `d` after the one of its last rebuild begun, and the clock lies between the firings
of the two ticks' timers. A task that ended was asked to stop. -/
structure OnSchedule (d : Nat) (s : RefreshTask) : Prop where
  period : s.period = d
  fresh : s.phase = .starting → s.clock = 0 ∧ s.rebuilds = 0
  next : s.phase ≠ .starting → s.deadline = (s.started + 1) * d
  since : Timer.fireAt (s.started * d) ≤ s.clock
  due : s.phase ≠ .starting → s.clock ≤ Timer.fireAt s.deadline
  ended : s.phase = .finished → s.stopped = true

theorem onSchedule_spawn (i : Nat) : (spawn i).OnSchedule (Forest.clampInterval i) where
  period := rfl
  fresh _ := ⟨rfl, rfl⟩
  next h := absurd rfl h
  since := by simp [started, spawn, Timer.fireAt_zero]
  due h := absurd rfl h
  ended h := by cases h

section Steps

variable (h : s.OnSchedule d)
include h

/-- A tick whose timer has fired finds the clock on the firing, of the multiple of the interval
after the last rebuild: the clock never passes a firing. -/
theorem OnSchedule.on_tick (hWait : s.phase = .waiting) (hDue : Timer.fireAt s.deadline ≤ s.clock) :
    s.clock = Timer.fireAt s.deadline ∧ s.deadline = (s.rebuilds + 1) * d := by
  have hNe : s.phase ≠ .starting := by rw [hWait]; decide
  refine ⟨Nat.le_antisymm (h.due hNe) hDue, ?_⟩
  rw [h.next hNe, started_of_ne_rebuilding (by rw [hWait]; decide)]

/-- One run of the task keeps to the schedule. The one case with arithmetic in it is a tick: the
clock is on its firing, so the tick is on time and the ticker moves one interval on. -/
theorem OnSchedule.poll (hPoll : s.poll = some s') : s'.OnSchedule d := by
  rcases poll_eq_some_iff.mp hPoll with ⟨hPhase, rfl⟩ | ⟨hPhase, hStop, rfl⟩ |
    ⟨hPhase, -, hDue, rfl⟩ | ⟨hPhase, rfl⟩
  · obtain ⟨hClock, hRebuilds⟩ := h.fresh hPhase
    refine ⟨h.period, fun h' => (by cases h'), fun _ => ?_, ?_, fun _ => ?_, fun h' => (by cases h')⟩
    · simp [started, hClock, hRebuilds, h.period]
    · simp [started, hClock, hRebuilds, Timer.fireAt_zero]
    · show s.clock ≤ Timer.fireAt (s.clock + s.period)
      rw [hClock]
      exact Nat.zero_le _
  · have hNe : s.phase ≠ .starting := by rw [hPhase]; decide
    refine ⟨h.period, fun h' => (by cases h'), fun _ => ?_, ?_, fun _ => h.due hNe, fun _ => hStop⟩
    · simpa [started, hPhase] using h.next hNe
    · simpa [started, hPhase] using h.since
  · obtain ⟨hOn, hNext⟩ := h.on_tick hPhase hDue
    have hDeadline : nextDeadline s.deadline s.clock s.period = (s.rebuilds + 1 + 1) * d := by
      rw [nextDeadline_on_time (Nat.le_of_eq hOn), h.period, hNext, Nat.add_one_mul (s.rebuilds + 1)]
    refine ⟨h.period, fun h' => (by cases h'), fun _ => ?_, ?_, fun _ => ?_, fun h' => (by cases h')⟩
    · simp only [started, if_pos]
      exact hDeadline
    · simp only [started, if_pos]
      rw [← hNext]
      exact Nat.le_of_eq hOn.symm
    · show s.clock ≤ Timer.fireAt (nextDeadline s.deadline s.clock s.period)
      rw [hDeadline, hOn, hNext]
      exact Timer.fireAt_mono (Nat.mul_le_mul_right d (Nat.le_succ _))
  · have hNe : s.phase ≠ .starting := by rw [hPhase]; decide
    refine ⟨h.period, fun h' => (by cases h'), fun _ => ?_, ?_, fun _ => h.due hNe,
      fun h' => (by cases h')⟩
    · simpa [started, hPhase] using h.next hNe
    · simpa [started, hPhase] using h.since

theorem OnSchedule.step (hStep : Step s s') : s'.OnSchedule d := by
  cases hStep with
  | run hPoll => exact h.poll hPoll
  | advance t hWait _ hLater hBefore =>
    have hNe : s.phase ≠ .starting := by rw [hWait]; decide
    exact ⟨h.period, fun h' => absurd h' hNe, h.next, Nat.le_trans h.since (Nat.le_of_lt hLater),
      fun _ => hBefore, h.ended⟩
  | stop _ => exact ⟨h.period, h.fresh, h.next, h.since, h.due, fun _ => rfl⟩

end Steps

theorem Runs.onSchedule {i : Nat} (hRun : s.Runs i) : s.OnSchedule (Forest.clampInterval i) := by
  induction hRun with
  | refl => exact onSchedule_spawn i
  | tail _ hStep ih => exact ih.step hStep

theorem clampInterval_pos (i : Nat) : 0 < Forest.clampInterval i :=
  Nat.lt_of_lt_of_le (by decide) (Nat.le_max_right i Forest.minRefreshNanos)

section Counts

variable (h : s.OnSchedule d)
include h

/-- Waiting with nothing due, the task has rebuilt once for every multiple of the interval up to
the clock rounded down to a whole millisecond. -/
theorem OnSchedule.rebuilds_eq_of_idle (hWait : s.phase = .waiting)
    (hIdle : s.clock < Timer.fireAt s.deadline) :
    s.rebuilds = Timer.wholeMillis s.clock / d := by
  have hStarted : s.started = s.rebuilds := started_of_ne_rebuilding (by rw [hWait]; decide)
  have hNext : s.deadline = (s.rebuilds + 1) * d := hStarted ▸ h.next (by rw [hWait]; decide)
  have hCap : s.clock < Timer.lastTick * Timer.milli :=
    Nat.lt_of_lt_of_le hIdle (Timer.fireAt_le_cap _)
  have hLow : s.rebuilds * d ≤ Timer.wholeMillis s.clock :=
    Timer.le_wholeMillis_of_fireAt_le (hStarted ▸ h.since) hCap
  have hHigh : Timer.wholeMillis s.clock < (s.rebuilds + 1) * d := by
    refine Nat.lt_of_not_le fun hPassed => ?_
    have hFired := Timer.fireAt_le_of_le_wholeMillis hPassed
    rw [← hNext] at hFired
    exact Nat.lt_irrefl _ (Nat.lt_of_lt_of_le hIdle hFired)
  exact (Nat.div_eq_of_lt_le hLow hHigh).symm

/-- A step that begins a rebuild is the task taking a tick, with no shutdown ready: the rebuild
numbered `k` begins when the timer of the `k`-th multiple of the interval fires. -/
theorem OnSchedule.begins_on_tick (hStep : Step s s') (hMore : s'.started = s.started + 1) :
    s.stopped = false ∧ s'.clock = Timer.fireAt (s'.started * d) := by
  cases hStep with
  | run hPoll =>
    rcases poll_eq_some_iff.mp hPoll with ⟨hPhase, rfl⟩ | ⟨hPhase, -, rfl⟩ |
      ⟨hPhase, hStop, hDue, rfl⟩ | ⟨hPhase, rfl⟩
    · simp [started, hPhase] at hMore
    · simp [started, hPhase] at hMore
    · refine ⟨hStop, ?_⟩
      obtain ⟨hOn, hNext⟩ := h.on_tick hPhase hDue
      show s.clock = Timer.fireAt
        ((s.rebuilds + if RefreshPhase.rebuilding = .rebuilding then 1 else 0) * d)
      rw [if_pos rfl, hOn, hNext]
    · simp [started, hPhase] at hMore
  | advance t => simp [started] at hMore
  | stop => simp [started] at hMore

end Counts

theorem step_of_stopped (hStop : s.stopped = true) (hStep : Step s s') :
    s.poll = some s' ∧ s'.stopped = true ∧ s'.started = s.started := by
  cases hStep with
  | run hPoll =>
    refine ⟨hPoll, ?_⟩
    rcases poll_eq_some_iff.mp hPoll with ⟨hPhase, rfl⟩ | ⟨hPhase, -, rfl⟩ |
      ⟨-, hFalse, -, -⟩ | ⟨hPhase, rfl⟩
    · exact ⟨hStop, by simp [started, hPhase]⟩
    · exact ⟨hStop, by simp [started, hPhase]⟩
    · rw [hStop] at hFalse
      cases hFalse
    · exact ⟨hStop, by simp [started, hPhase]⟩
  | advance _ _ hFalse _ _ => rw [hStop] at hFalse; cases hFalse
  | stop hFalse => rw [hStop] at hFalse; cases hFalse

theorem steps_of_stopped (hStop : s.stopped = true) (hRun : Relation.ReflTransGen Step s s') :
    s'.stopped = true ∧ s'.started = s.started ∧ ∀ s'', Step s' s'' → s'.poll = some s'' := by
  induction hRun with
  | refl => exact ⟨hStop, rfl, fun _ hStep => (step_of_stopped hStop hStep).1⟩
  | tail _ hStep ih =>
    obtain ⟨-, hStop', hStarted⟩ := step_of_stopped ih.1 hStep
    exact ⟨hStop', hStarted.trans ih.2.1, fun _ hNext => (step_of_stopped hStop' hNext).1⟩

theorem settle_runs : ∀ (fuel : Nat) (s : RefreshTask), Relation.ReflTransGen Step s (settle fuel s)
  | 0, _ => .refl
  | fuel + 1, s => by
    rw [settle]
    cases hPoll : s.poll with
    | none => exact .refl
    | some s' => exact .head (.run hPoll) (settle_runs fuel s')

theorem no_step_of_finished (hEnd : s.phase = .finished) (hStop : s.stopped = true) :
    ¬ Step s s' := by
  intro hStep
  cases hStep with
  | run hPoll => rw [poll_finished hEnd] at hPoll; cases hPoll
  | advance _ hWait => rw [hEnd] at hWait; cases hWait
  | stop hFalse => rw [hStop] at hFalse; cases hFalse

/-- Once a shutdown is ready, the task ends the rebuild it is in and then ends, within three of
its own runs, and takes no step after that. -/
theorem settle_finishes (hStop : s.stopped = true) :
    (settle 3 s).phase = .finished ∧ (settle 3 s).rebuilds = s.started ∧
      ∀ s'', ¬ Step (settle 3 s) s'' := by
  have hEnd : (settle 3 s).phase = .finished ∧ (settle 3 s).rebuilds = s.started := by
    rcases s with ⟨period, clock, deadline, stopped, phase, rebuilds⟩
    subst hStop
    cases phase <;> simp [settle, poll, started]
  exact ⟨hEnd.1, hEnd.2, fun _ => no_step_of_finished hEnd.1
    (steps_of_stopped hStop (settle_runs 3 s)).1⟩

section Driven

variable {d : Nat}

def idle (d k : Nat) : RefreshTask := ⟨d, Timer.fireAt (k * d), (k + 1) * d, false, .waiting, k⟩

theorem settle_spawn (i : Nat) : settle 1 (spawn i) = idle (Forest.clampInterval i) 0 := by
  simp [settle, spawn, poll, idle, Timer.fireAt_zero]

theorem settle_tick (d k : Nat) :
    settle 2 { idle d k with clock := Timer.fireAt ((k + 1) * d) } = idle d (k + 1) := by
  have hDue : Timer.fireAt ((k + 1) * d) ≤ Timer.fireAt ((k + 1) * d) := Nat.le_refl _
  have hOnTime : nextDeadline ((k + 1) * d) (Timer.fireAt ((k + 1) * d)) d = (k + 1 + 1) * d := by
    rw [nextDeadline_on_time hDue, Nat.add_one_mul (k + 1)]
  have hTick : poll { idle d k with clock := Timer.fireAt ((k + 1) * d) } =
      some ⟨d, Timer.fireAt ((k + 1) * d), (k + 1 + 1) * d, false, .rebuilding, k⟩ := by
    refine poll_eq_some_iff.mpr (.inr (.inr (.inl ⟨rfl, rfl, hDue, ?_⟩)))
    rw [← hOnTime]
    rfl
  rw [settle, hTick]
  rfl

theorem runs_advance {t : Nat} (hWait : s.phase = .waiting) (hStop : s.stopped = false)
    (hLater : s.clock ≤ t) (hBefore : t ≤ Timer.fireAt s.deadline) :
    Relation.ReflTransGen Step s { s with clock := t } := by
  rcases Nat.lt_or_eq_of_le hLater with hLt | rfl
  · exact .single (.advance t hWait hStop hLt hBefore)
  · exact .refl

theorem idle_runs_next (k : Nat) : Relation.ReflTransGen Step (idle d k) (idle d (k + 1)) := by
  have hAdvance := runs_advance (s := idle d k) (t := Timer.fireAt ((k + 1) * d)) rfl rfl
    (Timer.fireAt_mono (Nat.mul_le_mul_right d (Nat.le_succ k))) (Nat.le_refl _)
  rw [← settle_tick d k]
  exact hAdvance.trans (settle_runs 2 _)

/-- Left to run until a whole-millisecond reading `wake` no later than the wheel's last tick,
an idle task takes every tick whose timer fires before it, rebuilding at each, and waits at
`wake` with one rebuild for each multiple of the interval at least a millisecond before it. The
run is the clock moving on and the task's own runs. -/
theorem runUntil_idle (hd : 0 < d) {wake : Nat} (hWake : wake % Timer.milli = 0)
    (hCap : wake ≤ Timer.lastTick * Timer.milli) {fuel k : Nat}
    (hBefore : Timer.fireAt (k * d) < wake) (hFuel : (wake - Timer.milli) / d - k < fuel) :
    runUntil wake fuel (idle d k) =
        ⟨d, wake, ((wake - Timer.milli) / d + 1) * d, false, .waiting,
          (wake - Timer.milli) / d⟩ ∧
      Relation.ReflTransGen Step (idle d k) (runUntil wake fuel (idle d k)) := by
  have hPos : 0 < wake := Nat.lt_of_le_of_lt (Nat.zero_le _) hBefore
  induction fuel generalizing k with
  | zero => exact absurd hFuel (Nat.not_lt_zero _)
  | succ fuel ih =>
    have hk : k * d ≤ wake - Timer.milli := (Timer.fireAt_lt_iff hWake hCap hPos).mp hBefore
    by_cases hNext : Timer.fireAt ((k + 1) * d) < wake
    · have hStep : runUntil wake (fuel + 1) (idle d k) = runUntil wake fuel (idle d (k + 1)) := by
        rw [runUntil, if_pos (show Timer.fireAt (idle d k).deadline < wake from hNext)]
        exact congrArg (runUntil wake fuel) (settle_tick d k)
      have hLe : k + 1 ≤ (wake - Timer.milli) / d :=
        (Nat.le_div_iff_mul_le hd).mpr ((Timer.fireAt_lt_iff hWake hCap hPos).mp hNext)
      rw [hStep]
      obtain ⟨hEq, hRun⟩ := ih hNext (show (wake - Timer.milli) / d - (k + 1) < fuel by omega)
      exact ⟨hEq, (idle_runs_next k).trans hRun⟩
    · have hStep : runUntil wake (fuel + 1) (idle d k) = { idle d k with clock := wake } := by
        rw [runUntil, if_neg (show ¬ Timer.fireAt (idle d k).deadline < wake from hNext),
          if_pos (show (idle d k).clock < wake from hBefore)]
      have hAfter : wake - Timer.milli < (k + 1) * d :=
        Nat.lt_of_not_le fun h' => hNext ((Timer.fireAt_lt_iff hWake hCap hPos).mpr h')
      have hEq : (wake - Timer.milli) / d = k := Nat.div_eq_of_lt_le hk hAfter
      rw [hStep, hEq]
      exact ⟨rfl, .single (.advance wake rfl rfl hBefore (Nat.le_of_not_lt hNext))⟩

theorem runUntil_at_start (fuel : Nat) (s : RefreshTask) : runUntil 0 fuel s = s := by
  cases fuel with
  | zero => rfl
  | succ fuel => simp only [runUntil, Nat.not_lt_zero, if_false]

theorem runUntil_spawn (i T : Nat) :
    runUntil (Timer.fireAt T) (Timer.fireAt T + 1) (settle 1 (spawn i)) =
        ⟨Forest.clampInterval i, Timer.fireAt T,
          (Forest.rebuildsWithin i T + 1) * Forest.clampInterval i, false, .waiting,
          Forest.rebuildsWithin i T⟩ ∧
      Relation.ReflTransGen Step (settle 1 (spawn i))
        (runUntil (Timer.fireAt T) (Timer.fireAt T + 1) (settle 1 (spawn i))) := by
  rw [settle_spawn]
  rcases Nat.eq_zero_or_pos (Timer.fireAt T) with hZero | hPos
  · have hNone : Forest.rebuildsWithin i T = 0 := by
      rw [Forest.rebuildsWithin, hZero, Nat.zero_sub, Nat.zero_div]
    rw [hNone, hZero, runUntil_at_start]
    exact ⟨by simp [idle, Timer.fireAt_zero], .refl⟩
  · have hFuel : Forest.rebuildsWithin i T ≤ Timer.fireAt T - Timer.milli :=
      Nat.div_le_self _ _
    exact runUntil_idle (clampInterval_pos i) (Timer.fireAt_mod T) (Timer.fireAt_le_cap T)
      (by simpa [Timer.fireAt_zero] using hPos)
      (show Forest.rebuildsWithin i T - 0 < Timer.fireAt T + 1 by omega)

/-- The driver's run ends with the task ended, with one rebuild for each multiple of the
interval whose timer fires before the runner's. -/
theorem driven_eq (i T : Nat) :
    driven i T = ⟨Forest.clampInterval i, Timer.fireAt T,
      (Forest.rebuildsWithin i T + 1) * Forest.clampInterval i, true, .finished,
      Forest.rebuildsWithin i T⟩ := by
  simp only [driven, (runUntil_spawn i T).1]
  simp [settle, poll]

theorem driven_runs (i T : Nat) : (driven i T).Runs i := by
  have hStop : Step (runUntil (Timer.fireAt T) (Timer.fireAt T + 1) (settle 1 (spawn i)))
      { runUntil (Timer.fireAt T) (Timer.fireAt T + 1) (settle 1 (spawn i)) with
        stopped := true } :=
    .stop (by rw [(runUntil_spawn i T).1])
  exact ((settle_runs 1 (spawn i)).trans (runUntil_spawn i T).2).trans
    (.head hStop (settle_runs 2 _))

theorem driven_rebuilds (i T : Nat) : (driven i T).rebuilds = Forest.rebuildsWithin i T := by
  rw [driven_eq]

/-- With an interval of one and a half milliseconds and a run of 1.7 ms, one multiple of the
interval comes before the stop, but its timer fires at 2 ms, with the runner's, and the runner
stops the loop first: no rebuild. -/
theorem driven_misses_passed_multiple :
    1 * Forest.clampInterval 1500000 < 1700000 ∧ (driven 1500000 1700000).rebuilds = 0 := by
  rw [driven_rebuilds]
  exact ⟨by decide, by decide⟩

/-- The forest after the driver's refresh loop is the forest built once for every multiple of
the interval whose timer fires before the runner's. -/
theorem refreshFor_eq_rebuild {β : Type} {m : Type → Type} [Monad m] (run : β → m Outcome)
    (f : Forest β) (i T : Nat) :
    f.refreshFor run i T = Forest.rebuild run (Forest.rebuildsWithin i T) f := by
  rw [Forest.refreshFor, driven_rebuilds]

end Driven

/-- A refresh loop keeps to its interval. Along every run of its task, on a paused clock whose
timers fire on whole milliseconds, and whenever a shutdown comes: its interval is the one asked
for, raised to a millisecond; the ticker's deadlines are the multiples of the interval; the
rebuild numbered `k` begins when the timer of the `k`-th multiple fires (the multiple rounded up
to a whole millisecond), with no shutdown ready, and none begins before; waiting with nothing
due, the task has rebuilt once for every multiple up to the clock rounded down to a whole
millisecond. Once a shutdown is ready, only the task moves and it begins no rebuild; within
three of its own runs it has ended the rebuild it was in and itself, and it takes no step after
that. -/
theorem refresh_task_keeps_schedule {i : Nat} {s : RefreshTask} (hRun : s.Runs i) :
    s.period = Forest.clampInterval i ∧
      (s.phase ≠ .starting → s.deadline = (s.started + 1) * s.period) ∧
      Timer.fireAt (s.started * s.period) ≤ s.clock ∧
      (∀ s', Step s s' → s'.started = s.started + 1 →
        s.stopped = false ∧ s'.clock = Timer.fireAt (s'.started * s.period)) ∧
      (s.phase = .waiting → s.clock < Timer.fireAt s.deadline →
        s.rebuilds = Timer.wholeMillis s.clock / s.period) ∧
      (s.stopped = true →
        (∀ s', Relation.ReflTransGen Step s s' →
          s'.started = s.started ∧ ∀ s'', Step s' s'' → s'.poll = some s'') ∧
        Relation.ReflTransGen Step s (settle 3 s) ∧ (settle 3 s).phase = .finished ∧
        (settle 3 s).rebuilds = s.started ∧ ∀ s'', ¬ Step (settle 3 s) s'') := by
  have h := hRun.onSchedule
  rw [h.period]
  refine ⟨rfl, h.next, h.since, fun _ hStep hMore => h.begins_on_tick hStep hMore,
    h.rebuilds_eq_of_idle,
    fun hStop => ⟨fun _ hRun' => ?_, settle_runs 3 s, settle_finishes hStop⟩⟩
  obtain ⟨-, hStarted, hOnly⟩ := steps_of_stopped hStop hRun'
  exact ⟨hStarted, hOnly⟩

theorem refresh_task_keeps_schedule_sub_millisecond :
    let s := driven 1500000 3500000
    s.Runs 1500000 ∧ s.rebuilds = 2 ∧ s.period = Forest.clampInterval 1500000 ∧
      (s.phase ≠ .starting → s.deadline = (s.started + 1) * s.period) ∧
      Timer.fireAt (s.started * s.period) ≤ s.clock ∧
      (∀ s', Step s s' → s'.started = s.started + 1 →
        s.stopped = false ∧ s'.clock = Timer.fireAt (s'.started * s.period)) ∧
      (s.phase = .waiting → s.clock < Timer.fireAt s.deadline →
        s.rebuilds = Timer.wholeMillis s.clock / s.period) ∧
      (s.stopped = true →
        (∀ s', Relation.ReflTransGen Step s s' →
          s'.started = s.started ∧ ∀ s'', Step s' s'' → s'.poll = some s'') ∧
        Relation.ReflTransGen Step s (settle 3 s) ∧ (settle 3 s).phase = .finished ∧
        (settle 3 s).rebuilds = s.started ∧ ∀ s'', ¬ Step (settle 3 s) s'') :=
  ⟨driven_runs 1500000 3500000, by rw [driven_rebuilds]; decide,
    refresh_task_keeps_schedule (driven_runs 1500000 3500000)⟩

end RefreshTask

end RuleOverlay
