import RuleOverlay.Forest.Basic
/-! # Refreshing a forest on a timer

A refresh loop rebuilds the whole forest once every interval, the first time one interval after
it starts; an interval under a millisecond is raised to one. Stopping the loop, or dropping its
handle, ends it before its next rebuild.

The loop is a task on a runtime whose clock is paused: the clock moves only while no task can
run, and then at most to the next timer due, so no tick is ever missed. Timers fire on the
whole milliseconds of the runtime's timer wheel: a deadline is rounded up to the next whole
millisecond, and no timer fires later than the wheel's last tick. The task makes its ticker and
takes the ticker's first tick at once, without a rebuild. It then waits for a shutdown message
and for the next tick, and looks at the shutdown channel first. On a tick it rebuilds the forest
on the blocking pool and waits for the rebuild, during which the clock does not move. A message
sent, or the handle dropped, makes the channel ready, and the next look at it ends the loop.

Run for a time and then stopped, the loop has rebuilt at every whole multiple of the interval
whose tick fires before the run's own timer: when both fire together, the one stopping the loop
goes first.

Times here are in nanoseconds, counted from the start of the runtime.
-/
namespace RuleOverlay

namespace Timer

def milli : Nat := 1000000

def lastTick : Nat := 68719476734

/-- When a timer set for a deadline fires: at the deadline rounded up to a whole millisecond, or
at the wheel's last tick if that comes first. -/
def fireAt (deadline : Nat) : Nat := min ((deadline + milli - 1) / milli) lastTick * milli

def wholeMillis (clock : Nat) : Nat := clock / milli * milli

end Timer

namespace Forest

def minRefreshNanos : Nat := Timer.milli

def clampInterval (nanos : Nat) : Nat := max nanos minRefreshNanos

/-- The number of rebuilds a loop with an interval makes in a run: the multiples of the
interval whose ticks fire before the run's own timer. -/
def rebuildsWithin (intervalNanos runNanos : Nat) : Nat :=
  (Timer.fireAt runNanos - Timer.milli) / clampInterval intervalNanos

end Forest

/-- Where a refresh task stands. -/
inductive RefreshPhase where
  /-- spawned; its ticker is not made yet -/
  | starting
  /-- waiting for a shutdown message and for the next tick -/
  | waiting
  /-- a rebuild runs on the blocking pool -/
  | rebuilding
  | finished
  deriving DecidableEq

/-- A refresh task on a paused clock: its interval, the clock, the deadline of the ticker's next
tick, whether the shutdown channel is ready (a message was sent or the handle dropped), where the
task stands, and the rebuilds it has finished. -/
structure RefreshTask where
  period : Nat
  clock : Nat
  deadline : Nat
  stopped : Bool
  phase : RefreshPhase
  rebuilds : Nat

namespace RefreshTask

def spawn (intervalNanos : Nat) : RefreshTask :=
  ⟨Forest.clampInterval intervalNanos, 0, 0, false, .starting, 0⟩

/-- The ticker's next deadline once a tick due at `deadline` is taken at `now`: one interval on,
or, for a tick taken more than five milliseconds late, one interval after `now`. -/
def nextDeadline (deadline now period : Nat) : Nat :=
  if deadline + 5 * Timer.milli < now then now + period else deadline + period

/-- The task runs to its next wait, if it can run. It makes its ticker and takes the first tick
at once, with no rebuild. Waiting, it ends if the shutdown channel is ready, whatever the
ticker says; else a tick whose timer has fired starts a rebuild and the ticker moves on. A
rebuild that ends is counted and the task waits again. -/
def poll (s : RefreshTask) : Option RefreshTask :=
  match s.phase with
  | .starting => some { s with phase := .waiting, deadline := s.clock + s.period }
  | .waiting =>
    if s.stopped then some { s with phase := .finished }
    else if Timer.fireAt s.deadline ≤ s.clock then
      some { s with phase := .rebuilding, deadline := nextDeadline s.deadline s.clock s.period }
    else none
  | .rebuilding => some { s with phase := .waiting, rebuilds := s.rebuilds + 1 }
  | .finished => none

/-- One step of the task and its surroundings: the task runs to its next wait; or, while it
waits with nothing ready, the paused clock moves on, never past the firing of the ticker's
timer; or a shutdown message is sent, or the handle dropped. -/
inductive Step : RefreshTask → RefreshTask → Prop
  | run {s s' : RefreshTask} : s.poll = some s' → Step s s'
  | advance {s : RefreshTask} (t : Nat) : s.phase = .waiting → s.stopped = false → s.clock < t →
      t ≤ Timer.fireAt s.deadline → Step s { s with clock := t }
  | stop {s : RefreshTask} : s.stopped = false → Step s { s with stopped := true }

def settle : Nat → RefreshTask → RefreshTask
  | 0, s => s
  | fuel + 1, s =>
    match s.poll with
    | some s' => settle fuel s'
    | none => s

/-- Moves the paused clock on to `stopAt` through every tick that fires before it; at each one
the task takes the tick and rebuilds. `fuel` bounds the ticks. -/
def runUntil (stopAt : Nat) : Nat → RefreshTask → RefreshTask
  | 0, s => s
  | fuel + 1, s =>
    if Timer.fireAt s.deadline < stopAt then
      runUntil stopAt fuel (settle 2 { s with clock := Timer.fireAt s.deadline })
    else if s.clock < stopAt then { s with clock := stopAt }
    else s

/-- The task of a loop spawned with an interval, left to run while the runner sleeps for a
time, then shut down (or its handle dropped), and run to its end. The runner wakes when its own
timer fires; the one stopping the loop goes first, so a tick that fires just then is not
taken. -/
def driven (intervalNanos runNanos : Nat) : RefreshTask :=
  let wake := Timer.fireAt runNanos
  let s := runUntil wake (wake + 1) (settle 1 (spawn intervalNanos))
  settle 2 { s with stopped := true }

end RefreshTask

namespace Forest

variable {β : Type} {m : Type → Type} [Monad m]

def rebuild (run : β → m Outcome) : Nat → Forest β → m (Forest β)
  | 0, f => return f
  | n + 1, f => do rebuild run n (← f.build run)

/-- The forest after a refresh loop with an interval has run for a time and been stopped: one
full build for each rebuild of its task. -/
def refreshFor (run : β → m Outcome) (f : Forest β) (intervalNanos runNanos : Nat) :
    m (Forest β) :=
  rebuild run (RefreshTask.driven intervalNanos runNanos).rebuilds f

end Forest

end RuleOverlay
