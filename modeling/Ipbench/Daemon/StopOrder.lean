import Ipbench.Daemon.Target

namespace Ipbench
namespace Daemon

open Foundation

/-!
# Stop before marshall

The shunt keeps the timestamp of the plugin's `start` and the running time in
globals.  Only `stop` assigns the running time, and only the handler of
`SIGUSR1` calls `stop`: it runs in a tester of target mode when its child met
STOP.  A session therefore reaches `marshall` in two other ways without it.
In client mode MARSHALL follows as soon as `start` returns, and in target mode
a child that meets a word other than STOP marshalls by itself, as does a tester
whose `start` returns on its own.

A timed session is a session together with the globals of each process.  The
calls of the plugin are read off the events of the session, in their order.
-/

/-! ## The clock of the shunt -/

structure Timeval where
  sec : Int
  usec : Int
deriving DecidableEq, Repr

def Timeval.micros (time : Timeval) : Int :=
  time.sec * 1000000 + time.usec

/-- The macro `timersub`, which borrows a second. -/
def timersub (later earlier : Timeval) : Timeval :=
  if later.usec - earlier.usec < 0 then
    { sec := later.sec - earlier.sec - 1, usec := later.usec - earlier.usec + 1000000 }
  else { sec := later.sec - earlier.sec, usec := later.usec - earlier.usec }

/-- The globals of one process.  `run_secs` is kept exactly, in microseconds. -/
structure ShuntClock where
  timerStart : Timeval
  runSecs : Int
deriving DecidableEq, Repr

/-- The globals before the first call. -/
def ShuntClock.initial : ShuntClock where
  timerStart := { sec := 0, usec := 0 }
  runSecs := 0

def ShuntClock.start (clock : ShuntClock) (started : Timeval) : ShuntClock :=
  { clock with timerStart := started }

/-- `stop` leaves the running time alone when the plugin reports a failure. -/
def ShuntClock.stop (clock : ShuntClock) (stopped : Timeval) (sts : Int) : ShuntClock :=
  if sts ≠ 0 then clock
  else { clock with runSecs := (timersub stopped clock.timerStart).micros }

/-! ## Calls of the plugin -/

/-- The calls of the plugin's functions, with the process that makes them: the
timestamp that `start` leaves, the timestamp and the result of `stop`, and the
running time handed to `marshall`. -/
inductive PluginCall where
  | start (process : Nat) (started : Timeval)
  | stop (process : Nat) (stopped : Timeval) (sts : Int)
  | marshall (process : Nat) (runningTime : Int)
deriving DecidableEq, Repr

def PluginCall.process : PluginCall → Nat
  | start process _ => process
  | stop process _ _ => process
  | marshall process _ => process

def history (process : Nat) (calls : List PluginCall) : List PluginCall :=
  calls.filter fun call => call.process = process

/-- Before its `marshall` a process has called `start` and `stop`, each once and
in this order, and it hands over the time between them.  Nothing is asked of a
process whose `stop` failed. -/
def StopsFirst (before : List PluginCall) (call : PluginCall) : Prop :=
  ∀ process runningTime, call = .marshall process runningTime →
    (∀ stopped sts, .stop process stopped sts ∈ before → sts = 0) →
    ∃ started stopped, history process before = [.start process started, .stop process stopped 0] ∧
      runningTime = stopped.micros - started.micros

/-! ## Timed sessions -/

/-- A session with the globals of its processes, and the testers that wait no
more. -/
structure TimedSession where
  session : Session
  clocks : Nat → ShuntClock
  gone : Nat → Bool

namespace TimedSession

/-- The session of a new connection. -/
def start : TimedSession where
  session := Session.start
  clocks := fun _ => ShuntClock.initial
  gone := fun _ => false

end TimedSession

/-- The timestamps that the plugin takes while one input is handled, and the
result of its `stop`. -/
structure CallTimes where
  started : Timeval
  stopped : Timeval
  sts : Int
deriving DecidableEq, Repr

/-- A line arrives while `TestStatus` has some value, or the plugin's `start`
returns on its own in a tester that nobody signalled. -/
inductive Turn where
  | line (status : Nat)
  | returns (tester : Nat)
deriving DecidableEq, Repr

structure TimedInput where
  turn : Turn
  input : SessionInput
  times : CallTimes

/-- A killed reader reads nothing more. -/
def Outcome.kill : Outcome → Outcome
  | .reading _ => .killed
  | outcome => outcome

namespace TimedSession

/-- The tester kills the process it forked, which is the reader or the next
tester. -/
def killChild (timed : TimedSession) (process : Nat) : TimedSession :=
  if process + 1 = timed.session.testers then
    { timed with session := { timed.session with reader := timed.session.reader.kill } }
  else { timed with gone := Function.update timed.gone (process + 1) true }

/-- What one event of the session does to the globals.  A fork hands copies of
them to the child. -/
def perform (pids : Nat → Nat) (times : CallTimes) (timed : TimedSession) :
    SessionEvent → TimedSession × List PluginCall
  | .start process =>
      let forked := Function.update timed.clocks (process + 1) (timed.clocks process)
      ({ timed with
          clocks := Function.update forked process
            ((timed.clocks process).start times.started) },
        [.start process times.started])
  | .stop process =>
      ({ timed with
          clocks := Function.update timed.clocks process
            ((timed.clocks process).stop times.stopped times.sts) },
        [.stop process times.stopped times.sts])
  | .marshall process => (timed, [.marshall process (timed.clocks process).runSecs])
  | .killed pid _ =>
      ({ timed with gone := fun tester => timed.gone tester || pids tester == pid }, [])
  | .killChild process => (timed.killChild process, [])
  | _ => (timed, [])

/-- The events of a session, performed one after the other. -/
def performing (pids : Nat → Nat) (times : CallTimes) :
    Machine TimedSession SessionEvent PluginCall where
  step := perform pids times

/-- The signal of STOP does not stop a tester that is gone, and ends one that has
no handler.  The child exits. -/
def signalLost (timed : TimedSession) (tester : Nat) : TimedSession :=
  { timed with
    session := { timed.session with reader := .exited }
    gone := Function.update timed.gone tester true }

def step (options : Options) (pids : Nat → Nat) (timed : TimedSession) (arrival : TimedInput) :
    TimedSession × List PluginCall :=
  match arrival.turn with
  | .line status =>
      match timed.session.reader with
      | .reading phase =>
          let tester := timed.session.testers - 1
          if (handle options pids status timed.session.testers phase arrival.input).1 = .stopped ∧
              (timed.gone tester || !timed.session.handler) = true then
            (timed.signalLost tester, [])
          else
            let next := timed.session.step options pids status arrival.input
            (performing pids arrival.times).run { timed with session := next.1 } next.2
      | _ => (timed, [])
  | .returns tester =>
      if tester < timed.session.testers ∧ timed.gone tester = false then
        (performing pids arrival.times).run
          { timed with gone := Function.update timed.gone tester true }
          (resume arrival.input tester).2
      else (timed, [])

end TimedSession

/-- A word that makes a child marshall by itself. -/
def StrayWord (options : Options) (input : SessionInput) : Prop :=
  ∃ line word, input.lineIn = some line ∧ ¬ CommonOpt line ∧ line ≠ "ABORT".toList ∧
    line ≠ "QUIT".toList ∧ options.tables.matchWord line = some word ∧ word ≠ "STOP".toList

/-- A line after which the reading process marshalls without a `stop`. -/
def UnstoppedLine (options : Options) (phase : Phase) (input : SessionInput) : Prop :=
  match phase with
  | .run =>
      options.target = false ∧ Commands options "START".toList input ∧ input.plugin.start = 0
  | .child => StrayWord options input
  | .listen | .setup | .loaded => False

theorem history_append (process : Nat) (first second : List PluginCall) :
    history process (first ++ second) = history process first ++ history process second :=
  List.filter_append _ _

@[simp] theorem history_nil (process : Nat) : history process [] = [] := rfl

/-- A call of the plugin's `start`, `stop` or `marshall`. -/
def Calling : SessionEvent → Prop
  | .start _ | .stop _ | .marshall _ => True
  | _ => False

theorem calling_unrelated : Unrelated Calling :=
  ⟨fun _ => id, id, fun _ _ => id, id⟩

/-- What performing leaves alone: nobody starts to read, nobody forks, and
nobody comes back. -/
structure Fades (before after : TimedSession) : Prop where
  reader : ∀ phase, after.session.reader = .reading phase →
    before.session.reader = .reading phase
  testers : after.session.testers = before.session.testers
  gone : ∀ tester, after.gone tester = false → before.gone tester = false

theorem Fades.refl (timed : TimedSession) : Fades timed timed :=
  ⟨fun _ => id, rfl, fun _ => id⟩

theorem Fades.trans {first second third : TimedSession} (earlier : Fades first second)
    (later : Fades second third) : Fades first third where
  reader := fun phase reading => earlier.reader phase (later.reader phase reading)
  testers := later.testers.trans earlier.testers
  gone := fun tester waits => earlier.gone tester (later.gone tester waits)

/-- What the handling of one line can call. -/
inductive CallStep (options : Options) (process : Nat) (phase : Phase) (input : SessionInput)
    (result : Outcome × List SessionEvent) : Prop where
  | quiet (plain : result.1.Plain) (kept : result.1 = .reading .child → phase = .child)
      (free : Free Calling result.2)
  | fails (ended : result.1.Ended) (rest : List SessionEvent)
      (events : result.2 = .start process :: rest) (free : Free Calling rest)
  | forks (forked : result = (.forked, [.start process]))
  | stops (from_ : phase = .child) (stopped : result = (.stopped, [.stop (process - 1)]))
  | marshalls (bad : UnstoppedLine options phase input)

section Lines

variable {options : Options} {process : Nat} {phase : Phase} {input : SessionInput}
  {result : Outcome × List SessionEvent}

theorem CallStep.ended (ended : result.1.Ended) (free : Free Calling result.2) :
    CallStep options process phase input result :=
  .quiet ended.plain (fun reading => False.elim (Outcome.not_ended_of_reading reading ended)) free

theorem CallStep.error (errCode : StatusCode) (msg : Text) :
    CallStep options process phase input (Daemon.error input errCode msg) :=
  .ended (error_spec input errCode msg 0).1 (free_error calling_unrelated input errCode msg)

/-- An answer goes on in the next phase, or ends the reader. -/
theorem CallStep.answer (texts : List Text) {next : Phase} (kept : next = .child → phase = .child)
    {events : List SessionEvent} (free : Free Calling events) :
    CallStep options process phase input (Daemon.answer input texts (.reading next, events)) := by
  have quiet : Free Calling (Daemon.answer input texts (.reading next, events)).2 :=
    free_answer calling_unrelated free
  rcases answer_cases input texts (.reading next, events) 0 with
    ⟨_, reader, _⟩ | ⟨_, raised, _⟩
  · refine .quiet (Outcome.plain_reading reader) (fun reading => ?_) quiet
    exact kept (Outcome.reading.inj (reader.symm.trans reading))
  · exact .ended (Outcome.ended_raised raised) quiet

theorem CallStep.leaving (status pid : Nat) (line : Text)
    (step : line ≠ "ABORT".toList → line ≠ "QUIT".toList →
      CallStep options process phase input result) :
    CallStep options process phase input (leaving status pid input line result) := by
  unfold Daemon.leaving
  by_cases abort : line = "ABORT".toList
  · rw [if_pos abort]
    exact .ended (abort_ended status pid input.kills)
      (free_abort calling_unrelated status pid input.kills)
  · rw [if_neg abort]
    by_cases quit : line = "QUIT".toList
    · rw [if_pos quit]
      exact .error _ _
    · rw [if_neg quit]
      exact step abort quit

end Lines

/-- The invariant of a timed session: a tester that waits has called `start` and
nothing else and keeps its timestamp, the reader and the processes after it have
called nothing, and a child reads for a tester. -/
structure TimedOrder (timed : TimedSession) (trace : List PluginCall) : Prop where
  each : EachEvent StopsFirst trace
  waiting : ∀ tester < timed.session.testers, timed.gone tester = false →
    ∃ started, history tester trace = [.start tester started] ∧
      (timed.clocks tester).timerStart = started
  fresh : ∀ phase, timed.session.reader = .reading phase →
    ∀ process, timed.session.testers ≤ process → history process trace = []
  child : timed.session.reader = .reading .child → 0 < timed.session.testers

theorem history_foreign {process : Nat} {calls : List PluginCall}
    (others : ∀ call ∈ calls, call.process ≠ process) : history process calls = [] := by
  apply List.filter_eq_nil_iff.mpr
  intro call member
  simpa using others call member

namespace TimedOrder

variable {before after : TimedSession} {trace calls : List PluginCall}

/-- Nothing was called, and no process became a child. -/
theorem quiet (order : TimedOrder before trace) (clocks : after.clocks = before.clocks)
    (testers : after.session.testers = before.session.testers)
    (gone : ∀ tester, after.gone tester = false → before.gone tester = false)
    (reads : ∀ phase, after.session.reader = .reading phase →
      (∃ earlier, before.session.reader = .reading earlier) ∧
        (phase = .child → before.session.reader = .reading .child)) :
    TimedOrder after trace where
  each := order.each
  waiting := by
    intro tester waits alive
    rw [clocks]
    exact order.waiting tester (testers ▸ waits) (gone tester alive)
  fresh := by
    intro phase reading process later
    rcases (reads phase reading).1 with ⟨earlier, was⟩
    exact order.fresh earlier was process (testers ▸ later)
  child := by
    intro reading
    rw [testers]
    exact order.child ((reads .child reading).2 rfl)

/-- Nobody reads any more, and only processes that do not wait made calls. -/
theorem unread (order : TimedOrder before trace) (each : EachEvent StopsFirst (trace ++ calls))
    (noReader : ∀ phase, after.session.reader ≠ .reading phase)
    (fewer : after.session.testers ≤ before.session.testers)
    (gone : ∀ tester, after.gone tester = false → before.gone tester = false)
    (clocks : ∀ tester < after.session.testers, after.clocks tester = before.clocks tester)
    (others : ∀ call ∈ calls, after.session.testers ≤ call.process) :
    TimedOrder after (trace ++ calls) where
  each := each
  waiting := by
    intro tester waits alive
    rcases order.waiting tester (Nat.lt_of_lt_of_le waits fewer) (gone tester alive) with
      ⟨started, called, kept⟩
    have foreign : history tester calls = [] :=
      history_foreign fun call member =>
        Nat.ne_of_gt (Nat.lt_of_lt_of_le waits (others call member))
    refine ⟨started, ?_, ?_⟩
    · rw [history_append, called, foreign, List.append_nil]
    · rw [clocks tester waits, kept]
  fresh := fun phase reading => False.elim (noReader phase reading)
  child := fun reading => False.elim (noReader .child reading)

end TimedOrder

section Steps

variable {options : Options} {pids : Nat → Nat} {timed : TimedSession}
  {trace : List PluginCall} {input : SessionInput} {times : CallTimes}

/-- A line whose signal arrives, or that sends none. -/
theorem TimedSession.step_line {phase : Phase} (status : Nat)
    (reading : timed.session.reader = .reading phase)
    (arrives : (handle options pids status timed.session.testers phase input).1 = .stopped →
      timed.gone (timed.session.testers - 1) = false ∧ timed.session.handler = true) :
    timed.step options pids ⟨.line status, input, times⟩ =
      (TimedSession.performing pids times).run
        { timed with session := (timed.session.step options pids status input).1 }
        (timed.session.step options pids status input).2 := by
  unfold TimedSession.step
  dsimp only
  rw [reading]
  apply if_neg
  rintro ⟨stopped, lost⟩
  simp [arrives stopped] at lost

end Steps

end Daemon
end Ipbench
