import Ipbench.Daemon.Steps

namespace Ipbench
namespace Daemon

open Foundation

/-!
# The order of the plugin's functions

A plugin's `start` should run only after the plugin was loaded and its own
`setup` succeeded.  The order is kept by the phases: RUN is entered from the
inner loop of `setup` alone.  Two things let a session slip through.  The
inner loop ends for every line whose options parse, whatever its command word;
and the shunt reports a failing `setup` only for the return value -1, while
plugins report failures with other values as well.

The lemmas hold in both modes, for any contents of `TestStatus` at each line,
since other sessions may write to it in between.
-/

/-- A session on its own.  An input carries the value that `TestStatus` has
when the line arrives. -/
def sessionMachine (options : Options) (pids : Nat → Nat) :
    Machine Session (Nat × SessionInput) SessionEvent where
  step := fun session arrival => session.step options pids arrival.1 arrival.2

/-- `load_plugin` has succeeded. -/
def LoadedOk (trace : List SessionEvent) : Prop :=
  ∃ name, .loadPlugin name true ∈ trace

/-- The plugin's `setup` has returned zero, after `load_plugin` succeeded. -/
def SetUpOk (trace : List SessionEvent) : Prop :=
  ∃ before arguments after, trace = before ++ .pluginSetup arguments 0 :: after ∧ LoadedOk before

/-- Before `start` comes a successful `setup`. -/
def StartedProperly (before : List SessionEvent) (event : SessionEvent) : Prop :=
  ∀ process, event = .start process → SetUpOk before

/-- The session has entered RUN: it reads there, or a tester has been forked. -/
def Session.InRun (session : Session) : Prop :=
  session.reader = .reading .run ∨ session.reader = .reading .child ∨ 0 < session.testers

/-- Neither `start` is called nor RUN entered without a successful `setup`. -/
structure LifecycleOrder (session : Session) (trace : List SessionEvent) : Prop where
  started : EachEvent StartedProperly trace
  running : session.InRun → SetUpOk trace

/-- A line that ends the inner loop of `setup` without a successful `setup`:
its options parse, and its word is not SETUP, or the plugin's `setup` is called
and fails with a value other than -1. -/
def Unprepared (options : Options) (input : SessionInput) : Prop :=
  ∃ line cmd arglist bound, input.lineIn = some line ∧ ¬ CommonOpt line ∧
    line ≠ "ABORT".toList ∧ line ≠ "QUIT".toList ∧
    options.tables.matchCommand (fun char => char != '\n') line = some (cmd, arglist) ∧
    parseOptions options.tables arglist = some bound ∧ input.writable = true ∧
    (cmd ≠ "SETUP".toList ∨
      (setupArgs options bound ≠ none ∧ input.plugin.setup ≠ 0 ∧ input.plugin.setup ≠ -1))

/-! ## Events that neither start nor set up -/

/-- A call of the plugin's `start` or `setup`. -/
def PluginStage : SessionEvent → Prop
  | .start _ | .pluginSetup _ _ => True
  | _ => False

theorem pluginStage_unrelated : Unrelated PluginStage :=
  ⟨fun _ => id, id, fun _ _ => id, id⟩

/-- No call of the plugin's `start` or `setup`. -/
abbrev Quiet (events : List SessionEvent) : Prop :=
  Free PluginStage events

theorem Quiet.start {events : List SessionEvent} (quiet : Quiet events) (process : Nat) :
    .start process ∉ events :=
  fun member => quiet _ member trivial

theorem Quiet.setup {events : List SessionEvent} (quiet : Quiet events) (arguments : SetupArgs)
    (result : Int) : .pluginSetup arguments result ∉ events :=
  fun member => quiet _ member trivial

theorem quiet_sent (texts : List Text) : Quiet (texts.map SessionEvent.sent) :=
  free_sent pluginStage_unrelated texts

theorem quiet_error (input : SessionInput) (errCode : StatusCode) (msg : Text) :
    Quiet (error input errCode msg).2 :=
  free_error pluginStage_unrelated input errCode msg

theorem quiet_failed (input : SessionInput) (failure : ShuntError) :
    Quiet (failed input [] failure).2 :=
  free_failed pluginStage_unrelated input free_nil failure

theorem quiet_marshall (input : SessionInput) (process : Nat) :
    Quiet (marshall input process).2 :=
  free_marshall pluginStage_unrelated (fun _ => id) input id

/-! ## One line -/

/-- What one line does to the order of the plugin's functions. -/
inductive LifecycleStep (options : Options) (phase : Phase) (input : SessionInput)
    (result : Outcome × List SessionEvent) : Prop where
  | stays (reader : result.1 = .reading phase) (quiet : Quiet result.2)
  | hello (from_ : phase = .listen) (reader : result.1 = .reading .setup) (quiet : Quiet result.2)
  | loads (from_ : phase = .setup) (reader : result.1 = .reading .loaded)
      (loads : LoadedOk result.2) (quiet : Quiet result.2)
  | prepares (from_ : phase = .loaded) (arguments : SetupArgs) (rest : List SessionEvent)
      (events : result.2 = .pluginSetup arguments 0 :: rest) (quiet : Quiet rest)
      (reader : result.1 = .reading .run)
  | skips (from_ : phase = .loaded) (bad : Unprepared options input)
      (reader : result.1 = .reading .run)
  | returns (from_ : phase = .child) (reader : result.1 = .reading .run)
  | ends (ended : result.1.Ended)
      (quiet : phase = .run ∨ ∀ process, .start process ∉ result.2)
  | forks (from_ : phase = .run) (reader : result.1 = .forked)
  | stops (from_ : phase = .child) (reader : result.1 = .stopped)

section Phases

variable {options : Options} {phase : Phase} {input : SessionInput}
  {result : Outcome × List SessionEvent}

theorem LifecycleStep.ended (ended : result.1.Ended) (quiet : Quiet result.2) :
    LifecycleStep options phase input result :=
  .ends ended (Or.inr (Quiet.start quiet))

/-- An answer whose writes succeed goes on as intended. -/
theorem LifecycleStep.answer (texts : List Text) (next : Outcome × List SessionEvent)
    (step : input.writable = true → LifecycleStep options phase input
      (next.1, texts.map SessionEvent.sent ++ next.2)) :
    LifecycleStep options phase input (answer input texts next) := by
  unfold Daemon.answer
  cases written : input.writable with
  | true => exact step written
  | false => exact .ended trivial free_nil

theorem LifecycleStep.again (texts : List Text) :
    LifecycleStep options phase input (Daemon.answer input texts (.reading phase, [])) :=
  .answer texts _ fun _ => .stays rfl ((quiet_sent texts).append free_nil)

theorem LifecycleStep.error (errCode : StatusCode) (msg : Text) :
    LifecycleStep options phase input (Daemon.error input errCode msg) :=
  .ended (error_spec input errCode msg 0).1 (quiet_error input errCode msg)

theorem abort_ended (status pid : Nat) (kills : KillResults) :
    (abort status pid kills).1.Ended := by
  unfold abort after
  split
  · trivial
  · split
    · trivial
    · split
      · trivial
      · trivial

theorem LifecycleStep.leaving (status pid : Nat) (line : Text)
    (step : line ≠ "ABORT".toList → line ≠ "QUIT".toList →
      LifecycleStep options phase input result) :
    LifecycleStep options phase input (leaving status pid input line result) := by
  unfold Daemon.leaving
  by_cases abort : line = "ABORT".toList
  · rw [if_pos abort]
    exact .ended (abort_ended status pid input.kills)
      (free_abort pluginStage_unrelated status pid input.kills)
  · rw [if_neg abort]
    by_cases quit : line = "QUIT".toList
    · rw [if_pos quit]
      exact .error _ _
    · rw [if_neg quit]
      exact step abort quit

theorem marshall_ended (input : SessionInput) (process : Nat) :
    (marshall input process).1.Ended := by
  unfold marshall after
  dsimp only
  split
  · trivial
  · unfold Daemon.answer
    split
    · trivial
    · trivial

theorem resume_ended (input : SessionInput) (process : Nat) :
    (resume input process).1.Ended := by
  unfold resume
  split
  · exact failed_ended input _ _
  · exact marshall_ended input process

theorem listen_lifecycle (status pid : Nat) (line : Text) :
    LifecycleStep options .listen input (listen status pid input line) := by
  apply LifecycleStep.leaving
  intro _ _
  by_cases hello : matchNonspace line = "HELLO".toList
  · rw [if_pos hello]
    by_cases busy : 0 < status
    · rw [if_pos busy]
      exact .error _ _
    · rw [if_neg busy]
      refine .answer _ _ fun _ => .hello rfl rfl ((quiet_sent _).append (free_cons id free_nil))
  · rw [if_neg hello]
    exact .again _

theorem setup_lifecycle (status pid : Nat) (line : Text) :
    LifecycleStep options .setup input (setup options status pid input line) := by
  apply LifecycleStep.leaving
  intro _ _
  cases options.tables.matchCommand (loadArgument options.tables) line with
  | none => exact .again _
  | some found =>
      rcases found with ⟨cmd, arg⟩
      dsimp only
      by_cases load : cmd = "LOAD".toList
      · rw [if_pos load]
        cases input.plugin.load with
        | some failure =>
            exact .ended (failed_ended input [] failure)
              (free_cons id (quiet_failed input failure))
        | none =>
            have quiet : Quiet [.loadPlugin arg true] := free_cons id free_nil
            unfold after Daemon.answer
            cases input.writable with
            | true =>
                exact .loads rfl rfl ⟨arg, List.mem_cons_self⟩
                  (quiet.append ((quiet_sent _).append free_nil))
            | false => exact .ended trivial (quiet.append free_nil)
      · rw [if_neg load]
        exact .again _

theorem run_lifecycle (status pid process : Nat) (line : Text) :
    LifecycleStep options .run input (run options status pid process input line) := by
  apply LifecycleStep.leaving
  intro _ _
  by_cases start : options.tables.matchWord line = some "START".toList
  · rw [if_pos start]
    by_cases target : options.target = true
    · rw [if_pos target]
      exact .forks rfl rfl
    · rw [if_neg target]
      cases shuntStart input.plugin with
      | some failure => exact .ends (failed_ended input [] failure) (Or.inl rfl)
      | none => exact .ends (marshall_ended input process) (Or.inl rfl)
  · rw [if_neg start]
    exact .again _

theorem child_lifecycle (ppid process : Nat) (line : Text) :
    LifecycleStep options .child input (child options ppid process input line) := by
  unfold child
  by_cases abort : line = "ABORT".toList
  · rw [if_pos abort]
    refine .ended ?_ (free_cons id free_nil)
    cases input.kills.found with
    | true => trivial
    | false => trivial
  rw [if_neg abort]
  by_cases quit : line = "QUIT".toList
  · rw [if_pos quit]
    exact .error _ _
  rw [if_neg quit]
  cases options.tables.matchWord line with
  | none => exact .answer _ _ fun _ => .returns rfl rfl
  | some cmd =>
      dsimp only
      by_cases stop : cmd = "STOP".toList
      · rw [if_pos stop]
        cases input.kills.found with
        | true => exact .stops rfl rfl
        | false => exact .ended trivial free_nil
      · rw [if_neg stop]
        exact .ended (marshall_ended input process) (quiet_marshall input process)

theorem loaded_lifecycle {line : Text} (read : input.lineIn = some line)
    (common : ¬ CommonOpt line) (status pid : Nat) :
    LifecycleStep options .loaded input (loaded options status pid input line) := by
  apply LifecycleStep.leaving
  intro abort quit
  cases matched : options.tables.matchCommand (fun char => char != '\n') line with
  | none => exact .again _
  | some found =>
      rcases found with ⟨cmd, arglist⟩
      dsimp only
      cases parsed : parseOptions options.tables arglist with
      | none => exact .ended trivial free_nil
      | some bound =>
          dsimp only
          by_cases setup : cmd = "SETUP".toList
          · rw [if_pos setup]
            cases ready : setupArgs options bound with
            | none => exact .ended trivial free_nil
            | some arguments =>
                have startFree : ∀ rest : List SessionEvent, Quiet rest → ∀ process,
                    .start process ∉
                      [SessionEvent.pluginSetup arguments input.plugin.setup] ++ rest := by
                  intro rest quiet process member
                  rcases List.mem_cons.mp member with impossible | later
                  · cases impossible
                  · exact Quiet.start quiet process later
                have ends : ∀ outcome : Outcome × List SessionEvent, outcome.1.Ended →
                    Quiet outcome.2 → LifecycleStep options .loaded input
                      (after [.pluginSetup arguments input.plugin.setup] outcome) := by
                  intro outcome ended quiet
                  exact .ends ended (Or.inr (startFree _ quiet))
                dsimp only
                unfold shuntSetup
                by_cases failed : input.plugin.setup = -1
                · rw [if_pos failed]
                  exact ends _ (failed_ended input [] _) (quiet_failed input _)
                · rw [if_neg failed]
                  dsimp only
                  unfold Daemon.answer
                  cases written : input.writable with
                  | false => exact ends _ trivial free_nil
                  | true =>
                      by_cases succeeded : input.plugin.setup = 0
                      · rw [succeeded]
                        exact .prepares rfl arguments _ rfl ((quiet_sent _).append free_nil) rfl
                      · exact .skips rfl ⟨line, cmd, arglist, bound, read, common, abort, quit,
                          matched, parsed, written, Or.inr ⟨by
                            rw [ready]
                            exact Option.some_ne_none arguments, succeeded, failed⟩⟩ rfl
          · rw [if_neg setup]
            exact .answer _ _ fun written => .skips rfl ⟨line, cmd, arglist, bound, read, common,
              abort, quit, matched, parsed, written, Or.inl setup⟩ rfl

end Phases

theorem handle_lifecycle (options : Options) (pids : Nat → Nat) (status process : Nat)
    (phase : Phase) (input : SessionInput) :
    LifecycleStep options phase input
      (handle options pids status process phase input) := by
  cases handle_read options pids status process phase input with
  | undecodable _ raised =>
      rw [raised]
      exact .ended trivial free_nil
  | common _ _ _ texts answered =>
      rw [answered]
      exact .again texts
  | passes line read other handled =>
      rw [handled]
      cases phase with
      | listen => exact listen_lifecycle status (pids process) line
      | setup => exact setup_lifecycle status (pids process) line
      | loaded => exact loaded_lifecycle read other status (pids process)
      | run => exact run_lifecycle status (pids process) process line
      | child => exact child_lifecycle (pids (process - 1)) process line

/-! ## Whole sessions -/

theorem SetUpOk.append {trace : List SessionEvent} (ready : SetUpOk trace)
    (events : List SessionEvent) : SetUpOk (trace ++ events) := by
  rcases ready with ⟨before, arguments, after, split, loaded⟩
  exact ⟨before, arguments, after ++ events, by rw [split, List.append_assoc]; rfl, loaded⟩

theorem SetUpOk.mem {trace : List SessionEvent} (ready : SetUpOk trace) :
    ∃ arguments, .pluginSetup arguments 0 ∈ trace := by
  rcases ready with ⟨before, arguments, after, split, _⟩
  exact ⟨arguments, split ▸ List.mem_append_right _ List.mem_cons_self⟩

theorem LoadedOk.append {trace : List SessionEvent} (loaded : LoadedOk trace)
    (events : List SessionEvent) : LoadedOk (trace ++ events) :=
  loaded.imp fun _ member => List.mem_append_left _ member

/-- Once the plugin is set up, anything may follow. -/
theorem started_of_setUp {trace : List SessionEvent} (each : EachEvent StartedProperly trace)
    (ready : SetUpOk trace) (events : List SessionEvent) :
    EachEvent StartedProperly (trace ++ events) :=
  each.append fun _ _ middle _ _ => ready.append middle

theorem started_of_startFree {trace events : List SessionEvent}
    (each : EachEvent StartedProperly trace) (free : ∀ process, .start process ∉ events) :
    EachEvent StartedProperly (trace ++ events) := by
  apply each.append
  intro event member middle process started
  exact False.elim (free process (started ▸ member))

def Phase.Early : Phase → Prop
  | .listen | .setup | .loaded => True
  | .run | .child => False

/-- The invariant of a session: the order so far, the plugin loaded in the inner
loop of `setup`, and no successful `setup` before RUN. -/
structure Ordered (session : Session) (trace : List SessionEvent) : Prop where
  order : LifecycleOrder session trace
  loading : session.reader = .reading .loaded → LoadedOk trace
  fresh : ∀ phase, session.reader = .reading phase → phase.Early →
    ∀ arguments, .pluginSetup arguments 0 ∉ trace

theorem ordered_start : Ordered Session.start [] where
  order :=
    { started := eachEvent_nil _
      running := by
        rintro (impossible | impossible | impossible)
        · cases impossible
        · cases impossible
        · exact False.elim (Nat.lt_irrefl 0 impossible) }
  loading := by
    intro impossible
    cases impossible
  fresh := fun _ _ _ _ => List.not_mem_nil

/-- After a successful `setup` a session that is past the early phases stays
in order. -/
theorem ordered_of_setUp {session : Session} {trace : List SessionEvent}
    (started : EachEvent StartedProperly trace) (ready : SetUpOk trace)
    (late : ∀ phase, session.reader = .reading phase → ¬ phase.Early) :
    Ordered session trace where
  order := { started := started, running := fun _ => ready }
  loading := fun loaded => False.elim (late .loaded loaded trivial)
  fresh := fun phase reading early => False.elim (late phase reading early)

theorem ordered_of_gone {session : Session} {trace : List SessionEvent}
    (started : EachEvent StartedProperly trace) (idle : session.testers = 0)
    (gone : ∀ phase, session.reader ≠ .reading phase) : Ordered session trace where
  order :=
    { started := started
      running := by
        rintro (reading | reading | waiting)
        · exact False.elim (gone _ reading)
        · exact False.elim (gone _ reading)
        · exact False.elim (Nat.ne_of_gt waiting idle) }
  loading := fun reading => False.elim (gone _ reading)
  fresh := fun phase reading => False.elim (gone phase reading)

/-- A session that goes on reading in an early phase, after quiet events. -/
private theorem ordered_of_early {session : Session} {trace events : List SessionEvent}
    {phase : Phase} (started : EachEvent StartedProperly trace)
    (fresh : ∀ arguments, .pluginSetup arguments 0 ∉ trace) (quiet : Quiet events)
    (idle : session.testers = 0) (reading : session.reader = .reading phase)
    (early : phase.Early) (loading : phase = .loaded → LoadedOk (trace ++ events)) :
    Ordered session (trace ++ events) where
  order :=
    { started := started_of_startFree started (Quiet.start quiet)
      running := by
        rintro (run | child | waiting)
        · rw [reading] at run
          cases run
          exact False.elim early
        · rw [reading] at child
          cases child
          exact False.elim early
        · exact False.elim (Nat.ne_of_gt waiting idle) }
  loading := by
    intro loaded
    rw [reading] at loaded
    exact loading (Outcome.reading.inj loaded)
  fresh := by
    intro _ _ _ arguments member
    rcases List.mem_append.mp member with old | new
    · exact fresh arguments old
    · exact Quiet.setup quiet arguments 0 new

theorem Ordered.idle {session : Session} {trace : List SessionEvent}
    (ordered : Ordered session trace) {phase : Phase} (reading : session.reader = .reading phase)
    (early : phase.Early) : session.testers = 0 := by
  by_contra waiting
  rcases (ordered.order.running (Or.inr (Or.inr (Nat.pos_of_ne_zero waiting)))).mem with
    ⟨arguments, member⟩
  exact ordered.fresh phase reading early arguments member

theorem LifecycleStep.plain {options : Options} {phase : Phase} {input : SessionInput}
    {result : Outcome × List SessionEvent} (step : LifecycleStep options phase input result)
    (early : phase.Early) : result.1.Plain := by
  cases step with
  | stays reader _ => exact Outcome.plain_reading reader
  | hello _ reader _ => exact Outcome.plain_reading reader
  | loads _ reader _ _ => exact Outcome.plain_reading reader
  | prepares _ _ _ _ _ reader => exact Outcome.plain_reading reader
  | skips _ _ reader => exact Outcome.plain_reading reader
  | returns _ reader => exact Outcome.plain_reading reader
  | ends ended _ => exact ended.plain
  | forks from_ _ =>
      subst from_
      exact False.elim early
  | stops from_ _ =>
      subst from_
      exact False.elim early

/-- A line of an early phase keeps the order, unless it skips the setup. -/
theorem ordered_step_early {options : Options} {pids : Nat → Nat} {status : Nat}
    {session : Session} {trace : List SessionEvent} {input : SessionInput}
    (ordered : Ordered session trace) {phase : Phase} (reading : session.reader = .reading phase)
    (early : phase.Early)
    (prepared : session.reader = .reading .loaded → ¬ Unprepared options input) :
    Ordered (session.step options pids status input).1
      (trace ++ (session.step options pids status input).2) := by
  have idle := ordered.idle reading early
  have fresh := ordered.fresh phase reading early
  have started := ordered.order.started
  have step := handle_lifecycle options pids status session.testers phase input
  have plain := step.plain early
  rw [Session.step_reading options pids status reading input plain]
  generalize handle options pids status session.testers phase input = result at step ⊢
  cases step with
  | stays reader quiet =>
      refine ordered_of_early started fresh quiet idle reader early ?_
      intro loaded
      exact (ordered.loading (loaded ▸ reading)).append result.2
  | hello _ reader quiet =>
      refine ordered_of_early started fresh quiet idle reader trivial ?_
      intro impossible
      cases impossible
  | loads _ reader loads quiet =>
      refine ordered_of_early started fresh quiet idle reader trivial fun _ => ?_
      exact loads.imp fun _ member => List.mem_append_right _ member
  | prepares from_ arguments rest events quiet reader =>
      have ready : SetUpOk (trace ++ result.2) :=
        ⟨trace, arguments, rest, by rw [events], ordered.loading (from_ ▸ reading)⟩
      refine ordered_of_setUp (started_of_startFree started ?_) ready ?_
      · intro process member
        rw [events] at member
        rcases List.mem_cons.mp member with impossible | later
        · cases impossible
        · exact Quiet.start quiet process later
      · intro next run
        rw [show result.1 = .reading .run from reader] at run
        cases run
        exact id
  | skips from_ bad _ => exact False.elim (prepared (from_ ▸ reading) bad)
  | returns from_ _ =>
      subst from_
      exact False.elim early
  | ends ended quiet =>
      refine ordered_of_gone (started_of_startFree started ?_) idle
        fun _ reading => Outcome.not_ended_of_reading reading ended
      rcases quiet with run | free
      · subst run
        exact False.elim early
      · exact free
  | forks from_ _ =>
      subst from_
      exact False.elim early
  | stops from_ _ =>
      subst from_
      exact False.elim early

/-- In RUN and in the child no line leads back to an early phase. -/
theorem ordered_step_late {options : Options} {pids : Nat → Nat} {status : Nat}
    {session : Session} {trace : List SessionEvent} {input : SessionInput}
    (ordered : Ordered session trace) {phase : Phase} (reading : session.reader = .reading phase)
    (late : ¬ phase.Early) :
    Ordered (session.step options pids status input).1
      (trace ++ (session.step options pids status input).2) := by
  have inRun : session.InRun := by
    cases phase with
    | run => exact Or.inl reading
    | child => exact Or.inr (Or.inl reading)
    | listen => exact False.elim (late trivial)
    | setup => exact False.elim (late trivial)
    | loaded => exact False.elim (late trivial)
  have ready := ordered.order.running inRun
  refine ordered_of_setUp (started_of_setUp ordered.order.started ready _) (ready.append _) ?_
  have step := handle_lifecycle options pids status session.testers phase input
  intro next nextReading
  unfold Session.step at nextReading
  rw [reading] at nextReading
  dsimp only at nextReading
  generalize handle options pids status session.testers phase input = result at step nextReading
  rcases result with ⟨outcome, events⟩
  cases step with
  | stays reader _ =>
      cases reader
      cases nextReading
      exact late
  | hello from_ _ _ =>
      subst from_
      exact False.elim (late trivial)
  | loads from_ _ _ _ =>
      subst from_
      exact False.elim (late trivial)
  | prepares from_ _ _ _ _ _ =>
      subst from_
      exact False.elim (late trivial)
  | skips from_ _ _ =>
      subst from_
      exact False.elim (late trivial)
  | returns _ reader =>
      cases reader
      cases nextReading
      exact id
  | ends ended _ =>
      cases outcome with
      | reading _ => exact False.elim ended
      | forked => exact False.elim ended
      | stopped => exact False.elim ended
      | finished => cases nextReading
      | raised => cases nextReading
      | killed => cases nextReading
      | exited => cases nextReading
  | forks _ reader =>
      cases reader
      cases nextReading
      exact id
  | stops _ reader =>
      cases reader
      dsimp only at nextReading
      split at nextReading
      · have ended := resume_ended input (session.testers - 1)
        exact False.elim (Outcome.not_ended_of_reading nextReading ended)
      · cases nextReading

/-- Every line keeps the order, unless it skips the setup. -/
theorem ordered_step {options : Options} {pids : Nat → Nat} {status : Nat} {session : Session}
    {trace : List SessionEvent} {input : SessionInput} (ordered : Ordered session trace)
    (prepared : session.reader = .reading .loaded → ¬ Unprepared options input) :
    Ordered (session.step options pids status input).1
      (trace ++ (session.step options pids status input).2) := by
  by_cases gone : ∀ phase, session.reader ≠ .reading phase
  · rw [Session.step_gone options pids status gone, List.append_nil]
    exact ordered
  · push Not at gone
    rcases gone with ⟨phase, reading⟩
    by_cases early : phase.Early
    · exact ordered_step_early ordered reading early prepared
    · exact ordered_step_late ordered reading early

/-- A line that skips the setup enters RUN all the same. -/
theorem handle_unprepared {options : Options} (pids : Nat → Nat) (status process : Nat)
    {input : SessionInput} (bad : Unprepared options input) :
    (handle options pids status process .loaded input).1 = .reading .run ∧
      ∀ arguments, .pluginSetup arguments 0 ∉
        (handle options pids status process .loaded input).2 := by
  rcases bad with ⟨line, cmd, arglist, bound, read, common, abort, quit, matched, parsed, written,
    skipped⟩
  rw [handle_line options pids status process .loaded read common]
  simp only [dispatch, loaded, leaving, if_neg abort, if_neg quit, matched, parsed]
  by_cases setup : cmd = "SETUP".toList
  · rcases skipped with other | ⟨ready, unset, unreported⟩
    · exact False.elim (other setup)
    · rw [if_pos setup]
      cases arguments : setupArgs options bound with
      | none => exact False.elim (ready arguments)
      | some arguments =>
          simp only [shuntSetup, if_neg unreported, answer, if_pos written]
          refine ⟨rfl, fun other member => ?_⟩
          rcases List.mem_cons.mp member with same | later
          · exact unset (SessionEvent.pluginSetup.inj same).2.symm
          · exact Quiet.setup ((quiet_sent _).append free_nil) other 0 later
  · rw [if_neg setup, answer, if_pos written]
    exact ⟨rfl, fun other => Quiet.setup ((quiet_sent _).append free_nil) other 0⟩

/-- The order is lost with the first line that skips the setup. -/
theorem not_lifecycleOrder_of_unprepared {options : Options} {pids : Nat → Nat} {status : Nat}
    {session : Session} {trace : List SessionEvent} {input : SessionInput}
    (ordered : Ordered session trace) (reading : session.reader = .reading .loaded)
    (bad : Unprepared options input) :
    ¬ LifecycleOrder (session.step options pids status input).1
      (trace ++ (session.step options pids status input).2) := by
  rcases handle_unprepared pids status session.testers bad with ⟨reader, unset⟩
  rw [Session.step_reading options pids status reading input (Outcome.plain_reading reader)]
  intro order
  rcases (order.running (Or.inl reader)).mem with ⟨arguments, member⟩
  rcases List.mem_append.mp member with old | new
  · exact ordered.fresh .loaded reading trivial arguments old
  · exact unset arguments new

/-- No step of the run ends the inner loop of `setup` without a successful
`setup` of the plugin. -/
def AlwaysPrepared (options : Options) (pids : Nat → Nat)
    (inputs : List (Nat × SessionInput)) : Prop :=
  (sessionMachine options pids).Along
    (fun session _ arrival => session.reader = .reading .loaded → ¬ Unprepared options arrival.2)
    Session.start [] inputs

theorem ordered_run {options : Options} {pids : Nat → Nat} {inputs : List (Nat × SessionInput)}
    (prepared : AlwaysPrepared options pids inputs) :
    Ordered ((sessionMachine options pids).run Session.start inputs).1
      ((sessionMachine options pids).run Session.start inputs).2 :=
  (sessionMachine options pids).run_invariant
    (fun _ _ _ ordered condition => ordered_step ordered condition) ordered_start prepared

/-- In every state of a session the plugin's functions have been called in
order, exactly as long as no line ends the inner loop of `setup` with another
command word or with a failure that the shunt does not report. -/
theorem lifecycleOrder_iff (options : Options) (pids : Nat → Nat)
    (inputs : List (Nat × SessionInput)) :
    (∀ before, before <+: inputs →
      LifecycleOrder ((sessionMachine options pids).run Session.start before).1
        ((sessionMachine options pids).run Session.start before).2) ↔
      AlwaysPrepared options pids inputs := by
  constructor
  · intro order
    induction inputs using List.reverseRecOn with
    | nil => trivial
    | append_singleton inputs arrival inductionHypothesis =>
        have earlier := inductionHypothesis fun before initial =>
          order before (initial.trans (List.prefix_append inputs [arrival]))
        refine ((sessionMachine options pids).along_append _ _ _ _ _).mpr ⟨earlier, ?_, trivial⟩
        intro reading bad
        have last := order _ (List.prefix_refl _)
        rw [Machine.run_concat] at last
        exact not_lifecycleOrder_of_unprepared (ordered_run earlier) reading bad last
  · intro prepared before initial
    rcases initial with ⟨rest, split⟩
    subst split
    have along := ((sessionMachine options pids).along_append _ _ _ _ _).mp prepared
    exact (ordered_run along.1).order

/-- What the plugin's `setup` returned so far. -/
def setupResults (trace : List SessionEvent) : List Int :=
  trace.filterMap fun event =>
    match event with
    | .pluginSetup _ result => some result
    | _ => none

theorem SetUpOk.zero_mem {trace : List SessionEvent} (ready : SetUpOk trace) :
    0 ∈ setupResults trace := by
  rcases ready.mem with ⟨arguments, member⟩
  exact List.mem_filterMap.mpr ⟨_, member, rfl⟩

/-- A line whose word is not SETUP starts the test without the plugin's `setup`,
and so does a `setup` that fails with the value 1. -/
theorem start_without_setup :
    let skipped := (sessionMachine clientOptions fun _ => 7).run Session.start
      [(0, textInput "HELLO"), (7, textInput "LOAD dummy"), (7, textInput "GO a::b"),
        (7, textInput "START")]
    let failed := (sessionMachine clientOptions fun _ => 7).run Session.start
      [(0, textInput "HELLO"), (7, textInput "LOAD nfsstone"),
        (7, { textInput "SETUP target::host||port::0||args::''" with
          plugin := { (textInput "").plugin with setup := 1 } }),
        (7, textInput "START")]
    (.start 0 ∈ skipped.2 ∧ ¬ SetUpOk skipped.2) ∧ (.start 0 ∈ failed.2 ∧ ¬ SetUpOk failed.2) := by
  refine ⟨⟨by decide, fun ready => ?_⟩, by decide, fun ready => ?_⟩
  · exact absurd ready.zero_mem (by decide)
  · exact absurd ready.zero_mem (by decide)

end Daemon
end Ipbench
