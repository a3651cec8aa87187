import Ipbench.Daemon.Steps
import Mathlib.Logic.Function.Basic

namespace Ipbench
namespace Daemon

open Foundation

/-!
# One test at a time

Every connection has its own session, and all of them share one `TestStatus`.
The flag is acquired by an accepted HELLO and released when the session ends.
`Exclusive` is the invariant: at most one session is active, and the flag is
set while one is.

The invariant survives every line of every session but one.  ERROR clears the
flag for every code except 421, also for a session that never acquired it, so
a QUIT from a session that still listens releases the flag of another one.
-/

/-- The sessions by connection, and the shared flag. -/
structure SystemState where
  status : Nat
  sessions : Nat → Session

structure Arrival where
  connection : Nat
  input : SessionInput
deriving DecidableEq, Repr

/-- The state of the daemon before the first connection. -/
def SystemState.idle : SystemState where
  status := 0
  sessions := fun _ => Session.start

/-- The daemon: handling a line is one atomic step.  `pids` gives the process
identifiers of each connection. -/
def system (options : Options) (pids : Nat → Nat → Nat) :
    Machine SystemState Arrival (Nat × SessionEvent) where
  step := fun state arrival =>
    let handled := (state.sessions arrival.connection).step options (pids arrival.connection)
      state.status arrival.input
    ({ status := statusAfter state.status handled.2
       sessions := Function.update state.sessions arrival.connection handled.1 },
      handled.2.map fun event => (arrival.connection, event))

/-- At most one session is active, the flag is set while one is, and no session
waits for another process. -/
structure Exclusive (state : SystemState) : Prop where
  single : ∀ first second, (state.sessions first).Active → (state.sessions second).Active →
    first = second
  flagged : ∀ connection, (state.sessions connection).Active → 0 < state.status
  separate : ∀ connection, (state.sessions connection).Single

/-- A session that has not said HELLO says QUIT while a test is running. -/
def StrayQuit (state : SystemState) (arrival : Arrival) : Prop :=
  (state.sessions arrival.connection).reader = .reading .listen ∧
    arrival.input.lineIn = some "QUIT".toList ∧ 0 < state.status

instance (state : SystemState) (arrival : Arrival) : Decidable (StrayQuit state arrival) :=
  inferInstanceAs (Decidable (_ ∧ _ ∧ _))

/-- What one line does to the activity of its session and to the flag. -/
inductive ActivityStep (status : Nat) (session : Session) (input : SessionInput)
    (result : Session × List SessionEvent) : Prop where
  | keeps (same : result.1.Active ↔ session.Active) (kept : statusAfter status result.2 = status)
  | acquires (free : status = 0) (taken : 0 < statusAfter status result.2)
  | ends (active : session.Active) (ended : ¬ result.1.Active)
  | quits (listening : session.reader = .reading .listen)
      (quit : input.lineIn = some "QUIT".toList) (ended : ¬ result.1.Active)

theorem step_activity {options : Options} (client : options.target = false)
    {pids : Nat → Nat} (positive : ∀ process, 0 < pids process) (status : Nat)
    {session : Session} (separate : session.Single) {input : SessionInput}
    (noAbort : input.lineIn ≠ some "ABORT".toList) :
    ActivityStep status session input (session.step options pids status input) ∧
      (session.step options pids status input).1.Single := by
  rcases separate with listening | active | ended
  · have step := handle_listen options pids status session.testers noAbort
    have idle := not_active_of_listening listening
    rw [Session.step_reading options pids status listening input step.plain]
    generalize handle options pids status session.testers .listen input = result at step ⊢
    cases step with
    | stays _ reader kept =>
        have still : ¬ Session.Active { session with reader := result.1 } :=
          not_active_of_listening reader
        exact ⟨.keeps (iff_of_false still idle) kept, Or.inl reader⟩
    | acquires _ free reader taken =>
        refine ⟨.acquires free ?_, Or.inr (Or.inl (Session.active_of_reading reader trivial))⟩
        rw [taken]
        exact positive session.testers
    | ends ended kept =>
        exact ⟨.keeps (iff_of_false (not_active_of_ended ended) idle) kept, Or.inr (Or.inr ended)⟩
    | quits quit ended _ =>
        exact ⟨.quits listening quit (not_active_of_ended ended), Or.inr (Or.inr ended)⟩
  · rcases active.exists_phase with ⟨phase, reading, holds⟩
    have step := handle_held client pids status session.testers holds noAbort
    rw [Session.step_reading options pids status reading input step.plain]
    generalize handle options pids status session.testers phase input = result at step ⊢
    cases step with
    | reads _ next nextHolds reader kept =>
        have still : Session.Active { session with reader := result.1 } :=
          Session.active_of_reading reader nextHolds
        exact ⟨.keeps (iff_of_true still active) kept, Or.inr (Or.inl still)⟩
    | ends _ ended _ => exact ⟨.ends active (not_active_of_ended ended), Or.inr (Or.inr ended)⟩
    | spins _ reader kept =>
        have still : Session.Active { session with reader := result.1 } :=
          Session.active_of_reading reader holds
        exact ⟨.keeps (iff_of_true still active) kept, Or.inr (Or.inl still)⟩
    | raises _ raised _ =>
        have ended := Outcome.ended_raised raised
        exact ⟨.ends active (not_active_of_ended ended), Or.inr (Or.inr ended)⟩
  · rw [Session.step_ended options pids status ended]
    exact ⟨.keeps Iff.rfl rfl, Or.inr (Or.inr ended)⟩

/-! ## The invariant -/

theorem exclusive_idle : Exclusive SystemState.idle where
  single := by
    intro first second active
    exact False.elim (not_active_of_listening rfl active)
  flagged := by
    intro connection active
    exact False.elim (not_active_of_listening rfl active)
  separate := fun _ => Or.inl rfl

/-- A step after which no session is active. -/
private theorem exclusive_of_none {state : SystemState}
    (none : ∀ connection, ¬ (state.sessions connection).Active)
    (separate : ∀ connection, (state.sessions connection).Single) : Exclusive state where
  single := fun first _ active => False.elim (none first active)
  flagged := fun connection active => False.elim (none connection active)
  separate := separate

/-- Every line but a stray QUIT keeps the invariant. -/
theorem exclusive_step {options : Options} (client : options.target = false)
    {pids : Nat → Nat → Nat} (positive : ∀ connection process, 0 < pids connection process)
    {state : SystemState} (exclusive : Exclusive state) {arrival : Arrival}
    (noAbort : arrival.input.lineIn ≠ some "ABORT".toList) (polite : ¬ StrayQuit state arrival) :
    Exclusive ((system options pids).step state arrival).1 := by
  have effect := step_activity client (positive arrival.connection) state.status
    (exclusive.separate arrival.connection) noAbort
  change Exclusive
    { status := statusAfter state.status ((state.sessions arrival.connection).step options
        (pids arrival.connection) state.status arrival.input).2
      sessions := Function.update state.sessions arrival.connection
        ((state.sessions arrival.connection).step options (pids arrival.connection) state.status
          arrival.input).1 }
  generalize (state.sessions arrival.connection).step options (pids arrival.connection)
    state.status arrival.input = result at effect ⊢
  rcases effect with ⟨step, single⟩
  have separate : ∀ connection,
      (Function.update state.sessions arrival.connection result.1 connection).Single := by
    intro connection
    by_cases own : connection = arrival.connection
    · rw [own, Function.update_self]
      exact single
    · rw [Function.update_of_ne own]
      exact exclusive.separate connection
  have others : ∀ connection, connection ≠ arrival.connection →
      (Function.update state.sessions arrival.connection result.1 connection).Active →
        (state.sessions connection).Active := by
    intro connection other active
    rwa [Function.update_of_ne other] at active
  have own : Function.update state.sessions arrival.connection result.1 arrival.connection =
      result.1 := Function.update_self _ _ _
  -- When the session of the line is over, another one would have to be active.
  have none : ¬ result.1.Active →
      (∀ connection, connection ≠ arrival.connection → ¬ (state.sessions connection).Active) →
      ∀ connection,
        ¬ (Function.update state.sessions arrival.connection result.1 connection).Active := by
    intro ended rest connection still
    by_cases mine : connection = arrival.connection
    · subst mine
      rw [own] at still
      exact ended still
    · exact rest connection mine (others connection mine still)
  cases step with
  | keeps same kept =>
      have before : ∀ connection,
          (Function.update state.sessions arrival.connection result.1 connection).Active →
            (state.sessions connection).Active := by
        intro connection active
        by_cases mine : connection = arrival.connection
        · subst mine
          rw [own] at active
          exact same.mp active
        · exact others connection mine active
      refine ⟨?_, ?_, separate⟩
      · intro first second firstActive secondActive
        exact exclusive.single first second (before first firstActive) (before second secondActive)
      · intro connection active
        rw [kept]
        exact exclusive.flagged connection (before connection active)
  | acquires free taken =>
      have nobody : ∀ connection, ¬ (state.sessions connection).Active := by
        intro connection active
        have set := exclusive.flagged connection active
        rw [free] at set
        exact Nat.lt_irrefl 0 set
      have mine : ∀ connection,
          (Function.update state.sessions arrival.connection result.1 connection).Active →
            connection = arrival.connection := by
        intro connection active
        by_contra other
        exact nobody connection (others connection other active)
      refine ⟨?_, fun _ _ => taken, separate⟩
      intro first second firstActive secondActive
      exact (mine first firstActive).trans (mine second secondActive).symm
  | ends active ended =>
      refine exclusive_of_none (none ended ?_) separate
      intro connection mine still
      exact mine (exclusive.single _ _ still active)
  | quits listening quit ended =>
      refine exclusive_of_none (none ended ?_) separate
      intro connection mine still
      exact polite ⟨listening, quit, exclusive.flagged connection still⟩

/-- Mutual exclusion of the tests, for any number of connections and any
interleaving of their lines, as long as no session that has not said HELLO says
QUIT while a test is running. -/
theorem exclusive_of_noStrayQuit (options : Options) (client : options.target = false)
    (pids : Nat → Nat → Nat) (positive : ∀ connection process, 0 < pids connection process)
    (arrivals : List Arrival)
    (noAbort : ∀ arrival ∈ arrivals, arrival.input.lineIn ≠ some "ABORT".toList)
    (polite : (system options pids).Along (fun state _ arrival => ¬ StrayQuit state arrival)
      SystemState.idle [] arrivals) :
    Exclusive ((system options pids).run SystemState.idle arrivals).1 := by
  have along : (system options pids).Along
      (fun state _ arrival => arrival.input.lineIn ≠ some "ABORT".toList ∧
        ¬ StrayQuit state arrival) SystemState.idle [] arrivals :=
    Machine.Along.and_of_forall noAbort polite
  exact (system options pids).run_state_invariant Exclusive
    (fun _ _ _ exclusive condition =>
      exclusive_step client positive exclusive condition.1 condition.2) exclusive_idle along

/-- One test runs to its end, a second HELLO is refused and a third accepted. -/
theorem exclusive_of_noStrayQuit_twoTests :
    let arrivals : List Arrival :=
      [⟨0, textInput "HELLO"⟩, ⟨1, textInput "HELLO"⟩, ⟨0, textInput "QUIT"⟩,
        ⟨2, textInput "HELLO"⟩]
    let reached := ((system clientOptions fun connection _ => connection + 1).run
      SystemState.idle arrivals).1
    Exclusive reached ∧ (reached.sessions 2).Active ∧ (reached.sessions 1).reader = .finished :=
  ⟨exclusive_of_noStrayQuit clientOptions rfl (fun connection _ => connection + 1)
    (fun connection _ => Nat.succ_pos connection) _ (by decide) (by decide), by decide, by decide⟩

/-- While connection zero runs a test, connection one says QUIT without ever
having said HELLO, and connection two is then admitted as well. -/
theorem strayQuit_releases_other :
    let arrivals : List Arrival :=
      [⟨0, textInput "HELLO"⟩, ⟨1, textInput "QUIT"⟩, ⟨2, textInput "HELLO"⟩]
    let reached := ((system clientOptions fun connection _ => connection + 1).run
      SystemState.idle arrivals).1
    (reached.sessions 0).Active ∧ (reached.sessions 2).Active := by
  decide

end Daemon
end Ipbench
