import Ipbench.Daemon.Steps

namespace Ipbench
namespace Daemon

open Foundation

/-!
# The end of a session

A client sends finitely many lines and the stream then ends, at any point.
The session is expected to end as well and to give the flag back.  It does so
through ERROR and MARSHALL.  An exception raised while the flag is held ends
the process without clearing the flag, and a session that meets the end of
the stream reads empty lines for as long as it can answer them.
-/

/-- A single connection and the flag. -/
structure ConnectionState where
  status : Nat
  session : Session

/-- The handler of one connection, run by the process `pid`. -/
def connection (options : Options) (pid : Nat) :
    Machine ConnectionState SessionInput SessionEvent where
  step := fun state input =>
    let handled := state.session.step options (fun _ => pid) state.status input
    ({ status := statusAfter state.status handled.2, session := handled.1 }, handled.2)

/-- The state after `count` reads, on a new connection. -/
def reached (options : Options) (pid status : Nat) (reads : Nat → SessionInput) (count : Nat) :
    ConnectionState :=
  (connection options pid).after { status := status, session := Session.start } reads count

/-- The client's lines end at some point and the stream stays at its end. -/
structure EndsAtEof (reads : Nat → SessionInput) : Prop where
  ends : ∃ count, (reads count).received = .eof
  stays : ∀ count, (reads count).received = .eof → (reads (count + 1)).received = .eof

/-- The handler terminates and the flag does not hold its process identifier. -/
def LockReleased (options : Options) (pid status : Nat) (reads : Nat → SessionInput) : Prop :=
  ∃ count, (reached options pid status reads count).session.reader.Ended ∧
    (reached options pid status reads count).status ≠ pid

/-- The flag holds the session's identifier exactly while it is active, except
that a session that raised an exception may have left it set. -/
structure Flagged (pid : Nat) (state : ConnectionState) : Prop where
  separate : state.session.Single
  idle : state.session.reader = .reading .listen → state.status ≠ pid
  active : state.session.Active → state.status = pid

/-- The session has ended and the flag holds its identifier, or it has met the
end of the stream while active. -/
def Lost (pid : Nat) (received : Received) (state : ConnectionState) : Prop :=
  (state.session.reader.Ended ∧ state.status = pid) ∨
    (state.session.Active ∧ state.status = pid ∧ received = .eof)

variable {options : Options} {pid : Nat} {state : ConnectionState} {input : SessionInput}

/-! ## One read -/

theorem connection_listening (options : Options) (pid : Nat)
    (listening : state.session.reader = .reading .listen)
    (noAbort : input.lineIn ≠ some "ABORT".toList) :
    ListenStep pid input state.status
      (((connection options pid).step state input).1.session.reader,
        ((connection options pid).step state input).2) := by
  have step := handle_listen options (fun _ => pid) state.status state.session.testers noAbort
  change ListenStep pid input state.status
    ((state.session.step options (fun _ => pid) state.status input).1.reader,
      (state.session.step options (fun _ => pid) state.status input).2)
  rw [Session.step_reading options (fun _ => pid) state.status listening input step.plain]
  exact step

theorem connection_active (pid : Nat) (client : options.target = false) {phase : Phase}
    (reading : state.session.reader = .reading phase) (holds : phase.Holds)
    (noAbort : input.lineIn ≠ some "ABORT".toList) :
    HeldStep options phase input state.status
      (((connection options pid).step state input).1.session.reader,
        ((connection options pid).step state input).2) := by
  have step := handle_held client (fun _ => pid) state.status state.session.testers holds noAbort
  change HeldStep options phase input state.status
    ((state.session.step options (fun _ => pid) state.status input).1.reader,
      (state.session.step options (fun _ => pid) state.status input).2)
  rw [Session.step_reading options (fun _ => pid) state.status reading input step.plain]
  exact step

theorem connection_ended (ended : state.session.reader.Ended) :
    ((connection options pid).step state input).1 = state := by
  change ConnectionState.mk _ _ = state
  rw [Session.step_ended options (fun _ => pid) state.status ended]
  rfl

theorem connection_status (options : Options) (pid : Nat) (state : ConnectionState)
    (input : SessionInput) :
    ((connection options pid).step state input).1.status =
      statusAfter state.status ((connection options pid).step state input).2 := rfl

theorem flagged_of_ended {state : ConnectionState} (ended : state.session.reader.Ended) :
    Flagged pid state where
  separate := Or.inr (Or.inr ended)
  idle := by
    intro listening
    rw [listening] at ended
    exact False.elim ended
  active := fun active => False.elim (not_active_of_ended ended active)

theorem flagged_of_listening {state : ConnectionState}
    (listening : state.session.reader = .reading .listen) (free : state.status ≠ pid) :
    Flagged pid state where
  separate := Or.inl listening
  idle := fun _ => free
  active := fun active => False.elim (not_active_of_listening listening active)

theorem flagged_of_active {state : ConnectionState} (active : state.session.Active)
    (own : state.status = pid) : Flagged pid state where
  separate := Or.inr (Or.inl active)
  idle := fun listening => False.elim (not_active_of_listening listening active)
  active := fun _ => own

/-- Every read keeps the flag in step with the session. -/
theorem flagged_step (client : options.target = false)
    (noAbort : input.lineIn ≠ some "ABORT".toList) (flagged : Flagged pid state) :
    Flagged pid ((connection options pid).step state input).1 := by
  have status := connection_status options pid state input
  rcases flagged.separate with listening | active | ended
  · have step := connection_listening options pid listening noAbort
    generalize (connection options pid).step state input = result at step status ⊢
    cases step with
    | stays _ reader kept =>
        exact flagged_of_listening reader (status.trans kept ▸ flagged.idle listening)
    | acquires _ _ reader taken =>
        exact flagged_of_active (Session.active_of_reading reader trivial) (status.trans taken)
    | ends ended _ => exact flagged_of_ended ended
    | quits _ ended _ => exact flagged_of_ended ended
  · rcases active.exists_phase with ⟨phase, reading, holds⟩
    have step := connection_active pid client reading holds noAbort
    have own := flagged.active active
    generalize (connection options pid).step state input = result at step status ⊢
    cases step with
    | reads _ next nextHolds reader kept =>
        exact flagged_of_active (Session.active_of_reading reader nextHolds)
          ((status.trans kept).trans own)
    | ends _ ended _ => exact flagged_of_ended ended
    | spins _ reader kept =>
        exact flagged_of_active (Session.active_of_reading reader holds)
          ((status.trans kept).trans own)
    | raises _ raised _ => exact flagged_of_ended (Outcome.ended_raised raised)
  · rw [connection_ended ended]
    exact flagged

theorem lost_step (client : options.target = false)
    (noAbort : input.lineIn ≠ some "ABORT".toList) {next : Received}
    (stays : input.received = .eof → next = .eof) (lost : Lost pid input.received state) :
    Lost pid next ((connection options pid).step state input).1 := by
  have status := connection_status options pid state input
  rcases lost with ⟨ended, own⟩ | ⟨active, own, eof⟩
  · rw [connection_ended ended]
    exact Or.inl ⟨ended, own⟩
  · rcases active.exists_phase with ⟨phase, reading, holds⟩
    have step := connection_active pid client reading holds noAbort
    have unread : ¬ ReadOk options phase input := by
      rintro ⟨raw, line, _⟩
      rw [eof] at line
      cases line
    generalize (connection options pid).step state input = result at step status ⊢
    cases step with
    | reads fine next nextHolds reader kept => exact False.elim (unread fine)
    | ends fine ended _ => exact False.elim (unread fine)
    | spins _ reader kept =>
        exact Or.inr ⟨Session.active_of_reading reader holds, (status.trans kept).trans own,
          stays eof⟩
    | raises _ raised kept =>
        exact Or.inl ⟨Outcome.ended_raised raised, (status.trans kept).trans own⟩

/-- An active session that reads what it cannot digest is lost. -/
theorem lost_of_bad (client : options.target = false)
    (noAbort : input.lineIn ≠ some "ABORT".toList) (flagged : Flagged pid state) {phase : Phase}
    (reading : state.session.reader = .reading phase) (holds : phase.Holds)
    (bad : ¬ ReadOk options phase input) {next : Received}
    (stays : input.received = .eof → next = .eof) :
    Lost pid next ((connection options pid).step state input).1 := by
  have status := connection_status options pid state input
  have own := flagged.active (Session.active_of_reading reading holds)
  have step := connection_active pid client reading holds noAbort
  generalize (connection options pid).step state input = result at step status ⊢
  cases step with
  | reads fine next nextHolds reader kept => exact False.elim (bad fine)
  | ends fine ended _ => exact False.elim (bad fine)
  | spins eof reader kept =>
      exact Or.inr ⟨Session.active_of_reading reader holds, (status.trans kept).trans own,
        stays eof⟩
  | raises _ raised kept =>
      exact Or.inl ⟨Outcome.ended_raised raised, (status.trans kept).trans own⟩

/-! ## Whole sessions -/

section Runs

variable {status : Nat} {reads : Nat → SessionInput}

theorem reached_flagged (client : options.target = false) (other : status ≠ pid)
    (noAbort : ∀ count, (reads count).lineIn ≠ some "ABORT".toList) (count : Nat) :
    Flagged pid (reached options pid status reads count) := by
  refine (connection options pid).after_invariant (fun _ state => Flagged pid state) ?_ ?_ count
    (Nat.zero_le count)
  · exact flagged_of_listening rfl other
  · exact fun count _ flagged => flagged_step client (noAbort count) flagged

theorem reached_of_ended {first count : Nat} (later : first ≤ count)
    (ended : (reached options pid status reads first).session.reader.Ended) :
    reached options pid status reads count = reached options pid status reads first :=
  (connection options pid).after_invariant
    (fun _ state => state = reached options pid status reads first) rfl
    (fun _ _ same => by
      rw [same]
      exact connection_ended ended) count later

theorem not_released_of_lost (client : options.target = false)
    (noAbort : ∀ count, (reads count).lineIn ≠ some "ABORT".toList) (eof : EndsAtEof reads)
    {first count : Nat} (later : first ≤ count)
    (lost : Lost pid (reads first).received (reached options pid status reads first))
    (ended : (reached options pid status reads count).session.reader.Ended) :
    (reached options pid status reads count).status = pid := by
  have still : Lost pid (reads count).received (reached options pid status reads count) :=
    (connection options pid).after_invariant
      (fun count state => Lost pid (reads count).received state) lost
      (fun count _ lost => lost_step client (noAbort count) (eof.stays count) lost) count later
  rcases still with ⟨_, own⟩ | ⟨active, _, _⟩
  · exact own
  · exact False.elim (not_active_of_ended ended active)

theorem eof_stays (eof : EndsAtEof reads) {first count : Nat} (later : first ≤ count)
    (ended : (reads first).received = .eof) : (reads count).received = .eof := by
  induction count, later using Nat.le_induction with
  | base => exact ended
  | succ count later inductionHypothesis => exact eof.stays count inductionHypothesis

/-- A listening session answers the end of the stream for as long as it can. -/
theorem connection_eof {state : ConnectionState} {input : SessionInput}
    (listening : state.session.reader = .reading .listen) (eof : input.received = .eof) :
    (input.writable = true ∧
        ((connection options pid).step state input).1.session.reader = .reading .listen) ∨
      (input.writable = false ∧
        ((connection options pid).step state input).1.session.reader.Ended) ∧
        ((connection options pid).step state input).1.status = state.status := by
  rcases handle_empty options (fun _ => pid) state.status state.session.testers
    (show Phase.listen ≠ .child by decide) eof with ⟨texts, same⟩
  have cases := answer_cases input texts (.reading .listen, []) state.status
  change (_ ∧ (state.session.step options (fun _ => pid) state.status input).1.reader = _) ∨
    (_ ∧ (state.session.step options (fun _ => pid) state.status input).1.reader.Ended) ∧
      statusAfter state.status
        (state.session.step options (fun _ => pid) state.status input).2 = state.status
  rw [← same] at cases
  rcases cases with ⟨written, reader, _⟩ | ⟨failed, raised, kept⟩
  · rw [Session.step_reading options (fun _ => pid) state.status listening input
      (Outcome.plain_reading reader)]
    exact Or.inl ⟨written, reader⟩
  · have ended := Outcome.ended_raised raised
    rw [Session.step_reading options (fun _ => pid) state.status listening input ended.plain]
    exact Or.inr ⟨⟨failed, ended⟩, kept⟩

/-- Nothing that is read while the flag is held ends the session past the
handlers that release it. -/
def HeldReadsOk (options : Options) (pid status : Nat) (reads : Nat → SessionInput) : Prop :=
  ∀ count phase, (reached options pid status reads count).session.reader = .reading phase →
    phase.Holds → ReadOk options phase (reads count)

/-- A session that still listens at the end of the stream is refused a write at
some later point. -/
def ListenerRefused (options : Options) (pid status : Nat) (reads : Nat → SessionInput) : Prop :=
  ∀ count, (reached options pid status reads count).session.reader = .reading .listen →
    (reads count).received = .eof → ∃ later, count ≤ later ∧ (reads later).writable = false

theorem heldReadsOk_of_released (client : options.target = false) (other : status ≠ pid)
    (noAbort : ∀ count, (reads count).lineIn ≠ some "ABORT".toList) (eof : EndsAtEof reads)
    (released : LockReleased options pid status reads) :
    HeldReadsOk options pid status reads := by
  intro count phase reading holds
  rcases released with ⟨last, ended, free⟩
  by_contra bad
  have lost : Lost pid (reads (count + 1)).received
      (reached options pid status reads (count + 1)) := by
    rw [reached, Machine.after_succ]
    exact lost_of_bad client (noAbort count) (reached_flagged client other noAbort count)
      reading holds bad (eof.stays count)
  rcases Nat.lt_or_ge count last with later | earlier
  · exact free (not_released_of_lost client noAbort eof later lost ended)
  · rw [reached_of_ended earlier ended] at reading
    rw [reading] at ended
    exact ended

theorem listenerRefused_of_released (eof : EndsAtEof reads)
    (released : LockReleased options pid status reads) :
    ListenerRefused options pid status reads := by
  intro count listening atEof
  rcases released with ⟨last, ended, _⟩
  by_contra accepted
  have written : ∀ later, count ≤ later → (reads later).writable = true := by
    intro later ordered
    by_contra refused
    exact accepted ⟨later, ordered, Bool.eq_false_iff.mpr refused⟩
  rcases Nat.lt_or_ge last count with earlier | later
  · rw [reached_of_ended (Nat.le_of_lt earlier) ended] at listening
    rw [listening] at ended
    exact ended
  · have still := (connection options pid).after_invariant
      (fun _ state => state.session.reader = .reading .listen) listening
      (fun later ordered listening => by
        rcases connection_eof listening (eof_stays eof ordered atEof) with
          ⟨_, reader⟩ | ⟨⟨refused, _⟩, _⟩
        · exact reader
        · rw [written later ordered] at refused
          cases refused) last later
    change (reached options pid status reads last).session.reader = .reading .listen at still
    rw [still] at ended
    exact ended

/-- One digestible read never ends a session with the flag in its name. -/
theorem free_step (client : options.target = false) (positive : 0 < pid)
    (noAbort : input.lineIn ≠ some "ABORT".toList) (flagged : Flagged pid state)
    (fine : ∀ phase, state.session.reader = .reading phase → phase.Holds →
      ReadOk options phase input)
    (free : state.session.reader.Ended → state.status ≠ pid)
    (ended : ((connection options pid).step state input).1.session.reader.Ended) :
    ((connection options pid).step state input).1.status ≠ pid := by
  have status := connection_status options pid state input
  rcases flagged.separate with listening | active | finished
  · have step := connection_listening options pid listening noAbort
    generalize (connection options pid).step state input = result at step status ended ⊢
    cases step with
    | stays _ reader _ =>
        exact False.elim (Outcome.not_ended_of_reading reader ended)
    | acquires _ _ reader _ =>
        exact False.elim (Outcome.not_ended_of_reading reader ended)
    | ends _ kept =>
        rw [status.trans kept]
        exact flagged.idle listening
    | quits _ _ cleared =>
        rw [status.trans cleared]
        exact Nat.ne_of_lt positive
  · rcases active.exists_phase with ⟨phase, reading, holds⟩
    have step := connection_active pid client reading holds noAbort
    have digestible := fine phase reading holds
    generalize (connection options pid).step state input = result at step status ended ⊢
    cases step with
    | reads _ next _ reader _ =>
        exact False.elim (Outcome.not_ended_of_reading reader ended)
    | ends _ _ cleared =>
        rw [status.trans cleared]
        exact Nat.ne_of_lt positive
    | spins _ reader _ =>
        exact False.elim (Outcome.not_ended_of_reading reader ended)
    | raises bad _ _ => exact False.elim (bad digestible)
  · rw [connection_ended finished]
    exact free finished

/-- While every read of an active session is digestible, no session ends with
the flag in its name. -/
theorem reached_free (client : options.target = false) (positive : 0 < pid)
    (other : status ≠ pid) (noAbort : ∀ count, (reads count).lineIn ≠ some "ABORT".toList)
    (fine : HeldReadsOk options pid status reads) (count : Nat) :
    (reached options pid status reads count).session.reader.Ended →
      (reached options pid status reads count).status ≠ pid := by
  refine (connection options pid).after_invariant
    (fun _ state => state.session.reader.Ended → state.status ≠ pid) ?_ ?_ count
    (Nat.zero_le count)
  · intro ended
    exact False.elim ended
  · intro count _ free
    exact free_step client positive (noAbort count) (reached_flagged client other noAbort count)
      (fine count) free

theorem released_of_conditions (client : options.target = false) (positive : 0 < pid)
    (other : status ≠ pid) (noAbort : ∀ count, (reads count).lineIn ≠ some "ABORT".toList)
    (eof : EndsAtEof reads) (fine : HeldReadsOk options pid status reads)
    (refused : ListenerRefused options pid status reads) :
    LockReleased options pid status reads := by
  have free := reached_free client positive other noAbort fine
  rcases eof.ends with ⟨count, atEof⟩
  rcases (reached_flagged client other noAbort count).separate with listening | active | ended
  · rcases refused count listening atEof with ⟨later, ordered, failed⟩
    have waiting := (connection options pid).after_invariant
      (fun _ state => state.session.reader = .reading .listen ∨ state.session.reader.Ended)
      (Or.inl listening)
      (fun next ordered waiting => by
        rcases waiting with listening | ended
        · rcases connection_eof listening (eof_stays eof ordered atEof) with
            ⟨_, reader⟩ | ⟨⟨_, ended⟩, _⟩
          · exact Or.inl reader
          · exact Or.inr ended
        · rw [connection_ended ended]
          exact Or.inr ended) later ordered
    rcases waiting with listening | ended
    · rcases connection_eof listening (eof_stays eof ordered atEof) with
        ⟨written, _⟩ | ⟨⟨_, ended⟩, _⟩
      · rw [failed] at written
        cases written
      · have finished : (reached options pid status reads (later + 1)).session.reader.Ended := by
          rw [reached, Machine.after_succ]
          exact ended
        exact ⟨later + 1, finished, free (later + 1) finished⟩
    · exact ⟨later, ended, free later ended⟩
  · rcases active.exists_phase with ⟨phase, reading, holds⟩
    rcases fine count phase reading holds with ⟨raw, line, _⟩
    rw [atEof] at line
    cases line
  · exact ⟨count, ended, free count ended⟩

end Runs

/-- The handler ends and gives the flag back exactly when everything read
while the session holds the flag is a line that its phase can digest, and a
session that never got beyond listening is refused a write after the end of
the stream. -/
theorem lockReleased_iff (options : Options) (client : options.target = false) (pid : Nat)
    (positive : 0 < pid) (status : Nat) (other : status ≠ pid) (reads : Nat → SessionInput)
    (noAbort : ∀ count, (reads count).lineIn ≠ some "ABORT".toList) (eof : EndsAtEof reads) :
    LockReleased options pid status reads ↔
      HeldReadsOk options pid status reads ∧ ListenerRefused options pid status reads := by
  constructor
  · intro released
    exact ⟨heldReadsOk_of_released client other noAbort eof released,
      listenerRefused_of_released eof released⟩
  · rintro ⟨fine, refused⟩
    exact released_of_conditions client positive other noAbort eof fine refused

theorem endsAtEof_lines (lines : List String) : EndsAtEof (linesThenEof lines) where
  ends := by
    refine ⟨lines.length, ?_⟩
    rw [linesThenEof, List.getElem?_eq_none (Nat.le_refl _)]
    rfl
  stays := by
    intro count eof
    have past : lines.length ≤ count := by
      by_contra inside
      rw [linesThenEof, List.getElem?_eq_getElem (Nat.lt_of_not_le inside)] at eof
      cases eof
    rw [linesThenEof, List.getElem?_eq_none (Nat.le_succ_of_le past)]
    rfl

theorem lines_noAbort {lines : List String}
    (each : ∀ line ∈ lines, (textInput line).lineIn ≠ some "ABORT".toList) (count : Nat) :
    (linesThenEof lines count).lineIn ≠ some "ABORT".toList := by
  unfold linesThenEof
  cases found : lines[count]? with
  | none =>
      intro abort
      cases abort
  | some line => exact each line (List.mem_of_getElem? found)

/-- A session that says HELLO and QUIT gives the flag back, so both conditions
of the theorem hold of it. -/
theorem lockReleased_iff_quit :
    LockReleased clientOptions 7 0 (linesThenEof ["HELLO", "QUIT"]) ∧
      HeldReadsOk clientOptions 7 0 (linesThenEof ["HELLO", "QUIT"]) := by
  have released : LockReleased clientOptions 7 0 (linesThenEof ["HELLO", "QUIT"]) :=
    ⟨2, by decide, by decide⟩
  exact ⟨released, ((lockReleased_iff clientOptions rfl 7 (by decide) 0 (by decide) _
    (lines_noAbort (by decide)) (endsAtEof_lines _)).mp released).1⟩

/-- The option without a value cannot be unpacked.  The handler ends and the
flag still holds its identifier. -/
theorem malformedSetup_keepsLock :
    (reached clientOptions 7 0 (linesThenEof ["HELLO", "LOAD dummy", "SETUP target"]) 2).status =
        7 ∧
      EndsAtEof (linesThenEof ["HELLO", "LOAD dummy", "SETUP target"]) ∧
      ¬ LockReleased clientOptions 7 0 (linesThenEof ["HELLO", "LOAD dummy", "SETUP target"]) := by
  refine ⟨by decide, endsAtEof_lines _, ?_⟩
  rintro ⟨count, ended, free⟩
  have raised : (reached clientOptions 7 0
      (linesThenEof ["HELLO", "LOAD dummy", "SETUP target"]) 3).session.reader.Ended := by decide
  have own : (reached clientOptions 7 0
      (linesThenEof ["HELLO", "LOAD dummy", "SETUP target"]) 3).status = 7 := by decide
  rcases Nat.lt_or_ge count 3 with early | late
  · have open_ : ∀ count < 3, ¬ (reached clientOptions 7 0
        (linesThenEof ["HELLO", "LOAD dummy", "SETUP target"]) count).session.reader.Ended := by
      decide
    exact open_ count early ended
  · rw [reached_of_ended late raised] at free
    exact free own

end Daemon
end Ipbench
