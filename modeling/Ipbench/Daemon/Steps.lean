import Ipbench.Daemon.Session

namespace Ipbench
namespace Daemon

open Foundation

/-!
# What one line can do to a client session

The lemmas of this module say once what handling a line can do to the reader
and to `TestStatus`, so that the invariants of the daemon need not look at the
handlers again.  A listening session either stays, acquires the flag with its
HELLO, or ends.  A session that holds the flag keeps it and reads on, or ends.

Whether a session that holds the flag gives it back depends on the line:
`ReadOk` is the condition on what is read, written in terms of the parsing
functions of the handlers.
-/

/-- The session reads no further lines and waits for no process. -/
def Outcome.Ended : Outcome → Prop
  | .finished | .raised | .killed | .exited => True
  | .reading _ | .forked | .stopped => False

instance (outcome : Outcome) : Decidable outcome.Ended := by
  cases outcome <;> (unfold Outcome.Ended; infer_instance)

/-- The phases of a session whose HELLO was accepted.  The child of target mode
is not one of them: it reads for a session that is running. -/
def Phase.Holds : Phase → Prop
  | .setup | .loaded | .run => True
  | .listen | .child => False

instance (phase : Phase) : Decidable phase.Holds := by
  cases phase <;> (unfold Phase.Holds; infer_instance)

/-- The stripped line that the handlers see. -/
def SessionInput.lineIn (input : SessionInput) : Option Text :=
  input.readline.map strip

/-- HELP and STATUS are answered in every phase. -/
def CommonOpt (line : Text) : Prop :=
  matchNonspace line = "HELP".toList ∨ matchNonspace line = "STATUS".toList

instance (line : Text) : Decidable (CommonOpt line) :=
  inferInstanceAs (Decidable (_ ∨ _))

/-- What becomes of a call of the shunt raises nothing that the handler does not
catch: a failure has a readable text, and a success can be answered. -/
def Caught (input : SessionInput) (succeeds : Prop) : Option ShuntError → Prop
  | none => succeeds ∧ input.writable = true
  | some failure => failure.Readable

/-- What a line must satisfy in each phase so that its handling raises no
exception while the flag is held.  Where the line leads to ERROR the flag is
cleared first, so nothing is asked of the connection there. -/
def LineOk (options : Options) (phase : Phase) (input : SessionInput) (line : Text) : Prop :=
  if CommonOpt line then input.writable = true
  else if line = "QUIT".toList then True
  else
    match phase with
    | .setup =>
        match options.tables.matchCommand (loadArgument options.tables) line with
        | none => input.writable = true
        | some (cmd, _) =>
            if cmd = "LOAD".toList then Caught input True input.plugin.load
            else input.writable = true
    | .loaded =>
        match options.tables.matchCommand (fun char => char != '\n') line with
        | none => input.writable = true
        | some (cmd, arglist) =>
            match parseOptions options.tables arglist with
            | none => False
            | some bound =>
                if cmd = "SETUP".toList then
                  setupArgs options bound ≠ none ∧
                    Caught input True (shuntSetup options input.plugin)
                else input.writable = true
    | .run =>
        if options.tables.matchWord line = some "START".toList then
          Caught input (input.plugin.data ≠ none) (shuntStart input.plugin)
        else input.writable = true
    | .listen | .child => True

/-- A complete, decodable line that its phase can digest. -/
def ReadOk (options : Options) (phase : Phase) (input : SessionInput) : Prop :=
  ∃ raw, input.received = .line raw ∧ LineOk options phase input (strip raw)

/-! ## Events that leave the flag alone -/

theorem statusAfter_append (status : Nat) (first second : List SessionEvent) :
    statusAfter status (first ++ second) = statusAfter (statusAfter status first) second :=
  List.foldl_append

@[simp] theorem statusAfter_nil (status : Nat) : statusAfter status [] = status := rfl

@[simp] theorem statusAfter_sent (status : Nat) (texts : List Text)
    (rest : List SessionEvent) :
    statusAfter status (texts.map SessionEvent.sent ++ rest) = statusAfter status rest := by
  induction texts with
  | nil => rfl
  | cons text texts inductionHypothesis => exact inductionHypothesis

/-- Answering either goes on or raises, and touches the flag only by going on. -/
theorem answer_cases (input : SessionInput) (texts : List Text)
    (next : Outcome × List SessionEvent) (status : Nat) :
    (input.writable = true ∧ (answer input texts next).1 = next.1 ∧
        statusAfter status (answer input texts next).2 = statusAfter status next.2) ∨
      (input.writable = false ∧ (answer input texts next).1 = .raised ∧
        statusAfter status (answer input texts next).2 = status) := by
  unfold answer
  cases written : input.writable with
  | true => exact Or.inl ⟨rfl, rfl, statusAfter_sent status texts next.2⟩
  | false => exact Or.inr ⟨rfl, rfl, rfl⟩

/-- ERROR ends the session, and clears the flag unless another test is running. -/
theorem error_spec (input : SessionInput) (errCode : StatusCode) (msg : Text) (status : Nat) :
    (error input errCode msg).1.Ended ∧
      statusAfter status (error input errCode msg).2 =
        if errCode = .unavailable then status else 0 := by
  unfold error after
  dsimp only
  rw [statusAfter_append]
  rcases answer_cases input [strStatus errCode [msg]] (.finished, [])
      (statusAfter status (if errCode = .unavailable then [] else [.notRunning])) with
    ⟨_, outcome, same⟩ | ⟨_, outcome, same⟩
  · rw [outcome, same]
    refine ⟨trivial, ?_⟩
    split
    · rfl
    · rfl
  · rw [outcome, same]
    refine ⟨trivial, ?_⟩
    split
    · rfl
    · rfl

/-- What a failure of the shunt does: ERROR, or an exception that nobody catches. -/
inductive FailedStep (input : SessionInput) (cleanup : List SessionEvent) (failure : ShuntError)
    (result : Outcome × List SessionEvent) : Prop where
  | reported (fine : failure.Readable) (msg : Text)
      (same : result = after cleanup (error input .localError msg))
  | passes (bad : ¬ failure.Readable) (same : result = (.raised, []))

theorem failed_cases (input : SessionInput) (cleanup : List SessionEvent)
    (failure : ShuntError) :
    FailedStep input cleanup failure (failed input cleanup failure) := by
  cases failure with
  | runtime detail => exact .reported trivial _ rfl
  | undecodable => exact .passes id rfl

theorem failed_ended (input : SessionInput) (cleanup : List SessionEvent)
    (failure : ShuntError) : (failed input cleanup failure).1.Ended := by
  cases failed_cases input cleanup failure with
  | reported _ msg same =>
      rw [same]
      exact (error_spec input .localError msg 0).1
  | passes _ same =>
      rw [same]
      trivial

/-! ## Events that a handler does not emit -/

def Free (kind : SessionEvent → Prop) (events : List SessionEvent) : Prop :=
  ∀ event ∈ events, ¬ kind event

/-- A kind of events that answers, ERROR and ABORT never emit. -/
structure Unrelated (kind : SessionEvent → Prop) : Prop where
  sent : ∀ text, ¬ kind (.sent text)
  notRunning : ¬ kind .notRunning
  killed : ∀ pid signal, ¬ kind (.killed pid signal)
  ownerCleared : ¬ kind .ownerCleared

section Kinds

variable {kind : SessionEvent → Prop}

theorem free_nil : Free kind [] := by
  intro event member
  cases member

theorem free_cons {event : SessionEvent} {rest : List SessionEvent} (other : ¬ kind event)
    (free : Free kind rest) : Free kind (event :: rest) := by
  intro later member
  rcases List.mem_cons.mp member with same | old
  · exact same ▸ other
  · exact free later old

theorem Free.append {first second : List SessionEvent} (earlier : Free kind first)
    (later : Free kind second) : Free kind (first ++ second) := by
  intro event member
  rcases List.mem_append.mp member with old | new
  · exact earlier event old
  · exact later event new

theorem free_sent (unrelated : Unrelated kind) (texts : List Text) :
    Free kind (texts.map SessionEvent.sent) := by
  intro event member
  rcases List.mem_map.mp member with ⟨text, _, same⟩
  exact same ▸ unrelated.sent text

theorem free_answer (unrelated : Unrelated kind) {input : SessionInput} {texts : List Text}
    {next : Outcome × List SessionEvent} (free : Free kind next.2) :
    Free kind (answer input texts next).2 := by
  unfold answer
  cases input.writable with
  | true => exact (free_sent unrelated texts).append free
  | false => exact free_nil

theorem free_error (unrelated : Unrelated kind) (input : SessionInput) (errCode : StatusCode)
    (msg : Text) : Free kind (error input errCode msg).2 := by
  unfold error after
  refine Free.append ?_ (free_answer unrelated free_nil)
  split
  · exact free_nil
  · exact free_cons unrelated.notRunning free_nil

theorem free_failed (unrelated : Unrelated kind) (input : SessionInput)
    {cleanup : List SessionEvent} (free : Free kind cleanup) (failure : ShuntError) :
    Free kind (failed input cleanup failure).2 := by
  cases failure with
  | runtime detail => exact free.append (free_error unrelated input _ _)
  | undecodable => exact free_nil

theorem free_abort (unrelated : Unrelated kind) (status pid : Nat) (kills : KillResults) :
    Free kind (abort status pid kills).2 := by
  unfold abort after
  split
  · exact free_nil
  · split
    · exact free_cons (unrelated.killed _ _) (free_cons unrelated.notRunning free_nil)
    · refine Free.append (free_cons (unrelated.killed _ _) ?_) ?_
      · split
        · exact free_cons (unrelated.killed _ _) free_nil
        · exact free_nil
      · split
        · exact free_nil
        · dsimp only
          split
          · exact free_cons unrelated.ownerCleared free_nil
          · exact free_nil

/-- MARSHALL calls the plugin first, and then only answers and clears the flag. -/
theorem marshall_events (unrelated : Unrelated kind) (sentData : ∀ data, ¬ kind (.sentData data))
    (input : SessionInput) (process : Nat) :
    ∃ rest, (marshall input process).2 = .marshall process :: rest ∧ Free kind rest := by
  refine ⟨_, rfl, ?_⟩
  split
  · exact free_nil
  · exact free_answer unrelated
      (free_cons (sentData _) (free_cons unrelated.notRunning free_nil))

theorem free_marshall (unrelated : Unrelated kind) (sentData : ∀ data, ¬ kind (.sentData data))
    (input : SessionInput) {process : Nat} (marshalling : ¬ kind (.marshall process)) :
    Free kind (marshall input process).2 := by
  rcases marshall_events unrelated sentData input process with ⟨rest, events, free⟩
  exact events ▸ free_cons marshalling free

end Kinds

/-! ## Reading a line -/

/-- The handler of a phase for the lines that are not answered in place. -/
def dispatch (options : Options) (pids : Nat → Nat) (status process : Nat) (phase : Phase)
    (input : SessionInput) (line : Text) : Outcome × List SessionEvent :=
  match phase with
  | .listen => listen status (pids process) input line
  | .setup => setup options status (pids process) input line
  | .loaded => loaded options status (pids process) input line
  | .run => run options status (pids process) process input line
  | .child => child options (pids (process - 1)) process input line

/-- What becomes of a read in any phase. -/
inductive ReadStep (options : Options) (pids : Nat → Nat) (status process : Nat) (phase : Phase)
    (input : SessionInput) (result : Outcome × List SessionEvent) : Prop where
  | undecodable (unread : input.lineIn = none) (raised : result = (.raised, []))
  | common (line : Text) (read : input.lineIn = some line) (common : CommonOpt line)
      (texts : List Text) (answered : result = answer input texts (.reading phase, []))
  | passes (line : Text) (read : input.lineIn = some line) (other : ¬ CommonOpt line)
      (handled : result = dispatch options pids status process phase input line)

theorem handle_read (options : Options) (pids : Nat → Nat) (status process : Nat) (phase : Phase)
    (input : SessionInput) :
    ReadStep options pids status process phase input
      (handle options pids status process phase input) := by
  have handled : handle options pids status process phase input =
    parseCommonOpts options status phase input
      (dispatch options pids status process phase input) := rfl
  rw [handled, parseCommonOpts]
  cases read : input.readline with
  | none =>
      refine .undecodable ?_ rfl
      rw [SessionInput.lineIn, read, Option.map_none]
  | some raw =>
      have line : input.lineIn = some (strip raw) := by
        rw [SessionInput.lineIn, read, Option.map_some]
      dsimp only
      by_cases help : matchNonspace (strip raw) = "HELP".toList
      · rw [if_pos help]
        exact .common _ line (Or.inl help) _ rfl
      · rw [if_neg help]
        by_cases state : matchNonspace (strip raw) = "STATUS".toList
        · rw [if_pos state]
          exact .common _ line (Or.inr state) _ rfl
        · rw [if_neg state]
          exact .passes _ line (fun common => common.elim help state) rfl

/-- A line that is not common reaches the handler of its phase. -/
theorem handle_line (options : Options) (pids : Nat → Nat) (status process : Nat)
    (phase : Phase) {input : SessionInput} {line : Text} (read : input.lineIn = some line)
    (other : ¬ CommonOpt line) :
    handle options pids status process phase input =
      dispatch options pids status process phase input line := by
  cases handle_read options pids status process phase input with
  | undecodable unread _ =>
      rw [read] at unread
      cases unread
  | common same again common _ _ =>
      rw [read] at again
      cases again
      exact False.elim (other common)
  | passes same again _ handled =>
      rw [read] at again
      cases again
      exact handled

/-! ## Sessions that hold the flag -/

/-- What handling one line does to a session that holds the flag, where `ok`
is what the line must satisfy. -/
inductive LineStep (ok : Prop) (status : Nat) (result : Outcome × List SessionEvent) : Prop where
  | reads (fine : ok) (next : Phase) (holds : next.Holds) (reader : result.1 = .reading next)
      (kept : statusAfter status result.2 = status)
  | ends (fine : ok) (ended : result.1.Ended) (cleared : statusAfter status result.2 = 0)
  | raises (bad : ¬ ok) (raised : result.1 = .raised)
      (kept : statusAfter status result.2 = status)

theorem LineStep.answer {ok : Prop} {input : SessionInput} (same : ok ↔ input.writable = true)
    (texts : List Text) {next : Phase} (holds : next.Holds) (status : Nat) :
    LineStep ok status (answer input texts (.reading next, [])) := by
  rcases answer_cases input texts (.reading next, []) status with
    ⟨written, reader, kept⟩ | ⟨failed, raised, kept⟩
  · exact .reads (same.mpr written) next holds reader kept
  · refine .raises ?_ raised kept
    intro fine
    rw [same.mp fine] at failed
    cases failed

theorem LineStep.error {ok : Prop} (fine : ok) (input : SessionInput) {errCode : StatusCode}
    (frees : errCode ≠ .unavailable) (msg : Text) (status : Nat) :
    LineStep ok status (error input errCode msg) := by
  have spec := error_spec input errCode msg status
  rw [if_neg frees] at spec
  exact .ends fine spec.1 spec.2

theorem LineStep.after {ok : Prop} {status : Nat} {result : Outcome × List SessionEvent}
    (step : LineStep ok status result) {events : List SessionEvent}
    (quiet : statusAfter status events = status) : LineStep ok status (after events result) := by
  have same : statusAfter status (Daemon.after events result).2 = statusAfter status result.2 := by
    unfold Daemon.after
    rw [statusAfter_append, quiet]
  cases step with
  | reads fine next holds reader kept => exact .reads fine next holds reader (same.trans kept)
  | ends fine ended cleared => exact .ends fine ended (same.trans cleared)
  | raises bad raised kept => exact .raises bad raised (same.trans kept)

theorem LineStep.failed {ok : Prop} {input : SessionInput} {failure : ShuntError}
    (same : ok ↔ failure.Readable) (status : Nat) :
    LineStep ok status (failed input [] failure) := by
  cases failed_cases input [] failure with
  | reported fine msg handled =>
      rw [handled]
      exact (LineStep.error (same.mpr fine) input (by decide) msg status).after rfl
  | passes bad handled =>
      rw [handled]
      exact .raises (fun fine => bad (same.mp fine)) rfl rfl

theorem LineStep.marshall {ok : Prop} {input : SessionInput}
    (same : ok ↔ input.plugin.data ≠ none ∧ input.writable = true) (process status : Nat) :
    LineStep ok status (marshall input process) := by
  unfold Daemon.marshall shuntMarshall
  apply LineStep.after _ rfl
  dsimp only
  cases data : input.plugin.data with
  | none =>
      refine .raises ?_ rfl rfl
      intro fine
      exact (same.mp fine).1 data
  | some bytes =>
      rcases answer_cases input
          [strStatus (if (if input.plugin.marshall ≠ 0 then (1 : Int) else 0) ≠ 0 then .invalidData
            else .validData) ["Data to follow".toList],
            "Content-length: ".toList ++ decimalText bytes.length ++ ['\n']]
          (.finished, [.sentData bytes, .notRunning]) status with
        ⟨written, ended, cleared⟩ | ⟨failed, raised, kept⟩
      · refine .ends (same.mpr ⟨?_, written⟩) ?_ cleared
        · rw [data]
          exact Option.some_ne_none bytes
        · rw [ended]
          trivial
      · refine .raises ?_ raised kept
        intro fine
        rw [(same.mp fine).2] at failed
        cases failed

section Phases

variable {options : Options} {input : SessionInput} {line : Text}
  (common : ¬ CommonOpt line) (noAbort : line ≠ "ABORT".toList)

include common noAbort

/-- QUIT releases the flag in every phase; the other lines are judged there. -/
private theorem leaving_step {phase : Phase} {status pid : Nat}
    {rest : Outcome × List SessionEvent}
    (step : line ≠ "QUIT".toList → LineStep (LineOk options phase input line) status rest) :
    LineStep (LineOk options phase input line) status (leaving status pid input line rest) := by
  unfold leaving
  rw [if_neg noAbort]
  by_cases quit : line = "QUIT".toList
  · rw [if_pos quit]
    refine .error ?_ input (by decide) _ status
    unfold LineOk
    rw [if_neg common, if_pos quit]
    trivial
  · rw [if_neg quit]
    exact step quit

theorem setup_step (status pid : Nat) :
    LineStep (LineOk options .setup input line) status (setup options status pid input line) := by
  apply leaving_step common noAbort
  intro quit
  simp only [LineOk, if_neg common, if_neg quit]
  cases options.tables.matchCommand (loadArgument options.tables) line with
  | none => exact .answer Iff.rfl _ (by decide) status
  | some found =>
      rcases found with ⟨cmd, arg⟩
      dsimp only
      by_cases load : cmd = "LOAD".toList
      · rw [if_pos load]
        rw [if_pos load]
        cases input.plugin.load with
        | some failure => exact (LineStep.failed Iff.rfl status).after rfl
        | none => exact (LineStep.answer (Iff.of_eq (true_and _)) _ (by decide) status).after rfl
      · rw [if_neg load, if_neg load]
        exact .answer Iff.rfl _ (by decide) status

theorem loaded_step (status pid : Nat) :
    LineStep (LineOk options .loaded input line) status
      (loaded options status pid input line) := by
  apply leaving_step common noAbort
  intro quit
  simp only [LineOk, if_neg common, if_neg quit]
  cases options.tables.matchCommand (fun char => char != '\n') line with
  | none => exact .answer Iff.rfl _ (by decide) status
  | some found =>
      rcases found with ⟨cmd, arglist⟩
      dsimp only
      cases parseOptions options.tables arglist with
      | none => exact .raises id rfl rfl
      | some bound =>
          dsimp only
          by_cases setup : cmd = "SETUP".toList
          · rw [if_pos setup, if_pos setup]
            cases setupArgs options bound with
            | none => exact .raises (fun fine => fine.1 rfl) rfl rfl
            | some arguments =>
                apply LineStep.after _ rfl
                cases shuntSetup options input.plugin with
                | some failure =>
                    exact .failed (and_iff_right (Option.some_ne_none arguments)) status
                | none =>
                    exact .answer ((and_iff_right (Option.some_ne_none arguments)).trans
                      (Iff.of_eq (true_and _))) _ (by decide) status
          · rw [if_neg setup, if_neg setup]
            exact .answer Iff.rfl _ (by decide) status

theorem run_step (client : options.target = false) (status pid process : Nat) :
    LineStep (LineOk options .run input line) status
      (run options status pid process input line) := by
  apply leaving_step common noAbort
  intro quit
  simp only [LineOk, if_neg common, if_neg quit]
  by_cases start : options.tables.matchWord line = some "START".toList
  · rw [if_pos start, if_pos start]
    apply LineStep.after _ rfl
    simp only [client, Bool.false_eq_true, if_false]
    cases shuntStart input.plugin with
    | some failure => exact .failed Iff.rfl status
    | none => exact .marshall Iff.rfl process status
  · rw [if_neg start, if_neg start]
    exact .answer Iff.rfl _ (by decide) status

end Phases

/-- What handling what was read does to a session that holds the flag.  At the
end of the stream the session goes on reading empty lines as long as it can
answer them. -/
inductive HeldStep (options : Options) (phase : Phase) (input : SessionInput) (status : Nat)
    (result : Outcome × List SessionEvent) : Prop where
  | reads (fine : ReadOk options phase input) (next : Phase) (holds : next.Holds)
      (reader : result.1 = .reading next) (kept : statusAfter status result.2 = status)
  | ends (fine : ReadOk options phase input) (ended : result.1.Ended)
      (cleared : statusAfter status result.2 = 0)
  | spins (eof : input.received = .eof) (reader : result.1 = .reading phase)
      (kept : statusAfter status result.2 = status)
  | raises (bad : ¬ ReadOk options phase input) (raised : result.1 = .raised)
      (kept : statusAfter status result.2 = status)

/-- Every phase but the child's answers an empty line and goes on. -/
theorem handle_empty (options : Options) (pids : Nat → Nat) (status process : Nat)
    {phase : Phase} (parent : phase ≠ .child) {input : SessionInput}
    (eof : input.received = .eof) :
    ∃ texts, handle options pids status process phase input =
      answer input texts (.reading phase, []) := by
  have read : input.lineIn = some [] := by
    rw [SessionInput.lineIn, SessionInput.readline, eof]
    rfl
  rw [handle_line options pids status process phase read (by decide)]
  cases phase with
  | listen => exact ⟨_, rfl⟩
  | setup => exact ⟨_, rfl⟩
  | loaded => exact ⟨_, rfl⟩
  | run => exact ⟨_, rfl⟩
  | child => exact False.elim (parent rfl)

theorem Phase.Holds.parent {phase : Phase} (holds : phase.Holds) : phase ≠ .child := by
  rintro rfl
  exact holds

theorem handle_held {options : Options} (client : options.target = false) (pids : Nat → Nat)
    (status process : Nat) {phase : Phase} (holds : phase.Holds) {input : SessionInput}
    (noAbort : input.lineIn ≠ some "ABORT".toList) :
    HeldStep options phase input status (handle options pids status process phase input) := by
  cases received : input.received with
  | undecodable =>
      have bad : ¬ ReadOk options phase input := by
        rintro ⟨raw, line, _⟩
        rw [received] at line
        cases line
      refine .raises bad ?_ ?_
      · simp only [handle, parseCommonOpts, SessionInput.readline, received]
      · simp only [handle, parseCommonOpts, SessionInput.readline, received, statusAfter_nil]
  | eof =>
      rcases handle_empty options pids status process holds.parent received with ⟨texts, same⟩
      rw [same]
      rcases answer_cases input texts (.reading phase, []) status with
        ⟨_, reader, kept⟩ | ⟨_, raised, kept⟩
      · exact .spins received reader kept
      · refine .raises ?_ raised kept
        rintro ⟨raw, line, _⟩
        rw [received] at line
        cases line
  | line raw =>
      have read : ReadOk options phase input ↔ LineOk options phase input (strip raw) := by
        constructor
        · rintro ⟨other, line, fine⟩
          rw [received] at line
          cases line
          exact fine
        · exact fun fine => ⟨raw, received, fine⟩
      have line : input.lineIn = some (strip raw) := by
        rw [SessionInput.lineIn, SessionInput.readline, received, Option.map_some]
      have noAbort' : strip raw ≠ "ABORT".toList :=
        fun same => noAbort (line.trans (congrArg some same))
      have step : LineStep (LineOk options phase input (strip raw)) status
          (handle options pids status process phase input) := by
        cases handle_read options pids status process phase input with
        | undecodable unread _ =>
            rw [line] at unread
            cases unread
        | common same again common texts answered =>
            rw [line] at again
            cases again
            rw [answered]
            refine .answer ?_ texts holds status
            unfold LineOk
            rw [if_pos common]
        | passes same again common handled =>
            rw [line] at again
            cases again
            rw [handled]
            cases phase with
            | setup => exact setup_step common noAbort' status (pids process)
            | loaded => exact loaded_step common noAbort' status (pids process)
            | run => exact run_step common noAbort' client status (pids process) process
            | listen => exact False.elim holds
            | child => exact False.elim holds
      cases step with
      | reads fine next nextHolds reader kept =>
          exact .reads (read.mpr fine) next nextHolds reader kept
      | ends fine ended cleared => exact .ends (read.mpr fine) ended cleared
      | raises bad raised kept => exact .raises (fun fine => bad (read.mp fine)) raised kept

/-! ## Sessions that listen -/

/-- What handling what was read does to a session that listens. -/
inductive ListenStep (pid : Nat) (input : SessionInput) (status : Nat)
    (result : Outcome × List SessionEvent) : Prop where
  | stays (written : input.writable = true) (reader : result.1 = .reading .listen)
      (kept : statusAfter status result.2 = status)
  | acquires (hello : input.lineIn.map matchNonspace = some "HELLO".toList) (free : status = 0)
      (reader : result.1 = .reading .setup) (taken : statusAfter status result.2 = pid)
  | ends (ended : result.1.Ended) (kept : statusAfter status result.2 = status)
  | quits (quit : input.lineIn = some "QUIT".toList) (ended : result.1.Ended)
      (cleared : statusAfter status result.2 = 0)

theorem ListenStep.answer (pid : Nat) (input : SessionInput) (texts : List Text)
    (status : Nat) : ListenStep pid input status (answer input texts (.reading .listen, [])) := by
  rcases answer_cases input texts (.reading .listen, []) status with
    ⟨written, reader, kept⟩ | ⟨_, raised, kept⟩
  · exact .stays written reader kept
  · refine .ends ?_ kept
    rw [raised]
    trivial

theorem handle_listen (options : Options) (pids : Nat → Nat) (status process : Nat)
    {input : SessionInput} (noAbort : input.lineIn ≠ some "ABORT".toList) :
    ListenStep (pids process) input status
      (handle options pids status process .listen input) := by
  cases handle_read options pids status process .listen input with
  | undecodable _ raised =>
      rw [raised]
      exact .ends trivial rfl
  | common _ _ _ texts answered =>
      rw [answered]
      exact .answer _ input texts status
  | passes line read _ handled =>
      rw [handled, dispatch, listen, leaving,
        if_neg (fun abort => noAbort (read.trans (congrArg some abort)))]
      by_cases quit : line = "QUIT".toList
      · rw [if_pos quit]
        have spec := error_spec input .closing "Come back soon!".toList status
        exact .quits (read.trans (congrArg some quit)) spec.1 spec.2
      rw [if_neg quit]
      by_cases hello : matchNonspace line = "HELLO".toList
      · rw [if_pos hello]
        by_cases busy : 0 < status
        · rw [if_pos busy]
          have spec := error_spec input .unavailable "Already Running".toList status
          exact .ends spec.1 spec.2
        · rw [if_neg busy]
          rcases answer_cases input [strStatus .ok ["Ready to go".toList]]
              (.reading .setup, [.running (pids process)]) status with
            ⟨_, reader, taken⟩ | ⟨_, raised, kept⟩
          · refine .acquires ?_ (Nat.eq_zero_of_not_pos busy) reader taken
            rw [read, Option.map_some, hello]
          · refine .ends ?_ kept
            rw [raised]
            trivial
      · rw [if_neg hello]
        exact .answer _ input _ status

/-! ## Whole sessions -/

/-- Between the accepted HELLO and the end of the session. -/
def Session.Active (session : Session) : Prop :=
  match session.reader with
  | .reading phase => phase.Holds
  | _ => False

instance (session : Session) : Decidable session.Active := by
  unfold Session.Active
  split <;> infer_instance

/-- The session goes on or ends, without handing over to another process. -/
def Outcome.Plain (outcome : Outcome) : Prop :=
  outcome ≠ .forked ∧ outcome ≠ .stopped

theorem Outcome.plain_reading {outcome : Outcome} {phase : Phase}
    (reading : outcome = .reading phase) : outcome.Plain := by
  subst reading
  constructor
  · intro impossible
    cases impossible
  · intro impossible
    cases impossible

theorem Outcome.Ended.plain {outcome : Outcome} (ended : outcome.Ended) : outcome.Plain := by
  constructor
  · rintro rfl
    exact ended
  · rintro rfl
    exact ended

theorem Outcome.ended_raised {outcome : Outcome} (raised : outcome = .raised) :
    outcome.Ended := by
  rw [raised]
  trivial

theorem Outcome.not_ended_of_reading {outcome : Outcome} {phase : Phase}
    (reading : outcome = .reading phase) : ¬ outcome.Ended := by
  subst reading
  exact id

theorem HeldStep.plain {options : Options} {phase : Phase} {input : SessionInput} {status : Nat}
    {result : Outcome × List SessionEvent} (step : HeldStep options phase input status result) :
    result.1.Plain := by
  cases step with
  | reads _ next _ reader _ => exact Outcome.plain_reading reader
  | ends _ ended _ => exact ended.plain
  | spins _ reader _ => exact Outcome.plain_reading reader
  | raises _ raised _ => exact (Outcome.ended_raised raised).plain

theorem ListenStep.plain {pid : Nat} {input : SessionInput} {status : Nat}
    {result : Outcome × List SessionEvent} (step : ListenStep pid input status result) :
    result.1.Plain := by
  cases step with
  | stays _ reader _ => exact Outcome.plain_reading reader
  | acquires _ _ reader _ => exact Outcome.plain_reading reader
  | ends ended _ => exact ended.plain
  | quits _ ended _ => exact ended.plain

/-- What is neither a fork nor a stop becomes the reader, and `setup` may install
the handler. -/
theorem Session.step_reading (options : Options) (pids : Nat → Nat) (status : Nat)
    {session : Session} {phase : Phase} (reading : session.reader = .reading phase)
    (input : SessionInput)
    (plain : (handle options pids status session.testers phase input).1.Plain) :
    session.step options pids status input =
      ({  reader := (handle options pids status session.testers phase input).1
          testers := session.testers
          handler := session.handler ||
            (handle options pids status session.testers phase input).2.any installsHandler },
        (handle options pids status session.testers phase input).2) := by
  unfold Session.step
  rw [reading]
  dsimp only
  generalize handle options pids status session.testers phase input = result at plain ⊢
  rcases result with ⟨outcome, events⟩
  cases outcome with
  | forked => exact False.elim (plain.1 rfl)
  | stopped => exact False.elim (plain.2 rfl)
  | reading next => rfl
  | finished => rfl
  | raised => rfl
  | killed => rfl
  | exited => rfl

/-- Nobody reads for a session whose reader is gone. -/
theorem Session.step_gone (options : Options) (pids : Nat → Nat) (status : Nat)
    {session : Session} (gone : ∀ phase, session.reader ≠ .reading phase)
    (input : SessionInput) : session.step options pids status input = (session, []) := by
  unfold Session.step
  cases reader : session.reader with
  | reading phase => exact False.elim (gone phase reader)
  | finished => rfl
  | raised => rfl
  | killed => rfl
  | exited => rfl
  | forked => rfl
  | stopped => rfl

theorem Session.step_ended (options : Options) (pids : Nat → Nat) (status : Nat)
    {session : Session} (ended : session.reader.Ended) (input : SessionInput) :
    session.step options pids status input = (session, []) :=
  Session.step_gone options pids status
    (fun _ reading => Outcome.not_ended_of_reading reading ended) input

/-- A session of client mode never waits for another process. -/
def Session.Single (session : Session) : Prop :=
  session.reader = .reading .listen ∨ session.Active ∨ session.reader.Ended

theorem Session.Active.exists_phase {session : Session} (active : session.Active) :
    ∃ phase, session.reader = .reading phase ∧ phase.Holds := by
  unfold Session.Active at active
  cases reader : session.reader with
  | reading phase =>
      rw [reader] at active
      exact ⟨phase, rfl, active⟩
  | finished => rw [reader] at active; exact False.elim active
  | raised => rw [reader] at active; exact False.elim active
  | killed => rw [reader] at active; exact False.elim active
  | exited => rw [reader] at active; exact False.elim active
  | forked => rw [reader] at active; exact False.elim active
  | stopped => rw [reader] at active; exact False.elim active

theorem not_active_of_ended {session : Session} (ended : session.reader.Ended) :
    ¬ session.Active := by
  intro active
  rcases active.exists_phase with ⟨phase, reading, _⟩
  rw [reading] at ended
  exact ended

theorem Session.active_of_reading {session : Session} {phase : Phase}
    (reading : session.reader = .reading phase) (holds : phase.Holds) : session.Active := by
  unfold Session.Active
  rw [reading]
  exact holds

theorem not_active_of_listening {session : Session}
    (listening : session.reader = .reading .listen) : ¬ session.Active := by
  unfold Session.Active
  rw [listening]
  exact id

/-! ## Concrete sessions -/

/-- A client daemon whose interpreter knows ASCII. -/
def clientOptions : Options where
  target := false
  tables := asciiTables

/-- A line of text, with a plugin that works and a connection that holds. -/
def textInput (line : String) : SessionInput where
  received := .line line.toList
  plugin :=
    { name := literal "dummy", load := none, setup := 0, start := 0, marshall := 0
      data := some [1, 2, 3] }
  kills := { found := true, foundAgain := true, clears := false }
  writable := true

/-- The end of the stream, on a connection that still takes what is written. -/
def eofInput : SessionInput :=
  { textInput "" with received := .eof }

/-- The given lines, and then the end of the stream. -/
def linesThenEof (lines : List String) (count : Nat) : SessionInput :=
  match lines[count]? with
  | some line => textInput line
  | none => eofInput

end Daemon
end Ipbench
