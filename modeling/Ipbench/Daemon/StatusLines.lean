import Ipbench.Daemon.Abort
import Ipbench.Daemon.Target

namespace Ipbench
namespace Daemon

open Foundation

/-!
# One status line for each command

A controller that waits for a status after each command needs exactly one
status line for it.  The handlers of client mode keep to this almost everywhere.
The inner loop of `setup` does not: it sends a status at the top of each turn,
so a line that does not match is answered by an error and, in the next turn, by
an OK.  A line whose options cannot be split, or lack what SETUP needs, ends the
session without any status, and so do a line that cannot be decoded and a
failure of the shunt whose text cannot be.

The replies are counted in the texts that are sent.  Each of them is a whole
line, or the help text, none of whose lines has a code.  The end of the stream
reads as an empty line.
-/

def isStatusLine (text : Text) : Bool :=
  decide (3 ≤ text.length) && (text.take 3).all Char.isDigit

def statusLines (events : List SessionEvent) : List Text :=
  events.filterMap fun event =>
    match event with
    | .sent text => if isStatusLine text then some text else none
    | _ => none

/-- Every command but ABORT is answered. -/
def repliesDue (input : SessionInput) : Nat :=
  if input.lineIn = some "ABORT".toList then 0 else 1

/-- The replies that a session owes for a line, if it reads it. -/
def Session.repliesDue (session : Session) (input : SessionInput) : Nat :=
  match session.reader with
  | .reading _ => Daemon.repliesDue input
  | _ => 0

def repliesDueAlong (options : Options) (pids : Nat → Nat) :
    Session → List (Nat × SessionInput) → Nat
  | _, [] => 0
  | session, arrival :: rest =>
      session.repliesDue arrival.2 +
        repliesDueAlong options pids ((sessionMachine options pids).step session arrival).1 rest

/-- At each point of a session as many status lines have been sent as commands
other than ABORT have been read, so each reply comes before the next command is
read. -/
def Lockstep (options : Options) (pids : Nat → Nat) (session : Session)
    (arrivals : List (Nat × SessionInput)) : Prop :=
  ∀ before, before <+: arrivals →
    (statusLines ((sessionMachine options pids).run session before).2).length =
      repliesDueAlong options pids session before

/-- A call of the shunt that succeeds, or fails with a text that can be reported. -/
def Reported (failure : Option ShuntError) : Prop :=
  ∀ error, failure = some error → error.Readable

/-- A line that its phase answers once.  In the inner loop of `setup` it matches,
its options parse, and those of SETUP are complete; and where LOAD or SETUP
fails, the failure can be reported. -/
def Digested (options : Options) (phase : Phase) (input : SessionInput) (line : Text) : Prop :=
  match phase with
  | .setup =>
      ∀ arg, options.tables.matchCommand (loadArgument options.tables) line =
        some ("LOAD".toList, arg) → Reported input.plugin.load
  | .loaded =>
      ∃ cmd arglist bound,
        options.tables.matchCommand (fun char => char != '\n') line = some (cmd, arglist) ∧
          parseOptions options.tables arglist = some bound ∧
            (cmd = "SETUP".toList → setupArgs options bound ≠ none ∧
              Reported (shuntSetup options input.plugin))
  | .listen | .run | .child => True

/-- A line that can be decoded, while the connection takes what is written, and
that its phase can digest. -/
def Answerable (options : Options) (phase : Phase) (input : SessionInput) : Prop :=
  ∃ line, input.lineIn = some line ∧
    (line = "ABORT".toList ∨
      (input.writable = true ∧
        (CommonOpt line ∨ line = "QUIT".toList ∨ Digested options phase input line)))

/-! ## Counting -/

theorem statusLines_append (first second : List SessionEvent) :
    statusLines (first ++ second) = statusLines first ++ statusLines second :=
  List.filterMap_append

theorem statusLines_sent (texts : List Text) :
    statusLines (texts.map SessionEvent.sent) = texts.filter isStatusLine := by
  rw [statusLines, List.filterMap_map, ← List.filterMap_eq_filter]
  rfl

theorem code_digits (errCode : StatusCode) :
    (decimalText errCode.code).length = 3 ∧
      (decimalText errCode.code).all Char.isDigit = true := by
  cases errCode with
  | version => decide
  | ok => decide
  | validData => decide
  | invalidData => decide
  | closing => decide
  | error => decide
  | unavailable => decide
  | localError => decide
  | syntaxError => decide

@[simp] theorem isStatusLine_strStatus (errCode : StatusCode) (msg : List Text) :
    isStatusLine (strStatus errCode msg) = true := by
  rcases code_digits errCode with ⟨length, digits⟩
  have code : ∃ rest, strStatus errCode msg = decimalText errCode.code ++ rest := by
    unfold strStatus
    split
    · exact ⟨[' '] ++ (errCode.text ++ ['\n']), by simp only [List.append_assoc]⟩
    · exact ⟨_, by simp only [List.append_assoc]; rfl⟩
  rcases code with ⟨rest, code⟩
  rw [isStatusLine, code, List.take_left' length, digits, Bool.and_true, List.length_append]
  exact decide_eq_true (by omega)

theorem isStatusLine_cons {char : Char} (letter : char.isDigit = false) (rest : Text) :
    isStatusLine (char :: rest) = false := by
  rw [isStatusLine, List.take_succ_cons, List.all_cons, letter, Bool.false_and, Bool.and_false]

theorem isStatusLine_help (target : Bool) :
    isStatusLine (if target then helpTextTarget else helpText) = false := by
  cases target with
  | true => decide +kernel
  | false => decide +kernel

theorem isStatusLine_mode (target : Bool) :
    isStatusLine (if target then "Target Daemon mode\n".toList
      else "Testing Daemon mode\n".toList) = false := by
  cases target with
  | true => decide +kernel
  | false => decide +kernel

theorem isStatusLine_running (status : Nat) :
    isStatusLine (if status = 0 then "Not running a test\n".toList
      else "Running a test (".toList ++ decimalText status ++ ")\n".toList) = false := by
  split
  · decide +kernel
  · have running : "Running a test (".toList = 'R' :: "unning a test (".toList := by decide +kernel
    rw [running, List.cons_append, List.cons_append]
    exact isStatusLine_cons (by decide) _

/-- What a connection takes of some replies. -/
def written (input : SessionInput) (count : Nat) : Nat :=
  if input.writable then count else 0

theorem replies_answer (input : SessionInput) (texts : List Text)
    {next : Outcome × List SessionEvent} (quiet : statusLines next.2 = []) :
    (statusLines (answer input texts next).2).length =
      written input (texts.filter isStatusLine).length := by
  unfold answer written
  cases input.writable with
  | true =>
      simp only [if_true]
      rw [statusLines_append, statusLines_sent, quiet, List.append_nil]
  | false => rfl

theorem replies_after {events : List SessionEvent} (quiet : statusLines events = [])
    (next : Outcome × List SessionEvent) :
    statusLines (after events next).2 = statusLines next.2 := by
  rw [after, statusLines_append, quiet, List.nil_append]

theorem replies_error (input : SessionInput) (errCode : StatusCode) (msg : Text) :
    (statusLines (error input errCode msg).2).length = written input 1 := by
  rw [error, replies_after]
  · rw [replies_answer]
    · simp
    · rfl
  · split
    · rfl
    · rfl

/-- How often a failing or succeeding call of the shunt is answered. -/
def reportReplies : Option ShuntError → Nat
  | some .undecodable => 0
  | _ => 1

theorem reportReplies_eq_one {failure : Option ShuntError} :
    reportReplies failure = 1 ↔ Reported failure := by
  cases failure with
  | none => exact iff_of_true rfl fun _ impossible => nomatch impossible
  | some error =>
      cases error with
      | runtime detail =>
          refine iff_of_true rfl ?_
          rintro other ⟨⟩
          exact trivial
      | undecodable =>
          refine iff_of_false (by decide) ?_
          exact fun reported => reported .undecodable rfl

theorem replies_failed (input : SessionInput) (failure : ShuntError) :
    (statusLines (failed input [] failure).2).length =
      written input (reportReplies (some failure)) := by
  cases failure with
  | runtime detail => exact replies_error input .localError _
  | undecodable => exact (ite_self 0).symm

theorem replies_abort (status pid : Nat) (kills : KillResults) :
    statusLines (abort status pid kills).2 = [] := by
  have signals : ∀ again : Bool, statusLines (.killed status .sigint ::
      if again then [.killed status .sigkill] else []) = [] := by
    intro again
    cases again with
    | true => rfl
    | false => rfl
  unfold abort
  split
  · rfl
  · split
    · rfl
    · rw [replies_after (signals kills.foundAgain)]
      split
      · rfl
      · dsimp only
        split
        · rfl
        · rfl

/-! ## The handlers -/

section Handlers

variable {options : Options} {input : SessionInput} {line : Text}

theorem replies_common (pids : Nat → Nat) (status process : Nat) (phase : Phase)
    (read : input.lineIn = some line) (common : CommonOpt line) :
    (statusLines (handle options pids status process phase input).2).length =
      written input 1 := by
  rcases Option.map_eq_some_iff.mp read with ⟨raw, received, stripped⟩
  subst stripped
  unfold handle parseCommonOpts
  rw [received]
  dsimp only
  by_cases help : matchNonspace (strip raw) = "HELP".toList
  · rw [if_pos help, replies_answer input _ rfl]
    simp only [List.filter_cons, isStatusLine_help, isStatusLine_strStatus, List.filter_nil,
      Bool.false_eq_true, if_false, if_true, List.length_singleton]
  · rw [if_neg help, if_pos (common.resolve_left help), replies_answer input _ rfl]
    simp only [List.filter_cons, isStatusLine_mode, isStatusLine_running, isStatusLine_strStatus,
      List.filter_nil, Bool.false_eq_true, if_false, if_true, List.length_singleton]

theorem replies_answered (input : SessionInput) (errCode : StatusCode) (msg : List Text)
    {next : Outcome × List SessionEvent} (quiet : statusLines next.2 = []) :
    (statusLines (answer input [strStatus errCode msg] next).2).length = written input 1 := by
  rw [replies_answer input _ quiet]
  simp

theorem replies_leaving (status pid : Nat) {rest : Outcome × List SessionEvent} {count : Nat}
    (noAbort : line ≠ "ABORT".toList)
    (replies : line ≠ "QUIT".toList → (statusLines rest.2).length = written input count) :
    (statusLines (leaving status pid input line rest).2).length =
      written input (if line = "QUIT".toList then 1 else count) := by
  unfold leaving
  rw [if_neg noAbort]
  by_cases quit : line = "QUIT".toList
  · rw [if_pos quit, if_pos quit]
    exact replies_error input .closing _
  · rw [if_neg quit, if_neg quit]
    exact replies quit

theorem replies_leaving_one (status pid : Nat) {rest : Outcome × List SessionEvent}
    (noAbort : line ≠ "ABORT".toList)
    (replies : (statusLines rest.2).length = written input 1) :
    (statusLines (leaving status pid input line rest).2).length = written input 1 := by
  rw [replies_leaving status pid noAbort fun _ => replies, ite_self]

theorem replies_listen (status pid : Nat) (noAbort : line ≠ "ABORT".toList) :
    (statusLines (listen status pid input line).2).length = written input 1 := by
  apply replies_leaving_one status pid noAbort
  split
  · split
    · exact replies_error input .unavailable _
    · exact replies_answered input .ok _ rfl
  · exact replies_answered input .syntaxError _ rfl

/-- How often the outer loop of `setup` answers a line. -/
def setupReplies (options : Options) (input : SessionInput) (line : Text) : Nat :=
  match options.tables.matchCommand (loadArgument options.tables) line with
  | none => 1
  | some (cmd, _) => if cmd = "LOAD".toList then reportReplies input.plugin.load else 1

theorem replies_setup (status pid : Nat) (noAbort : line ≠ "ABORT".toList) :
    (statusLines (setup options status pid input line).2).length =
      written input (if line = "QUIT".toList then 1 else setupReplies options input line) := by
  apply replies_leaving status pid noAbort
  intro _
  unfold setupReplies
  cases options.tables.matchCommand (loadArgument options.tables) line with
  | none => exact replies_answered input .syntaxError _ rfl
  | some found =>
      rcases found with ⟨cmd, arg⟩
      dsimp only
      by_cases load : cmd = "LOAD".toList
      · rw [if_pos load, if_pos load]
        cases input.plugin.load with
        | none =>
            rw [replies_after rfl]
            exact replies_answered input .ok _ rfl
        | some failure =>
            rw [replies_after rfl]
            exact replies_failed input failure
      · rw [if_neg load, if_neg load]
        exact replies_answered input .syntaxError _ rfl

theorem setupReplies_eq_one :
    setupReplies options input line = 1 ↔ Digested options .setup input line := by
  unfold setupReplies Digested
  cases options.tables.matchCommand (loadArgument options.tables) line with
  | none => exact iff_of_true rfl fun _ impossible => nomatch impossible
  | some found =>
      rcases found with ⟨cmd, arg⟩
      dsimp only
      by_cases load : cmd = "LOAD".toList
      · rw [if_pos load, reportReplies_eq_one]
        constructor
        · exact fun reported _ _ => reported
        · exact fun reported => reported arg (load ▸ rfl)
      · rw [if_neg load]
        refine iff_of_true rfl fun _ same => ?_
        exact False.elim (load (Prod.mk.inj (Option.some.inj same)).1)

theorem replies_run (status pid process : Nat) (noAbort : line ≠ "ABORT".toList)
    (noStart : options.tables.matchWord line ≠ some "START".toList) :
    (statusLines (run options status pid process input line).2).length = written input 1 := by
  apply replies_leaving_one status pid noAbort
  rw [if_neg noStart]
  exact replies_answered input .syntaxError _ rfl

/-- How often the inner loop of `setup` answers a line. -/
def loadedReplies (options : Options) (input : SessionInput) (line : Text) : Nat :=
  match options.tables.matchCommand (fun char => char != '\n') line with
  | none => 2
  | some (cmd, arglist) =>
      match parseOptions options.tables arglist with
      | none => 0
      | some bound =>
          if cmd = "SETUP".toList then
            if setupArgs options bound = none then 0
            else reportReplies (shuntSetup options input.plugin)
          else 1

theorem replies_loaded (status pid : Nat) (noAbort : line ≠ "ABORT".toList) :
    (statusLines (loaded options status pid input line).2).length =
      written input (if line = "QUIT".toList then 1 else loadedReplies options input line) := by
  apply replies_leaving status pid noAbort
  intro _
  unfold loadedReplies
  cases options.tables.matchCommand (fun char => char != '\n') line with
  | none =>
      dsimp only
      rw [replies_answer]
      · simp
      · rfl
  | some found =>
      rcases found with ⟨cmd, arglist⟩
      dsimp only
      cases parseOptions options.tables arglist with
      | none => exact (ite_self 0).symm
      | some bound =>
          dsimp only
          by_cases setup : cmd = "SETUP".toList
          · rw [if_pos setup, if_pos setup]
            cases setupArgs options bound with
            | none => exact (ite_self 0).symm
            | some arguments =>
                have quiet : statusLines [.pluginSetup arguments input.plugin.setup] = [] := rfl
                have complete : some arguments ≠ none := Option.some_ne_none arguments
                dsimp only
                rw [if_neg complete, replies_after quiet]
                cases shuntSetup options input.plugin with
                | some failure => exact replies_failed input failure
                | none => exact replies_answered input .ok _ rfl
          · rw [if_neg setup, if_neg setup]
            exact replies_answered input .ok _ rfl

theorem loadedReplies_eq_one :
    loadedReplies options input line = 1 ↔ Digested options .loaded input line := by
  unfold loadedReplies Digested
  cases options.tables.matchCommand (fun char => char != '\n') line with
  | none =>
      refine iff_of_false (Nat.succ_ne_self 1) ?_
      rintro ⟨_, _, _, impossible, _⟩
      cases impossible
  | some found =>
      rcases found with ⟨cmd, arglist⟩
      dsimp only
      have same : ∀ {cmd' arglist'}, some (cmd, arglist) = some (cmd', arglist') →
          cmd = cmd' ∧ arglist = arglist' :=
        fun matched => Prod.mk.inj (Option.some.inj matched)
      cases parsed : parseOptions options.tables arglist with
      | none =>
          refine iff_of_false Nat.zero_ne_one ?_
          rintro ⟨_, _, bound, matched, again, _⟩
          rw [← (same matched).2, parsed] at again
          cases again
      | some bound =>
          dsimp only
          constructor
          · intro once
            refine ⟨cmd, arglist, bound, rfl, parsed, fun setup => ?_⟩
            rw [if_pos setup] at once
            split at once
            · cases once
            · next complete => exact ⟨complete, reportReplies_eq_one.mp once⟩
          · rintro ⟨_, _, other, matched, again, complete⟩
            rcases same matched with ⟨rfl, rfl⟩
            rw [parsed] at again
            cases again
            split
            · next setup =>
                rw [if_neg (complete setup).1]
                exact reportReplies_eq_one.mpr (complete setup).2
            · rfl

end Handlers

/-! ## One line -/

/-- How often a command other than ABORT is answered, if the connection takes the
replies. -/
theorem handle_replies {options : Options} {input : SessionInput} {line : Text}
    (pids : Nat → Nat) (status process : Nat) {phase : Phase} (parent : phase ≠ .child)
    (noStart : ¬ Commands options "START".toList input) (read : input.lineIn = some line)
    (noAbort : line ≠ "ABORT".toList) :
    ∃ count, (statusLines (handle options pids status process phase input).2).length =
        written input count ∧
      (count = 1 ↔ CommonOpt line ∨ line = "QUIT".toList ∨ Digested options phase input line) := by
  by_cases common : CommonOpt line
  · exact ⟨1, replies_common pids status process phase read common,
      iff_of_true rfl (Or.inl common)⟩
  · rw [handle_line options pids status process phase read common]
    have counted : ∀ count, (line ≠ "QUIT".toList →
        (count = 1 ↔ Digested options phase input line)) →
        ((if line = "QUIT".toList then 1 else count) = 1 ↔
          CommonOpt line ∨ line = "QUIT".toList ∨ Digested options phase input line) := by
      intro count digests
      rw [or_iff_right common]
      by_cases quit : line = "QUIT".toList
      · rw [if_pos quit]
        exact iff_of_true rfl (Or.inl quit)
      · rw [if_neg quit, or_iff_right quit]
        exact digests quit
    cases phase with
    | listen =>
        exact ⟨1, replies_listen status (pids process) noAbort,
          iff_of_true rfl (Or.inr (Or.inr trivial))⟩
    | setup =>
        exact ⟨_, replies_setup status (pids process) noAbort,
          counted _ fun _ => setupReplies_eq_one⟩
    | run =>
        refine ⟨1, replies_run status (pids process) process noAbort ?_,
          iff_of_true rfl (Or.inr (Or.inr trivial))⟩
        exact fun start => noStart ⟨line, read, common, start⟩
    | loaded =>
        exact ⟨_, replies_loaded status (pids process) noAbort,
          counted _ fun _ => loadedReplies_eq_one⟩
    | child => exact False.elim (parent rfl)

/-- A command is answered by as many status lines as are due exactly when it is
answerable. -/
theorem handle_replies_iff {options : Options} {input : SessionInput} (pids : Nat → Nat)
    (status process : Nat) {phase : Phase} (parent : phase ≠ .child)
    (noStart : ¬ Commands options "START".toList input) :
    (statusLines (handle options pids status process phase input).2).length =
        repliesDue input ↔ Answerable options phase input := by
  cases read : input.lineIn with
  | none =>
      have due : repliesDue input = 1 := by
        rw [repliesDue, read]
        rfl
      have raised : handle options pids status process phase input = (.raised, []) := by
        cases handle_read options pids status process phase input with
        | undecodable _ raised => exact raised
        | common line again _ _ _ =>
            rw [read] at again
            cases again
        | passes line again _ _ =>
            rw [read] at again
            cases again
      rw [raised, due]
      refine iff_of_false (by decide) ?_
      rintro ⟨line, again, _⟩
      rw [read] at again
      cases again
  | some line =>
      have only : Answerable options phase input ↔ line = "ABORT".toList ∨
          (input.writable = true ∧
            (CommonOpt line ∨ line = "QUIT".toList ∨ Digested options phase input line)) := by
        constructor
        · rintro ⟨other, again, fine⟩
          rw [read] at again
          cases again
          exact fine
        · exact fun fine => ⟨line, read, fine⟩
      rw [only]
      by_cases abort : line = "ABORT".toList
      · have due : repliesDue input = 0 := by
          rw [repliesDue, read, abort]
          exact if_pos rfl
        rw [handle_abort options pids status process phase (read.trans (congrArg some abort)),
          if_neg parent, replies_abort, due]
        exact iff_of_true rfl (Or.inl abort)
      · have due : repliesDue input = 1 := by
          rw [repliesDue, read]
          exact if_neg fun same => abort (Option.some.inj same)
        rcases handle_replies pids status process parent noStart read abort with
          ⟨count, replies, once⟩
        rw [replies, due, ← once, written, or_iff_right abort]
        cases input.writable with
        | true => simp
        | false => simp

theorem handle_single {options : Options} (client : options.target = false) (pids : Nat → Nat)
    (status process : Nat) {phase : Phase} (parent : phase ≠ .child) (input : SessionInput) :
    (handle options pids status process phase input).1 = .reading .listen ∨
      (∃ next, (handle options pids status process phase input).1 = .reading next ∧
        next.Holds) ∨
      (handle options pids status process phase input).1.Ended := by
  by_cases abort : input.lineIn = some "ABORT".toList
  · rw [handle_abort options pids status process phase abort, if_neg parent]
    exact Or.inr (Or.inr (abort_ended status (pids process) input.kills))
  · by_cases holds : phase.Holds
    · cases handle_held client pids status process holds abort with
      | reads _ next nextHolds reader _ => exact Or.inr (Or.inl ⟨next, reader, nextHolds⟩)
      | ends _ ended _ => exact Or.inr (Or.inr ended)
      | spins _ reader _ => exact Or.inr (Or.inl ⟨phase, reader, holds⟩)
      | raises _ raised _ => exact Or.inr (Or.inr (Outcome.ended_raised raised))
    · have listening : phase = .listen := by
        cases phase with
        | listen => rfl
        | setup => exact False.elim (holds trivial)
        | loaded => exact False.elim (holds trivial)
        | run => exact False.elim (holds trivial)
        | child => exact False.elim (parent rfl)
      rw [listening]
      cases handle_listen options pids status process abort with
      | stays _ reader _ => exact Or.inl reader
      | acquires _ _ reader _ => exact Or.inr (Or.inl ⟨.setup, reader, trivial⟩)
      | ends ended _ => exact Or.inr (Or.inr ended)
      | quits _ ended _ => exact Or.inr (Or.inr ended)

theorem Session.Single.parent {session : Session} (single : session.Single) {phase : Phase}
    (reading : session.reader = .reading phase) : phase ≠ .child := by
  rcases single with listening | active | ended
  · rw [listening] at reading
    cases reading
    decide
  · rcases active.exists_phase with ⟨other, same, holds⟩
    rw [same] at reading
    cases reading
    exact holds.parent
  · exact absurd ended (Outcome.not_ended_of_reading reading)

theorem Session.Single.step_reading {options : Options} (client : options.target = false)
    (pids : Nat → Nat) (status : Nat) {session : Session} (single : session.Single)
    {phase : Phase} (reading : session.reader = .reading phase) (input : SessionInput) :
    (session.step options pids status input).2 =
        (handle options pids status session.testers phase input).2 ∧
      (session.step options pids status input).1.Single := by
  have leads := handle_single client pids status session.testers (single.parent reading) input
  have plain : (handle options pids status session.testers phase input).1.Plain := by
    rcases leads with listening | ⟨next, reader, _⟩ | ended
    · exact Outcome.plain_reading listening
    · exact Outcome.plain_reading reader
    · exact ended.plain
  rw [Session.step_reading options pids status reading input plain]
  refine ⟨rfl, ?_⟩
  rcases leads with listening | ⟨next, reader, holds⟩ | ended
  · exact Or.inl listening
  · exact Or.inr (Or.inl (Session.active_of_reading reader holds))
  · exact Or.inr (Or.inr ended)

/-- What a session can answer of a line, if it reads it. -/
def Session.Answerable (options : Options) (session : Session) (input : SessionInput) : Prop :=
  ∀ phase, session.reader = .reading phase → Daemon.Answerable options phase input

/-- What one line does to a session of client mode: as many status lines are sent as
are due exactly when the line is answerable. -/
theorem Session.Single.step_replies {options : Options} (client : options.target = false)
    (pids : Nat → Nat) (status : Nat) {session : Session} (single : session.Single)
    {input : SessionInput} (noStart : ¬ Commands options "START".toList input) :
    (session.step options pids status input).1.Single ∧
      ((statusLines (session.step options pids status input).2).length =
        session.repliesDue input ↔ session.Answerable options input) := by
  by_cases gone : ∀ phase, session.reader ≠ .reading phase
  · rw [Session.step_gone options pids status gone]
    refine ⟨single, iff_of_true ?_ fun phase reading => absurd reading (gone phase)⟩
    unfold Session.repliesDue
    split
    · rename_i phase reading
      exact absurd reading (gone phase)
    · rfl
  · push Not at gone
    rcases gone with ⟨phase, reading⟩
    rcases single.step_reading client pids status reading input with ⟨events, next⟩
    refine ⟨next, ?_⟩
    rw [events, Session.repliesDue, reading]
    dsimp only
    rw [handle_replies_iff pids status session.testers (single.parent reading) noStart]
    constructor
    · intro answerable other same
      rw [reading] at same
      cases same
      exact answerable
    · exact fun answerable => answerable phase reading

/-! ## Whole sessions -/

theorem lockstep_nil (options : Options) (pids : Nat → Nat) (session : Session) :
    Lockstep options pids session [] := by
  intro before initial
  rw [List.prefix_nil.mp initial]
  rfl

theorem lockstep_cons {options : Options} {pids : Nat → Nat} {session : Session}
    {arrival : Nat × SessionInput} {rest : List (Nat × SessionInput)} :
    Lockstep options pids session (arrival :: rest) ↔
      (statusLines ((sessionMachine options pids).step session arrival).2).length =
          session.repliesDue arrival.2 ∧
        Lockstep options pids ((sessionMachine options pids).step session arrival).1 rest := by
  have counted : ∀ before, (statusLines ((sessionMachine options pids).run session
      (arrival :: before)).2).length =
        (statusLines ((sessionMachine options pids).step session arrival).2).length +
          (statusLines ((sessionMachine options pids).run
            ((sessionMachine options pids).step session arrival).1 before).2).length := by
    intro before
    rw [Machine.run, statusLines_append, List.length_append]
  constructor
  · intro lockstep
    have first : (statusLines ((sessionMachine options pids).step session arrival).2).length =
        session.repliesDue arrival.2 := by
      have both := lockstep [arrival] (List.prefix_append [arrival] rest)
      rw [counted] at both
      exact both
    refine ⟨first, ?_⟩
    intro before initial
    have both := lockstep (arrival :: before) ((List.prefix_cons_inj arrival).mpr initial)
    rw [counted, repliesDueAlong, first] at both
    exact Nat.add_left_cancel both
  · rintro ⟨first, later⟩ before initial
    cases before with
    | nil => rfl
    | cons other before =>
        rcases List.cons_prefix_cons.mp initial with ⟨rfl, within⟩
        rw [counted, repliesDueAlong, first, later before within]

/-- A session without START keeps in step with its controller exactly when each
line it reads is answerable. -/
theorem lockstep_iff {options : Options} (client : options.target = false) (pids : Nat → Nat)
    {arrivals : List (Nat × SessionInput)}
    (noStart : ∀ arrival ∈ arrivals, ¬ Commands options "START".toList arrival.2) :
    Lockstep options pids Session.start arrivals ↔
      (sessionMachine options pids).Along
        (fun session _ arrival => session.Answerable options arrival.2)
        Session.start [] arrivals := by
  have single : Session.start.Single := Or.inl rfl
  generalize Session.start = session at single ⊢
  generalize ([] : List SessionEvent) = trace
  induction arrivals generalizing session trace with
  | nil => exact iff_of_true (lockstep_nil options pids session) trivial
  | cons arrival rest inductionHypothesis =>
      rcases single.step_replies client pids arrival.1
        (noStart arrival List.mem_cons_self) with ⟨next, replies⟩
      rw [lockstep_cons, Machine.Along]
      have later := inductionHypothesis
        (fun other member => noStart other (List.mem_cons_of_mem arrival member))
        ((sessionMachine options pids).step session arrival).1 next
      exact and_congr replies (later _)

theorem not_commands_textInput {options : Options} {text : String} {word : Text}
    (other : options.tables.matchWord (strip text.toList) ≠ some word) :
    ¬ Commands options word (textInput text) := by
  rintro ⟨line, read, _, matched⟩
  cases read
  exact other matched

/-- The commands of a controller up to a last line. -/
def afterLoad (last : String) : List (Nat × SessionInput) :=
  [(0, textInput "HELLO"), (7, textInput "LOAD dummy"), (7, textInput last)]

theorem noStart_afterLoad {last : String}
    (other : clientOptions.tables.matchWord (strip last.toList) ≠ some "START".toList) :
    ∀ arrival ∈ afterLoad last, ¬ Commands clientOptions "START".toList arrival.2 := by
  intro arrival member
  simp only [afterLoad, List.mem_cons, List.not_mem_nil, or_false] at member
  rcases member with rfl | rfl | rfl
  · exact not_commands_textInput (by decide)
  · exact not_commands_textInput (by decide)
  · exact not_commands_textInput other

theorem lockstep_iff_setup :
    Lockstep clientOptions (fun _ => 7) Session.start
        (afterLoad "SETUP target::host||port::0||args::''") ↔
      (sessionMachine clientOptions fun _ => 7).Along
        (fun session _ arrival => session.Answerable clientOptions arrival.2) Session.start []
        (afterLoad "SETUP target::host||port::0||args::''") :=
  lockstep_iff rfl _ (noStart_afterLoad (by decide))

/-- After LOAD, a line without an argument is answered by 500 and by 200, and a
line whose option has no value by nothing. -/
theorem lockstep_lost :
    (¬ Lockstep clientOptions (fun _ => 7) Session.start (afterLoad "SETUP") ∧
      ∀ arrival ∈ afterLoad "SETUP", ¬ Commands clientOptions "START".toList arrival.2) ∧
    (¬ Lockstep clientOptions (fun _ => 7) Session.start (afterLoad "SETUP args") ∧
      ∀ arrival ∈ afterLoad "SETUP args",
        ¬ Commands clientOptions "START".toList arrival.2) := by
  refine ⟨⟨?_, noStart_afterLoad (by decide)⟩, ?_, noStart_afterLoad (by decide)⟩
  · intro lockstep
    exact absurd (lockstep _ (List.prefix_refl _)) (by decide)
  · intro lockstep
    exact absurd (lockstep _ (List.prefix_refl _)) (by decide)

end Daemon
end Ipbench
