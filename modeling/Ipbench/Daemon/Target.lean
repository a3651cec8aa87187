import Ipbench.Daemon.Lifecycle

namespace Ipbench
namespace Daemon

open Foundation

/-!
# Stopping a target

In target mode START forks.  The parent, process zero of the session, runs the
test in the plugin's `start`, which returns after `SIGUSR1`; the child reads on
and sends that signal when it meets STOP.  The child has a place only for one
line besides HELP and STATUS.  A line without a word makes it fall back into
the loop of `run`, where STOP is unknown and where it can fork again; any other
word makes it marshall by itself.  In both cases the first process never
receives its signal.  RUN can also be reached without a SETUP, and then the
handler of the signal is not installed: STOP ends the first process instead of
its test.
-/

/-- The session after START: process zero runs the test and process one reads. -/
def Session.testing (handler : Bool) : Session where
  reader := .reading .child
  testers := 1
  handler := handler

/-- The session in RUN, before the test. -/
structure Session.Ready (session : Session) : Prop where
  reading : session.reader = .reading .run
  idle : session.testers = 0

/-- A line whose word is a given one. -/
def Commands (options : Options) (word : Text) (input : SessionInput) : Prop :=
  ∃ line, input.lineIn = some line ∧ ¬ CommonOpt line ∧
    options.tables.matchWord line = some word

/-- HELP or STATUS, answered without an exception. -/
def AnsweredInPlace (input : SessionInput) : Prop :=
  (∃ line, input.lineIn = some line ∧ CommonOpt line) ∧ input.writable = true

/-- The processes that marshalled, in order. -/
def marshalls (events : List SessionEvent) : List Nat :=
  events.filterMap fun event =>
    match event with
    | .marshall process => some process
    | _ => none

/-- The shunt's `setup` has been called. -/
def SetUpCalled (trace : List SessionEvent) : Prop :=
  ∃ arguments result, .pluginSetup (.target arguments) result ∈ trace

/-- What a session does with START, the lines after it, and the first STOP: the
STOP signals process zero, which marshalls, once over the whole session, and
nobody marshalls before. -/
structure StoppedOnce (options : Options) (pids : Nat → Nat)
    (earlier : List (Nat × SessionInput)) (start : Nat × SessionInput)
    (before : List (Nat × SessionInput)) (stop : Nat × SessionInput)
    (after : List (Nat × SessionInput)) : Prop where
  signalled : .stop 0 ∈ ((sessionMachine options pids).step
    ((sessionMachine options pids).run Session.start (earlier ++ start :: before)).1 stop).2
  once : marshalls ((sessionMachine options pids).run Session.start
    (earlier ++ start :: (before ++ stop :: after))).2 = [0]
  notBefore : marshalls ((sessionMachine options pids).run Session.start
    (earlier ++ start :: before)).2 = []

theorem marshalls_append (first second : List SessionEvent) :
    marshalls (first ++ second) = marshalls first ++ marshalls second :=
  List.filterMap_append

/-- A call of the plugin's `marshall`. -/
def Marshalling : SessionEvent → Prop
  | .marshall _ => True
  | _ => False

theorem marshalling_unrelated : Unrelated Marshalling :=
  ⟨fun _ => id, id, fun _ _ => id, id⟩

theorem marshalls_of_free {events : List SessionEvent} (free : Free Marshalling events) :
    marshalls events = [] := by
  apply List.filterMap_eq_nil_iff.mpr
  intro event member
  have other := free event member
  cases event with
  | marshall process => exact False.elim (other trivial)
  | _ => rfl

theorem marshalls_marshall (input : SessionInput) (process : Nat) :
    marshalls (marshall input process).2 = [process] := by
  rcases marshall_events marshalling_unrelated (fun _ => id) input process with
    ⟨rest, events, free⟩
  rw [events]
  exact congrArg (List.cons process) (marshalls_of_free free)

/-- The signal of STOP reaches the handler, and the last tester goes on. -/
theorem Session.step_stopped (options : Options) (pids : Nat → Nat) (status : Nat)
    {session : Session} {phase : Phase} (reading : session.reader = .reading phase)
    (installed : session.handler = true) (input : SessionInput)
    (stopped : (handle options pids status session.testers phase input).1 = .stopped) :
    session.step options pids status input =
      ({  reader := (resume input (session.testers - 1)).1
          testers := session.testers - 1
          handler := true },
        (handle options pids status session.testers phase input).2 ++
          (resume input (session.testers - 1)).2) := by
  unfold Session.step
  rw [reading]
  dsimp only
  rw [stopped, installed, Bool.true_or]
  rfl

theorem Session.step_lost (options : Options) (pids : Nat → Nat) (status : Nat)
    {session : Session} {phase : Phase} (reading : session.reader = .reading phase)
    (missing : session.handler = false) (input : SessionInput) {process : Nat}
    (stopped : handle options pids status session.testers phase input =
      (.stopped, [.stop process])) :
    session.step options pids status input =
      ({ reader := .exited, testers := session.testers - 1, handler := false },
        [.stop process]) := by
  unfold Session.step
  rw [reading]
  dsimp only
  rw [stopped, missing]
  rfl

theorem Session.step_forked (options : Options) (pids : Nat → Nat) (status : Nat)
    {session : Session} {phase : Phase} (reading : session.reader = .reading phase)
    (input : SessionInput)
    (forked : (handle options pids status session.testers phase input).1 = .forked) :
    session.step options pids status input =
      ({  reader := .reading .child
          testers := session.testers + 1
          handler := session.handler ||
            (handle options pids status session.testers phase input).2.any installsHandler },
        (handle options pids status session.testers phase input).2) := by
  unfold Session.step
  rw [reading]
  dsimp only
  rw [forked]

theorem ne_of_matchWord {options : Options} {line word text : Text}
    (matched : options.tables.matchWord line = some word) (other : ¬ word <+: text) :
    line ≠ text := by
  rintro rfl
  exact other (CharTables.matchWord_isPrefix matched)

/-- START leads from RUN to the state in which the test is running. -/
theorem step_start {options : Options} (target : options.target = true) (pids : Nat → Nat)
    (status : Nat) {session : Session} (ready : session.Ready) {input : SessionInput}
    (starts : Commands options "START".toList input) :
    session.step options pids status input = (Session.testing session.handler, [.start 0]) := by
  rcases starts with ⟨line, read, common, start⟩
  have abort : line ≠ "ABORT".toList := ne_of_matchWord start (by decide)
  have quit : line ≠ "QUIT".toList := ne_of_matchWord start (by decide)
  have handled : handle options pids status session.testers .run input = (.forked, [.start 0]) := by
    rw [ready.idle, handle_line options pids status 0 .run read common, dispatch, run, leaving,
      if_neg abort, if_neg quit, if_pos start, if_pos target]
    rfl
  rw [Session.step_forked options pids status ready.reading input (congrArg Prod.fst handled),
    handled, ready.idle]
  exact congrArg (fun handler => (Session.testing handler, [SessionEvent.start 0]))
    (Bool.or_false session.handler)

/-! ## The child -/

/-- What the child's line does while process zero runs the test. -/
inductive ChildStep (options : Options) (handler : Bool) (input : SessionInput)
    (result : Session × List SessionEvent) : Prop where
  | answers (fine : AnsweredInPlace input) (same : result.1 = Session.testing handler)
      (silent : Free Marshalling result.2)
  | stops (stop : Commands options "STOP".toList input) (found : input.kills.found = true)
      (installed : handler = true)
      (same : result = ({ reader := (resume input 0).1, testers := 0, handler := true },
        .stop 0 :: (resume input 0).2))
  | kills (stop : Commands options "STOP".toList input) (found : input.kills.found = true)
      (missing : handler = false)
      (same : result = ({ reader := .exited, testers := 0, handler := false }, [.stop 0]))
  | orphaned (stop : Commands options "STOP".toList input) (missing : input.kills.found = false)
      (quiet : result.2 = [])
  | strays (other : ¬ AnsweredInPlace input) (noStop : ¬ Commands options "STOP".toList input)
      (late : result.1.reader = .reading .run ∨ ∀ phase, result.1.reader ≠ .reading phase)
      (waiting : 0 < result.1.testers)

/-- Process zero has lost its reader: whoever reads will signal another one. -/
def Session.Strayed (session : Session) : Prop :=
  (session.reader = .reading .run ∧ 0 < session.testers) ∨
    (session.reader = .reading .child ∧ 1 < session.testers) ∨
    ∀ phase, session.reader ≠ .reading phase

/-- A child that is gone leaves process zero waiting. -/
private theorem childStep_of_ended {options : Options} {handler : Bool} {pids : Nat → Nat}
    {status : Nat} {input : SessionInput}
    (ended : (handle options pids status 1 .child input).1.Ended)
    (other : ¬ AnsweredInPlace input) (noStop : ¬ Commands options "STOP".toList input) :
    ChildStep options handler input ((Session.testing handler).step options pids status input) := by
  rw [Session.step_reading options pids status
    (show (Session.testing handler).reader = .reading .child from rfl) input ended.plain]
  exact .strays other noStop
    (Or.inr fun _ reading => Outcome.not_ended_of_reading reading ended) Nat.one_pos

/-- STOP signals the tester, if it is there, and the signal ends one without the handler. -/
private theorem childStep_of_stop {options : Options} {handler : Bool} {pids : Nat → Nat}
    {status : Nat} {input : SessionInput} (stops : Commands options "STOP".toList input)
    (handled : handle options pids status 1 .child input =
      if input.kills.found then (.stopped, [.stop 0]) else (.raised, [])) :
    ChildStep options handler input ((Session.testing handler).step options pids status input) := by
  have reading : (Session.testing handler).reader = .reading .child := rfl
  cases found : input.kills.found with
  | false =>
      rw [found] at handled
      have raised : (handle options pids status 1 .child input).1 = .raised :=
        congrArg Prod.fst handled
      rw [Session.step_reading options pids status reading input
        (Outcome.ended_raised raised).plain]
      exact .orphaned stops found (congrArg Prod.snd handled)
  | true =>
      rw [found] at handled
      have stopped : handle options pids status 1 .child input = (.stopped, [.stop 0]) := handled
      cases handler with
      | true =>
          rw [Session.step_stopped options pids status reading rfl input
            (congrArg Prod.fst stopped)]
          refine .stops stops found rfl ?_
          change (_, (handle options pids status 1 .child input).2 ++ _) = _
          rw [stopped]
          rfl
      | false =>
          rw [Session.step_lost options pids status reading rfl input stopped]
          exact .kills stops found rfl rfl

/-- The words of the child. -/
private theorem childStep_of_line {options : Options} {handler : Bool} {pids : Nat → Nat}
    {status : Nat} {input : SessionInput} {line : Text} (read : input.lineIn = some line)
    (common : ¬ CommonOpt line)
    (handled : handle options pids status 1 .child input = child options (pids 0) 1 input line) :
    ChildStep options handler input ((Session.testing handler).step options pids status input) := by
  have reading : (Session.testing handler).reader = .reading .child := rfl
  have other : ¬ AnsweredInPlace input := by
    rintro ⟨⟨same, found, isCommon⟩, _⟩
    rw [read] at found
    cases found
    exact common isCommon
  have notStop : ∀ word, options.tables.matchWord line = word →
      word ≠ some "STOP".toList → ¬ Commands options "STOP".toList input := by
    rintro word matched different ⟨same, found, _, stop⟩
    rw [read] at found
    cases found
    exact different (matched.symm.trans stop)
  rw [child] at handled
  by_cases abort : line = "ABORT".toList
  · rw [if_pos abort] at handled
    apply childStep_of_ended
    · rw [handled]
      cases input.kills.found with
      | true => trivial
      | false => trivial
    · exact other
    · exact notStop _ rfl fun stop => ne_of_matchWord stop (by decide) abort
  rw [if_neg abort] at handled
  by_cases quit : line = "QUIT".toList
  · rw [if_pos quit] at handled
    apply childStep_of_ended
    · rw [handled]
      exact (error_spec input .closing _ 0).1
    · exact other
    · exact notStop _ rfl fun stop => ne_of_matchWord stop (by decide) quit
  rw [if_neg quit] at handled
  cases matched : options.tables.matchWord line with
  | none =>
      rw [matched] at handled
      have noStop := notStop _ matched (by decide)
      rcases answer_cases input [strStatus .syntaxError []] (.reading .run, []) 0 with
        ⟨_, reader, _⟩ | ⟨_, raised, _⟩
      · have reader' : (handle options pids status 1 .child input).1 = .reading .run := by
          rw [handled]
          exact reader
        rw [Session.step_reading options pids status reading input
          (Outcome.plain_reading reader')]
        exact .strays other noStop (Or.inl reader') Nat.one_pos
      · apply childStep_of_ended
        · rw [handled]
          exact Outcome.ended_raised raised
        · exact other
        · exact noStop
  | some cmd =>
      rw [matched] at handled
      dsimp only at handled
      by_cases stop : cmd = "STOP".toList
      · rw [if_pos stop] at handled
        exact childStep_of_stop ⟨line, read, common, matched.trans (congrArg some stop)⟩ handled
      · rw [if_neg stop] at handled
        apply childStep_of_ended
        · rw [handled]
          exact marshall_ended input 1
        · exact other
        · exact notStop _ matched fun same => stop (Option.some.inj same)

theorem step_testing (options : Options) (handler : Bool) (pids : Nat → Nat) (status : Nat)
    (input : SessionInput) :
    ChildStep options handler input ((Session.testing handler).step options pids status input) := by
  have reading : (Session.testing handler).reader = .reading .child := rfl
  cases handle_read options pids status 1 .child input with
  | undecodable unread raised =>
      apply childStep_of_ended
      · rw [raised]
        trivial
      · rintro ⟨⟨other, found, _⟩, _⟩
        rw [unread] at found
        cases found
      · rintro ⟨other, found, _⟩
        rw [unread] at found
        cases found
  | common line read common texts answered =>
      cases written : input.writable with
      | true =>
          rw [answer, if_pos written] at answered
          rw [Session.step_reading options pids status reading input
            (Outcome.plain_reading (congrArg Prod.fst answered))]
          have silent : (texts.map SessionEvent.sent ++ []).any installsHandler = false := by
            rw [List.append_nil, List.any_map]
            exact List.any_eq_false.mpr fun _ _ impossible => Bool.false_ne_true impossible
          refine .answers ⟨⟨line, read, common⟩, written⟩ ?_ ?_
          · change Session.mk (handle options pids status 1 .child input).1 1 (handler ||
              (handle options pids status 1 .child input).2.any installsHandler) = _
            rw [answered, silent, Bool.or_false]
            rfl
          · change Free Marshalling (handle options pids status 1 .child input).2
            rw [answered]
            exact (free_sent marshalling_unrelated texts).append free_nil
      | false =>
          apply childStep_of_ended
          · rw [answered, answer, written]
            trivial
          · rintro ⟨_, fine⟩
            rw [written] at fine
            cases fine
          · rintro ⟨other, found, noCommon, _⟩
            rw [read] at found
            cases found
            exact noCommon common
  | passes line read other handled => exact childStep_of_line read other handled

/-! ## Who is signalled -/

/-- A signal to one of the chosen testers. -/
def Stopping (chosen : Nat → Prop) : SessionEvent → Prop
  | .stop process => chosen process
  | _ => False

theorem stopping_unrelated (chosen : Nat → Prop) : Unrelated (Stopping chosen) :=
  ⟨fun _ => id, id, fun _ _ => id, id⟩

theorem free_leaving {kind : SessionEvent → Prop} (unrelated : Unrelated kind)
    {status pid : Nat} {input : SessionInput} {line : Text} {rest : Outcome × List SessionEvent}
    (free : Free kind rest.2) : Free kind (leaving status pid input line rest).2 := by
  unfold leaving
  split
  · exact free_abort unrelated status pid input.kills
  · split
    · exact free_error unrelated input _ _
    · exact free

theorem free_handle {kind : SessionEvent → Prop} (unrelated : Unrelated kind)
    {options : Options} {pids : Nat → Nat} {status process : Nat} {phase : Phase}
    {input : SessionInput}
    (free : ∀ line, Free kind (dispatch options pids status process phase input line).2) :
    Free kind (handle options pids status process phase input).2 := by
  cases handle_read options pids status process phase input with
  | undecodable _ raised =>
      rw [raised]
      exact free_nil
  | common _ _ _ texts answered =>
      rw [answered]
      exact free_answer unrelated free_nil
  | passes line _ _ handled =>
      rw [handled]
      exact free line

theorem free_early {kind : SessionEvent → Prop} (unrelated : Unrelated kind)
    (running : ∀ pid, ¬ kind (.running pid))
    (loading : ∀ name loaded, ¬ kind (.loadPlugin name loaded))
    (preparing : ∀ arguments result, ¬ kind (.pluginSetup arguments result))
    {options : Options} {pids : Nat → Nat} {status process : Nat} {phase : Phase}
    {input : SessionInput} (early : phase.Early) :
    Free kind (handle options pids status process phase input).2 := by
  apply free_handle unrelated
  intro line
  cases phase with
  | listen =>
      apply free_leaving unrelated
      split
      · split
        · exact free_error unrelated input _ _
        · exact free_answer unrelated (free_cons (running _) free_nil)
      · exact free_answer unrelated free_nil
  | setup =>
      apply free_leaving unrelated
      split
      · exact free_answer unrelated free_nil
      · split
        · split
          · exact free_cons (loading _ _) (free_failed unrelated input free_nil _)
          · exact free_cons (loading _ _) (free_answer unrelated free_nil)
        · exact free_answer unrelated free_nil
  | loaded =>
      apply free_leaving unrelated
      split
      · exact free_answer unrelated free_nil
      · split
        · exact free_nil
        · split
          · split
            · exact free_nil
            · apply free_cons (preparing _ _)
              split
              · exact free_failed unrelated input free_nil _
              · exact free_answer unrelated free_nil
          · exact free_answer unrelated free_nil
  | run => exact False.elim early
  | child => exact False.elim early

section Signals

variable {chosen : Nat → Prop} {options : Options} {pids : Nat → Nat} {status process : Nat}
  {input : SessionInput}

theorem free_stopping_marshall : Free (Stopping chosen) (marshall input process).2 :=
  free_marshall (stopping_unrelated chosen) (fun _ => id) input id

theorem free_stopping_resume : Free (Stopping chosen) (resume input process).2 := by
  unfold resume
  split
  · exact free_failed (stopping_unrelated chosen) input (free_cons id free_nil) _
  · exact free_stopping_marshall

theorem free_stopping_run :
    Free (Stopping chosen) (handle options pids status process .run input).2 := by
  apply free_handle (stopping_unrelated chosen)
  intro line
  apply free_leaving (stopping_unrelated chosen)
  split
  · apply free_cons id
    split
    · exact free_nil
    · split
      · exact free_failed (stopping_unrelated chosen) input free_nil _
      · exact free_stopping_marshall
  · exact free_answer (stopping_unrelated chosen) free_nil

theorem free_stopping_child (others : ¬ chosen (process - 1)) :
    Free (Stopping chosen) (handle options pids status process .child input).2 := by
  apply free_handle (stopping_unrelated chosen)
  intro line
  change Free _ (child options (pids (process - 1)) process input line).2
  unfold child
  split
  · exact free_cons id free_nil
  · split
    · exact free_error (stopping_unrelated chosen) input _ _
    · split
      · exact free_answer (stopping_unrelated chosen) free_nil
      · split
        · split
          · exact free_cons others free_nil
          · exact free_nil
        · exact free_stopping_marshall

end Signals

/-- Once process zero has lost its reader it is never signalled. -/
theorem strayed_step (options : Options) (pids : Nat → Nat) (status : Nat)
    {session : Session} (strayed : session.Strayed) (input : SessionInput) :
    (session.step options pids status input).1.Strayed ∧
      .stop 0 ∉ (session.step options pids status input).2 := by
  rcases strayed with ⟨reading, waiting⟩ | ⟨reading, waiting⟩ | gone
  · have step := handle_lifecycle options pids status session.testers .run input
    have free : Free (Stopping (· = 0))
      (handle options pids status session.testers .run input).2 := free_stopping_run
    have silent : .stop 0 ∉ (handle options pids status session.testers .run input).2 :=
      fun member => free _ member rfl
    cases step with
    | stays reader _ =>
        rw [Session.step_reading options pids status reading input (Outcome.plain_reading reader)]
        exact ⟨Or.inl ⟨reader, waiting⟩, silent⟩
    | forks _ forked =>
        rw [Session.step_forked options pids status reading input forked]
        exact ⟨Or.inr (Or.inl ⟨rfl, Nat.succ_lt_succ waiting⟩), silent⟩
    | ends ended _ =>
        rw [Session.step_reading options pids status reading input ended.plain]
        exact ⟨Or.inr (Or.inr fun _ reading => Outcome.not_ended_of_reading reading ended), silent⟩
    | hello from_ _ _ => cases from_
    | loads from_ _ _ _ => cases from_
    | prepares from_ _ _ _ _ _ => cases from_
    | skips from_ _ _ => cases from_
    | returns from_ _ => cases from_
    | stops from_ _ => cases from_
  · have step := handle_lifecycle options pids status session.testers .child input
    have free : Free (Stopping (· = 0))
        (handle options pids status session.testers .child input).2 :=
      free_stopping_child (Nat.sub_ne_zero_of_lt waiting)
    have silent : .stop 0 ∉ (handle options pids status session.testers .child input).2 :=
      fun member => free _ member rfl
    cases step with
    | stays reader _ =>
        rw [Session.step_reading options pids status reading input (Outcome.plain_reading reader)]
        exact ⟨Or.inr (Or.inl ⟨reader, waiting⟩), silent⟩
    | returns _ reader =>
        rw [Session.step_reading options pids status reading input (Outcome.plain_reading reader)]
        exact ⟨Or.inl ⟨reader, Nat.zero_lt_of_lt waiting⟩, silent⟩
    | ends ended _ =>
        rw [Session.step_reading options pids status reading input ended.plain]
        exact ⟨Or.inr (Or.inr fun _ reading => Outcome.not_ended_of_reading reading ended), silent⟩
    | stops _ stopped =>
        have late : Free (Stopping (· = 0)) (resume input (session.testers - 1)).2 :=
          free_stopping_resume
        unfold Session.step
        rw [reading]
        dsimp only
        rw [stopped]
        dsimp only
        split
        · refine ⟨Or.inr (Or.inr fun _ reading => ?_), fun member =>
            (free.append late) _ member rfl⟩
          exact Outcome.not_ended_of_reading reading (resume_ended input (session.testers - 1))
        · exact ⟨Or.inr (Or.inr fun _ impossible => by cases impossible), silent⟩
    | hello from_ _ _ => cases from_
    | loads from_ _ _ _ => cases from_
    | prepares from_ _ _ _ _ _ => cases from_
    | skips from_ _ _ => cases from_
    | forks from_ _ => cases from_
  · rw [Session.step_gone options pids status gone]
    exact ⟨Or.inr (Or.inr gone), List.not_mem_nil⟩

/-! ## From START to STOP -/

theorem not_commands_of_answered {options : Options} {word : Text} {input : SessionInput}
    (answered : AnsweredInPlace input) : ¬ Commands options word input := by
  rintro ⟨line, read, other, _⟩
  rcases answered with ⟨⟨same, alsoRead, common⟩, _⟩
  rw [read] at alsoRead
  cases alsoRead
  exact other common

/-- As long as everything is answered in place the test goes on. -/
theorem testing_run (options : Options) (handler : Bool) (pids : Nat → Nat)
    {arrivals : List (Nat × SessionInput)}
    (answered : ∀ arrival ∈ arrivals, AnsweredInPlace arrival.2) :
    ((sessionMachine options pids).run (Session.testing handler) arrivals).1 =
        Session.testing handler ∧
      Free Marshalling
        ((sessionMachine options pids).run (Session.testing handler) arrivals).2 := by
  induction arrivals with
  | nil => exact ⟨rfl, free_nil⟩
  | cons arrival rest inductionHypothesis =>
      have here := answered arrival List.mem_cons_self
      have later := inductionHypothesis fun other member =>
        answered other (List.mem_cons_of_mem _ member)
      rw [Machine.run]
      cases step_testing options handler pids arrival.1 arrival.2 with
      | answers _ same silent =>
          have next : ((sessionMachine options pids).step
            (Session.testing handler) arrival).1 = Session.testing handler := same
          dsimp only
          rw [next]
          exact ⟨later.1, silent.append later.2⟩
      | stops stop _ _ _ => exact False.elim (not_commands_of_answered here stop)
      | kills stop _ _ _ => exact False.elim (not_commands_of_answered here stop)
      | orphaned stop _ _ => exact False.elim (not_commands_of_answered here stop)
      | strays other _ _ _ => exact False.elim (other here)

theorem strayed_run (options : Options) (pids : Nat → Nat)
    (arrivals : List (Nat × SessionInput)) {session : Session} (strayed : session.Strayed) :
    ((sessionMachine options pids).run session arrivals).1.Strayed := by
  induction arrivals generalizing session with
  | nil => exact strayed
  | cons arrival rest inductionHypothesis =>
      exact inductionHypothesis (strayed_step options pids arrival.1 strayed arrival.2).1

/-- The first line that is neither answered in place nor STOP takes the reader
away from process zero. -/
theorem testing_strays (options : Options) (handler : Bool) (pids : Nat → Nat)
    {arrivals : List (Nat × SessionInput)}
    (noStop : ∀ arrival ∈ arrivals, ¬ Commands options "STOP".toList arrival.2)
    (other : ¬ ∀ arrival ∈ arrivals, AnsweredInPlace arrival.2) :
    ((sessionMachine options pids).run (Session.testing handler) arrivals).1.Strayed := by
  induction arrivals with
  | nil => exact False.elim (other fun _ impossible => absurd impossible List.not_mem_nil)
  | cons arrival rest inductionHypothesis =>
      rw [Machine.run]
      dsimp only
      cases step_testing options handler pids arrival.1 arrival.2 with
      | answers fine same _ =>
          have next : ((sessionMachine options pids).step
            (Session.testing handler) arrival).1 = Session.testing handler := same
          rw [next]
          apply inductionHypothesis
          · exact fun later member => noStop later (List.mem_cons_of_mem _ member)
          · intro answered
            exact other (List.forall_mem_cons.mpr ⟨fine, answered⟩)
      | stops stop _ _ _ => exact False.elim (noStop arrival List.mem_cons_self stop)
      | kills stop _ _ _ => exact False.elim (noStop arrival List.mem_cons_self stop)
      | orphaned stop _ _ => exact False.elim (noStop arrival List.mem_cons_self stop)
      | strays _ _ late waiting =>
          apply strayed_run
          rcases late with run | gone
          · exact Or.inl ⟨run, waiting⟩
          · exact Or.inr (Or.inr gone)

theorem ended_run (options : Options) (pids : Nat → Nat)
    (arrivals : List (Nat × SessionInput)) {session : Session} (ended : session.reader.Ended) :
    ((sessionMachine options pids).run session arrivals).2 = [] := by
  induction arrivals with
  | nil => rfl
  | cons arrival rest inductionHypothesis =>
      have same : (sessionMachine options pids).step session arrival = (session, []) :=
        Session.step_ended options pids arrival.1 ended arrival.2
      rw [Machine.run, same]
      exact inductionHypothesis

/-- STOP ends a test that is running.  The tester marshalls if the handler is
installed, unless the plugin's `start` reports a failure. -/
theorem step_stop (options : Options) (handler : Bool) (pids : Nat → Nat)
    {stop : Nat × SessionInput} (stops : Commands options "STOP".toList stop.2)
    (found : stop.2.kills.found = true) :
    ∃ next rest, (sessionMachine options pids).step (Session.testing handler) stop =
        (next, .stop 0 :: rest) ∧ next.reader.Ended ∧
      marshalls (.stop 0 :: rest) =
        if handler = true ∧ stop.2.plugin.start = 0 then [0] else [] := by
  cases step_testing options handler pids stop.1 stop.2 with
  | answers fine _ _ => exact False.elim (not_commands_of_answered fine stops)
  | strays _ noStop _ _ => exact False.elim (noStop stops)
  | orphaned _ missing _ =>
      rw [found] at missing
      cases missing
  | kills _ _ missing same =>
      refine ⟨_, _, same, trivial, ?_⟩
      have noMarshall : ¬ (handler = true ∧ stop.2.plugin.start = 0) :=
        fun both => Bool.false_ne_true (missing.symm.trans both.1)
      rw [if_neg noMarshall]
      rfl
  | stops _ _ installed same =>
      refine ⟨_, _, same, resume_ended stop.2 0, ?_⟩
      change marshalls (resume stop.2 0).2 = _
      unfold resume shuntStart
      by_cases succeeded : stop.2.plugin.start = 0
      · have both : handler = true ∧ stop.2.plugin.start = 0 := ⟨installed, succeeded⟩
        rw [if_pos both, if_neg (not_not_intro succeeded)]
        exact marshalls_marshall stop.2 0
      · have noMarshall : ¬ (handler = true ∧ stop.2.plugin.start = 0) :=
          fun both => succeeded both.2
        rw [if_neg noMarshall, if_pos succeeded]
        exact marshalls_of_free
          (free_failed marshalling_unrelated stop.2 (free_cons id free_nil) _)

theorem step_orphaned (options : Options) (handler : Bool) (pids : Nat → Nat)
    {stop : Nat × SessionInput} (stops : Commands options "STOP".toList stop.2)
    (missing : stop.2.kills.found = false) :
    ((sessionMachine options pids).step (Session.testing handler) stop).2 = [] := by
  cases step_testing options handler pids stop.1 stop.2 with
  | answers fine _ _ => exact False.elim (not_commands_of_answered fine stops)
  | strays _ noStop _ _ => exact False.elim (noStop stops)
  | orphaned _ _ quiet => exact quiet
  | kills _ found _ _ =>
      rw [missing] at found
      cases found
  | stops _ found _ _ =>
      rw [missing] at found
      cases found

/-! ## Up to START -/

/-- An event of the target's `setup`. -/
abbrev Installing (event : SessionEvent) : Prop :=
  installsHandler event = true

theorem installing_unrelated : Unrelated Installing :=
  ⟨fun _ => Bool.false_ne_true, Bool.false_ne_true, fun _ _ => Bool.false_ne_true,
    Bool.false_ne_true⟩

theorem any_installs_of_free {events : List SessionEvent} (free : Free Installing events) :
    events.any installsHandler = false :=
  List.any_eq_false.mpr free

theorem any_installs_iff {trace : List SessionEvent} :
    trace.any installsHandler = true ↔ SetUpCalled trace := by
  rw [List.any_eq_true]
  constructor
  · rintro ⟨event, member, installs⟩
    cases event with
    | pluginSetup arguments result =>
        cases arguments with
        | target args => exact ⟨args, result, member⟩
        | client _ _ _ => cases installs
    | _ => cases installs
  · rintro ⟨arguments, result, member⟩
    exact ⟨_, member, rfl⟩

theorem installing_resume (input : SessionInput) (process : Nat) :
    Free Installing (resume input process).2 := by
  unfold resume
  split
  · have other : ¬ Installing (.killChild process) := Bool.false_ne_true
    exact free_failed installing_unrelated input (free_cons other free_nil) _
  · exact free_marshall installing_unrelated (fun _ => Bool.false_ne_true) input
      Bool.false_ne_true

/-- The handler is installed by the events, and by nothing else. -/
theorem handler_step (options : Options) (pids : Nat → Nat) (status : Nat) (session : Session)
    (input : SessionInput) :
    (session.step options pids status input).1.handler =
      (session.handler || (session.step options pids status input).2.any installsHandler) := by
  have resumed := any_installs_of_free (installing_resume input (session.testers - 1))
  unfold Session.step
  split
  · dsimp only
    split
    · rfl
    · split
      · rw [List.any_append, resumed, Bool.or_false]
      · rfl
    · rfl
  · exact (Bool.or_false session.handler).symm

theorem child_silent (options : Options) (ppid process : Nat) (input : SessionInput)
    (line : Text) :
    (child options ppid process input line).1.Ended ∨
      Free Marshalling (child options ppid process input line).2 := by
  unfold child
  split
  · exact Or.inr (free_cons id free_nil)
  · split
    · exact Or.inr (free_error marshalling_unrelated input _ _)
    · split
      · exact Or.inr (free_answer marshalling_unrelated free_nil)
      · split
        · split
          · exact Or.inr (free_cons id free_nil)
          · exact Or.inr free_nil
        · exact Or.inl (marshall_ended input process)

/-- In target mode a line that leaves a reader makes nobody marshall. -/
theorem handle_silent {options : Options} (target : options.target = true) (pids : Nat → Nat)
    (status process : Nat) (phase : Phase) (input : SessionInput) :
    (handle options pids status process phase input).1.Ended ∨
      Free Marshalling (handle options pids status process phase input).2 := by
  by_cases early : phase.Early
  · exact Or.inr (free_early marshalling_unrelated (fun _ => id) (fun _ _ => id) (fun _ _ => id)
      early)
  cases handle_read options pids status process phase input with
  | undecodable _ raised =>
      rw [raised]
      exact Or.inr free_nil
  | common _ _ _ texts answered =>
      rw [answered]
      exact Or.inr (free_answer marshalling_unrelated free_nil)
  | passes line _ _ handled =>
      rw [handled]
      cases phase with
      | listen => exact False.elim (early trivial)
      | setup => exact False.elim (early trivial)
      | loaded => exact False.elim (early trivial)
      | child => exact child_silent options (pids (process - 1)) process input line
      | run =>
          refine Or.inr (free_leaving marshalling_unrelated ?_)
          rw [if_pos target]
          split
          · exact free_cons id free_nil
          · exact free_answer marshalling_unrelated free_nil

/-- A session so far: SETUP has installed the handler, or nobody has, and as long
as somebody reads no process has marshalled. -/
structure Underway (session : Session) (trace : List SessionEvent) : Prop where
  handler : session.handler = trace.any installsHandler
  silent : ∀ phase, session.reader = .reading phase → marshalls trace = []

theorem underway_step {options : Options} (target : options.target = true) (pids : Nat → Nat)
    (status : Nat) {session : Session} {trace : List SessionEvent}
    (underway : Underway session trace) (input : SessionInput) :
    Underway (session.step options pids status input).1
      (trace ++ (session.step options pids status input).2) where
  handler := by
    rw [handler_step, underway.handler, List.any_append]
  silent := by
    intro next
    by_cases gone : ∀ phase, session.reader ≠ .reading phase
    · rw [Session.step_gone options pids status gone]
      exact fun reading => False.elim (gone next reading)
    push Not at gone
    rcases gone with ⟨phase, reading⟩
    rw [marshalls_append, underway.silent phase reading, List.nil_append]
    have quiet := handle_silent target pids status session.testers phase input
    unfold Session.step
    rw [reading]
    dsimp only
    generalize handle options pids status session.testers phase input = result at quiet ⊢
    rcases result with ⟨outcome, events⟩
    intro reads
    cases outcome with
    | stopped =>
        dsimp only at reads
        split at reads
        · exact False.elim
            (Outcome.not_ended_of_reading reads (resume_ended input (session.testers - 1)))
        · cases reads
    | forked => exact marshalls_of_free (quiet.resolve_left id)
    | reading later => exact marshalls_of_free (quiet.resolve_left id)
    | finished => cases reads
    | raised => cases reads
    | killed => cases reads
    | exited => cases reads

theorem underway_start : Underway Session.start [] where
  handler := rfl
  silent := fun _ _ => rfl

theorem underway_run {options : Options} (target : options.target = true) (pids : Nat → Nat)
    (arrivals : List (Nat × SessionInput)) :
    Underway ((sessionMachine options pids).run Session.start arrivals).1
      ((sessionMachine options pids).run Session.start arrivals).2 := by
  have preserved : ∀ session trace arrival, Underway session trace → True →
      Underway ((sessionMachine options pids).step session arrival).1
        (trace ++ ((sessionMachine options pids).step session arrival).2) :=
    fun _ _ arrival underway _ => underway_step target pids arrival.1 underway arrival.2
  exact (sessionMachine options pids).run_invariant preserved underway_start
    ((sessionMachine options pids).along_true _ _ _)

section Runs

variable {options : Options} (pids : Nat → Nat) {earlier before : List (Nat × SessionInput)}
  {start stop : Nat × SessionInput}

/-- The handler that the session in RUN has. -/
abbrev installed (options : Options) (pids : Nat → Nat) (earlier : List (Nat × SessionInput)) :
    Bool :=
  ((sessionMachine options pids).run Session.start earlier).1.handler

/-- START is followed by the run of a session that is testing. -/
theorem run_started (target : options.target = true)
    (ready : ((sessionMachine options pids).run Session.start earlier).1.Ready)
    (starts : Commands options "START".toList start.2) (arrivals : List (Nat × SessionInput)) :
    (sessionMachine options pids).run Session.start (earlier ++ start :: arrivals) =
      (((sessionMachine options pids).run (Session.testing (installed options pids earlier))
          arrivals).1,
        ((sessionMachine options pids).run Session.start earlier).2 ++ .start 0 ::
          ((sessionMachine options pids).run (Session.testing (installed options pids earlier))
            arrivals).2) := by
  have first : (sessionMachine options pids).step
      ((sessionMachine options pids).run Session.start earlier).1 start =
        (Session.testing (installed options pids earlier), [.start 0]) :=
    step_start target pids start.1 ready starts
  rw [Machine.run_append, Machine.run_cons_of_step first]
  rfl

theorem marshalls_started (target : options.target = true)
    (ready : ((sessionMachine options pids).run Session.start earlier).1.Ready)
    (starts : Commands options "START".toList start.2) (arrivals : List (Nat × SessionInput)) :
    marshalls ((sessionMachine options pids).run Session.start (earlier ++ start :: arrivals)).2 =
      marshalls ((sessionMachine options pids).run
        (Session.testing (installed options pids earlier)) arrivals).2 := by
  rw [run_started pids target ready starts, marshalls_append,
    (underway_run target pids earlier).silent .run ready.reading, List.nil_append]
  rfl

/-- The events of a run whose lines before STOP are answered in place. -/
theorem marshalls_run (handler : Bool) (answered : ∀ arrival ∈ before, AnsweredInPlace arrival.2)
    (stops : Commands options "STOP".toList stop.2) (found : stop.2.kills.found = true)
    (after : List (Nat × SessionInput)) :
    marshalls ((sessionMachine options pids).run (Session.testing handler)
        (before ++ stop :: after)).2 =
      if handler = true ∧ stop.2.plugin.start = 0 then [0] else [] := by
  rcases testing_run options handler pids answered with ⟨same, silent⟩
  rcases step_stop options handler pids stops found with ⟨next, rest, step, ended, marshalled⟩
  rw [Machine.run_append, same, Machine.run_cons_of_step step,
    ended_run options pids after ended, List.append_nil, marshalls_append,
    marshalls_of_free silent, List.nil_append, marshalled]

/-- STOP stops the test and only the test, exactly when a SETUP was performed
before START, every line between START and STOP is a HELP or STATUS that could
be answered, the test process exists at STOP and the plugin's `start` returns
without an error. -/
theorem stoppedOnce_iff (target : options.target = true)
    (ready : ((sessionMachine options pids).run Session.start earlier).1.Ready)
    (starts : Commands options "START".toList start.2)
    (first : ∀ arrival ∈ before, ¬ Commands options "STOP".toList arrival.2)
    (stops : Commands options "STOP".toList stop.2) (after : List (Nat × SessionInput)) :
    StoppedOnce options pids earlier start before stop after ↔
      SetUpCalled ((sessionMachine options pids).run Session.start earlier).2 ∧
        (∀ arrival ∈ before, AnsweredInPlace arrival.2) ∧
          stop.2.kills.found = true ∧ stop.2.plugin.start = 0 := by
  have handler : installed options pids earlier = true ↔
      SetUpCalled ((sessionMachine options pids).run Session.start earlier).2 := by
    rw [installed, (underway_run target pids earlier).handler]
    exact any_installs_iff
  constructor
  · intro stopped
    have signalled := stopped.signalled
    rw [run_started pids target ready starts] at signalled
    have answered : ∀ arrival ∈ before, AnsweredInPlace arrival.2 := by
      by_contra other
      have strayed := testing_strays options (installed options pids earlier) pids first other
      exact (strayed_step options pids stop.1 strayed stop.2).2 signalled
    have found : stop.2.kills.found = true := by
      by_contra missing
      dsimp only at signalled
      rw [(testing_run options (installed options pids earlier) pids answered).1,
        step_orphaned options _ pids stops (Bool.eq_false_iff.mpr missing)] at signalled
      cases signalled
    have once := stopped.once
    rw [marshalls_started pids target ready starts,
      marshalls_run pids _ answered stops found after] at once
    by_cases both : installed options pids earlier = true ∧ stop.2.plugin.start = 0
    · exact ⟨handler.mp both.1, answered, found, both.2⟩
    · rw [if_neg both] at once
      cases once
  · rintro ⟨called, answered, found, succeeded⟩
    have both : installed options pids earlier = true ∧ stop.2.plugin.start = 0 :=
      ⟨handler.mpr called, succeeded⟩
    rcases testing_run options (installed options pids earlier) pids answered with ⟨same, silent⟩
    constructor
    · rw [run_started pids target ready starts, same]
      rcases step_stop options (installed options pids earlier) pids stops found with
        ⟨next, rest, step, _⟩
      rw [step]
      exact List.mem_cons_self
    · rw [marshalls_started pids target ready starts,
        marshalls_run pids _ answered stops found after, if_pos both]
    · rw [marshalls_started pids target ready starts]
      exact marshalls_of_free silent

end Runs

/-- A target daemon whose interpreter knows ASCII. -/
def targetOptions : Options where
  target := true
  tables := asciiTables

theorem commands_textInput {options : Options} {text : String} {line word : Text}
    (stripped : strip text.toList = line) (other : ¬ CommonOpt line)
    (matched : options.tables.matchWord line = some word) :
    Commands options word (textInput text) :=
  ⟨line, congrArg some stripped, other, matched⟩

/-- The lines of a target's session up to RUN. -/
def targetSetUp : List (Nat × SessionInput) :=
  [(0, textInput "HELLO"), (8, textInput "LOAD dummy"), (8, textInput "SETUP args::''")]

theorem stoppedOnce_iff_status :
    StoppedOnce targetOptions (fun _ => 8) targetSetUp (8, textInput "START")
      [(8, textInput "STATUS")] (8, textInput "STOP") [] := by
  refine (stoppedOnce_iff (fun _ => 8) rfl ⟨by decide, by decide⟩ ?_ ?_ ?_ []).mpr
    ⟨⟨[], 0, by decide⟩, ?_, rfl, rfl⟩
  · exact commands_textInput rfl (by decide) (by decide)
  · intro arrival member
    rw [List.mem_singleton.mp member]
    exact not_commands_of_answered ⟨⟨_, rfl, by decide⟩, rfl⟩
  · exact commands_textInput rfl (by decide) (by decide)
  · intro arrival member
    rw [List.mem_singleton.mp member]
    exact ⟨⟨_, rfl, by decide⟩, rfl⟩

/-- After a blank line STOP stops nobody, and after an unknown word the child
marshalls while the test is still running.  When RUN was reached without a
SETUP, STOP ends the test's process and nobody marshalls. -/
theorem blankLine_keepsTest :
    (Commands targetOptions "STOP".toList (textInput "STOP") ∧
      ¬ StoppedOnce targetOptions (fun _ => 8) targetSetUp (8, textInput "START")
        [(8, textInput "")] (8, textInput "STOP") []) ∧
      ¬ StoppedOnce targetOptions (fun _ => 8) targetSetUp (8, textInput "START")
        [(8, textInput "GO")] (8, textInput "STOP") [] ∧
      ¬ StoppedOnce targetOptions (fun _ => 8)
        [(0, textInput "HELLO"), (8, textInput "LOAD dummy"), (8, textInput "GO a::b")]
        (8, textInput "START") [] (8, textInput "STOP") [] := by
  refine ⟨⟨commands_textInput rfl (by decide) (by decide), fun stopped => ?_⟩,
    fun stopped => ?_, fun stopped => ?_⟩
  · exact absurd stopped.once (by decide)
  · exact absurd stopped.notBefore (by decide)
  · exact absurd stopped.once (by decide)

end Daemon
end Ipbench
