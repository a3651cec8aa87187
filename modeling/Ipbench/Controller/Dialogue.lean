import Ipbench.Controller.Cleanup
import Ipbench.Controller.StatusRoundTrip
import Ipbench.Daemon.LoadCommand

namespace Ipbench
namespace Controller

open Foundation Attempt

/-!
# The dialogue of the controller with a daemon

The controller sends one command at a time and waits for its reply.  The daemon reads the
command as a line of its session and writes the reply, so the two programs together are a
closed system: the answers that `bringUp` meets are what the session writes, and the lines
that the session reads are what `bringUp` sends.

Nobody else writes to `TestStatus` between HELLO and the end of the test.  The flag before
HELLO is arbitrary, and so are the results of the plugin.
-/

/-! ## The daemon at the other end -/

/-- The daemon on a connection: its mode, the numbers of its processes, its plugin and what
a signal finds. -/
structure Peer where
  options : Daemon.Options
  pids : Nat → Nat
  plugin : Daemon.PluginResults
  kills : Daemon.KillResults

/-- The session of the connection, and the flag. -/
structure DaemonState where
  session : Daemon.Session
  status : Nat
deriving DecidableEq, Repr

def DaemonState.fresh (status : Nat) : DaemonState where
  session := .start
  status := status

namespace Peer

/-- A command of the controller, as the daemon meets it. -/
def input (peer : Peer) (cmd : Text) : Daemon.SessionInput where
  received := received (sendCommand cmd)
  plugin := peer.plugin
  kills := peer.kills
  writable := true

/-- The daemon reads commands and writes bytes. -/
def machine (peer : Peer) : Machine DaemonState Text UInt8 where
  step state cmd :=
    let stepped := state.session.step peer.options peer.pids state.status (peer.input cmd)
    ({ session := stepped.1, status := Daemon.statusAfter state.status stepped.2 },
      wire stepped.2)

/-- The bytes that a command is answered with, behind some commands of the connection. -/
def reply (peer : Peer) (status : Nat) (earlier : List Text) (cmd : Text) : List UInt8 :=
  (peer.machine.step (peer.machine.run (.fresh status) earlier).1 cmd).2

end Peer

/-- The version line that `handle` writes to a new connection. -/
def versionLine : List UInt8 :=
  encode (Daemon.strStatus .version [])

def helloCommand : Text :=
  "HELLO".toList

def loadCommand (testName : Text) : Text :=
  "LOAD ".toList ++ testName

/-- What starts the test and has its result sent: a target is also told to stop. -/
def testCommands (target : Bool) : List Text :=
  if target then ["START".toList, "STOP".toList] else ["START".toList]

/-- The answers of a daemon that can be reached.  Every `recv` of a reply finds up to 1024
bytes of what the daemon wrote; the result is cut in any way. -/
def Peer.answers (peer : Peer) (status : Nat) (testName line : Text) (cuts : List Nat) : Answers :=
  let hello := [helloCommand]
  let load := hello ++ [loadCommand testName]
  let setup := load ++ [line]
  { plugin := true
    connects := true
    greeting := some (versionLine.take 1024)
    regreeting := some (versionLine.take 1024)
    hello := some ((peer.reply status [] helloCommand).take 1024)
    load := some ((peer.reply status hello (loadCommand testName)).take 1024)
    setup := some ((peer.reply status load line).take 1024)
    start := true
    stop := true
    result :=
      { stream := (peer.machine.run (peer.machine.run (.fresh status) setup).1
          (testCommands peer.options.target)).2
        cuts := cuts }
    unmarshalls := true
    quit := true }

/-- The commands that are sent to an entry on its last connection. -/
def sentTo (entry : Nat) (events : List MainEvent) : List Text :=
  events.foldl
    (fun commands event =>
      match event with
      | .opened other => if other = entry then [] else commands
      | .sent other cmd => if other = entry then commands ++ [cmd] else commands
      | _ => commands)
    []

/-! ## One command at the daemon -/

section Step

variable (peer : Peer) {state : DaemonState} {phase : Daemon.Phase} {cmd line : Text}

/-- What the daemon makes of a line that it reads in a phase. -/
def Peer.dispatched (state : DaemonState) (phase : Daemon.Phase) (cmd line : Text) :
    Daemon.Outcome × List Daemon.SessionEvent :=
  Daemon.dispatch peer.options peer.pids state.status state.session.testers phase (peer.input cmd)
    line

/-- A line that goes to the handler of its phase, which stays in one process. -/
theorem Peer.step_line (reading : state.session.reader = .reading phase)
    (read : (peer.input cmd).lineIn = some line) (other : ¬ Daemon.CommonOpt line)
    (plain : (peer.dispatched state phase cmd line).1.Plain) :
    peer.machine.step state cmd =
      ({ session :=
           { reader := (peer.dispatched state phase cmd line).1
             testers := state.session.testers
             handler := state.session.handler ||
               (peer.dispatched state phase cmd line).2.any Daemon.installsHandler }
         status := Daemon.statusAfter state.status (peer.dispatched state phase cmd line).2 },
        wire (peer.dispatched state phase cmd line).2) := by
  have handled := Daemon.handle_line peer.options peer.pids state.status state.session.testers
    phase read other
  have stepped := Daemon.Session.step_reading peer.options peer.pids state.status reading
    (peer.input cmd) (by rw [handled]; exact plain)
  rw [handled] at stepped
  unfold machine
  dsimp only
  rw [stepped]
  rfl

/-- A session whose reader is gone answers nothing. -/
theorem Peer.step_ended (ended : state.session.reader.Ended) :
    peer.machine.step state cmd = (state, []) := by
  unfold machine
  dsimp only
  rw [Daemon.Session.step_ended peer.options peer.pids state.status ended]
  rfl

/-- A word of the controller is read as it was sent. -/
theorem Peer.lineIn_word {first last : Char} (single : '\n' ∉ cmd) (starts : cmd.head? = some first)
    (ends : cmd.getLast? = some last) (firstVisible : isSpace first = false)
    (lastVisible : isSpace last = false) : (peer.input cmd).lineIn = some cmd := by
  have whole : (peer.input cmd).received = received (sendCommand cmd ++ []) := by
    rw [List.append_nil]
    rfl
  exact lineIn_sendCommand single starts ends firstVisible lastVisible whole

end Step

/-! ## The states of the dialogue -/

/-- A session that reads in a phase, with one process. -/
def DaemonState.at (phase : Daemon.Phase) (handler : Bool) (status : Nat) : DaemonState where
  session := { reader := .reading phase, testers := 0, handler := handler }
  status := status

/-- A session that has answered its last line. -/
def DaemonState.over (handler : Bool) (status : Nat) : DaemonState where
  session := { reader := .finished, testers := 0, handler := handler }
  status := status

/-- A session that an exception has ended. -/
def DaemonState.lost (handler : Bool) (status : Nat) : DaemonState where
  session := { reader := .raised, testers := 0, handler := handler }
  status := status

/-- What a failure of the shunt leaves and sends. -/
def DaemonState.refused (handler : Bool) (status : Nat) :
    Daemon.ShuntError → DaemonState × List UInt8
  | .runtime detail => (.over handler 0, encode (Daemon.strStatus .localError [strip detail]))
  | .undecodable => (.lost handler status, [])

section Commands

variable (peer : Peer) (status : Nat)

theorem Peer.step_hello :
    peer.machine.step (.fresh status) helloCommand =
      if 0 < status then
        (.over false status, encode (Daemon.strStatus .unavailable ["Already Running".toList]))
      else
        (.at .setup false (peer.pids 0),
          encode (Daemon.strStatus .ok ["Ready to go".toList])) := by
  have read : (peer.input helloCommand).lineIn = some helloCommand :=
    peer.lineIn_word (by decide) rfl rfl (by decide) (by decide)
  have other : ¬ Daemon.CommonOpt helloCommand := by decide
  have handled : peer.dispatched (.fresh status) .listen helloCommand helloCommand =
      if 0 < status then
        (.finished, [.sent (Daemon.strStatus .unavailable ["Already Running".toList])])
      else
        (.reading .setup,
          [.sent (Daemon.strStatus .ok ["Ready to go".toList]), .running (peer.pids 0)]) := by
    unfold dispatched Daemon.dispatch
    dsimp only
    rw [Daemon.listen, Daemon.leaving, if_neg (by decide), if_neg (by decide), if_pos (by decide)]
    rfl
  by_cases busy : 0 < status
  · rw [if_pos busy] at handled ⊢
    rw [peer.step_line rfl read other (by rw [handled]; exact Daemon.Outcome.Ended.plain trivial),
      handled]
    simp [wire, DaemonState.over, DaemonState.fresh, Daemon.statusAfter, Daemon.statusWrite,
      Daemon.Session.start]
  · rw [if_neg busy] at handled ⊢
    rw [peer.step_line rfl read other (by rw [handled]; exact Daemon.Outcome.plain_reading rfl),
      handled]
    simp [wire, DaemonState.at, DaemonState.fresh, Daemon.statusAfter, Daemon.statusWrite,
      Daemon.Session.start]

/-- The line LOAD for a name that the pattern of `setup` accepts the front of. -/
structure LoadText (tables : CharTables) (testName : Text) : Prop where
  line : '\n' ∉ testName
  requested : Daemon.requestedName tables testName ≠ none

theorem lineIn_load {testName : Text} (single : '\n' ∉ testName) :
    (peer.input (loadCommand testName)).lineIn = some (strip (Daemon.loadLine testName)) := by
  have whole : (peer.input (loadCommand testName)).received =
      .line (Daemon.loadLine testName) := by
    have single : '\n' ∉ loadCommand testName := by
      intro member
      rcases List.mem_append.mp member with literal | inside
      · exact absurd literal (by decide)
      · exact single inside
    have read := readline_encode single []
    rw [List.append_nil] at read
    change received (sendCommand (loadCommand testName)) = _
    rw [received, sendCommand, read, decodeStrict_encode]
    rfl
  rw [Daemon.SessionInput.lineIn, Daemon.SessionInput.readline, whole]
  rfl

/-- Where LOAD leads, with what the daemon does. -/
def Peer.loading (peer : Peer) (name : Text) : Daemon.Outcome × List Daemon.SessionEvent :=
  match peer.plugin.load with
  | some (.runtime detail) =>
      (.finished,
        [.loadPlugin name false, .notRunning,
          .sent (Daemon.strStatus .localError [strip detail])])
  | some .undecodable => (.raised, [.loadPlugin name false])
  | none => (.reading .loaded, [.loadPlugin name true, .sent (Daemon.strStatus .ok [])])

/-- LOAD keeps the flag when the plugin loads, and gives it back otherwise. -/
theorem Peer.step_load {testName : Text} (fine : LoadText peer.options.tables testName) :
    peer.machine.step (.at .setup false status) (loadCommand testName) =
      match peer.plugin.load with
      | some failure => DaemonState.refused false status failure
      | none => (.at .loaded false status, encode (Daemon.strStatus .ok [])) := by
  rcases Daemon.strip_loadLine testName with ⟨rest, line, _⟩
  rcases Option.ne_none_iff_exists'.mp fine.requested with ⟨arg, requested⟩
  rcases Option.map_eq_some_iff.mp requested with ⟨⟨cmd, arg⟩, matched, rfl⟩
  have read := lineIn_load peer fine.line
  -- No other word of the session begins with the letter.
  have different : ∀ {word : Text}, word.head? ≠ some 'L' →
      strip (Daemon.loadLine testName) ≠ word := by
    rintro word different rfl
    rw [line] at different
    exact different rfl
  have other : ¬ Daemon.CommonOpt (strip (Daemon.loadLine testName)) := by
    rw [Daemon.CommonOpt, line, matchNonspace, List.takeWhile_cons_of_pos (by decide)]
    rintro (help | state)
    · exact absurd (congrArg List.head? help) (by simp)
    · exact absurd (congrArg List.head? state) (by simp)
  have handled : peer.dispatched (.at .setup false status) .setup (loadCommand testName)
      (strip (Daemon.loadLine testName)) = peer.loading arg := by
    unfold dispatched Daemon.dispatch loading
    dsimp only
    rw [Daemon.setup, Daemon.leaving, if_neg (different (by decide)),
      if_neg (different (by decide)), matched]
    dsimp only
    rw [if_pos (Daemon.matchCommand_loadLine matched),
      show (peer.input (loadCommand testName)).plugin = peer.plugin from rfl]
    cases peer.plugin.load with
    | none => rfl
    | some failure =>
        cases failure with
        | runtime detail => rfl
        | undecodable => rfl
  cases loads : peer.plugin.load with
  | none =>
      rw [loading, loads] at handled
      rw [peer.step_line rfl read other (by rw [handled]; exact Daemon.Outcome.plain_reading rfl),
        handled]
      simp [wire, DaemonState.at, Daemon.statusAfter, Daemon.statusWrite]
  | some failure =>
      rw [loading, loads] at handled
      cases failure with
      | runtime detail =>
          rw [peer.step_line rfl read other
            (by rw [handled]; exact Daemon.Outcome.Ended.plain trivial), handled]
          simp [wire, DaemonState.at, DaemonState.over, DaemonState.refused, Daemon.statusAfter,
            Daemon.statusWrite]
      | undecodable =>
          rw [peer.step_line rfl read other
            (by rw [handled]; exact Daemon.Outcome.Ended.plain trivial), handled]
          simp [wire, DaemonState.at, DaemonState.lost, DaemonState.refused, Daemon.statusAfter,
            Daemon.statusWrite]

/-- A SETUP line in quotes whose options are arguments of the plugin. -/
structure SetupText (options : Daemon.Options) (line body : Text)
    (arguments : Daemon.SetupArgs) : Prop where
  whole : line = "SETUP".toList ++ ' ' :: (body ++ ['"'])
  single : '\n' ∉ body
  bound : ∃ bound, Daemon.parseOptions options.tables (body ++ ['"']) = some bound ∧
    Daemon.setupArgs options bound = some arguments

/-- The module of a target installs the handler, and the module of a client has none. -/
theorem SetupText.installs {options : Daemon.Options} {line body : Text}
    {arguments : Daemon.SetupArgs} (fine : SetupText options line body arguments) (result : Int) :
    Daemon.installsHandler (.pluginSetup arguments result) = options.target := by
  rcases fine.bound with ⟨bound, _, called⟩
  unfold Daemon.setupArgs at called
  cases target : options.target with
  | true =>
      rw [target, if_pos rfl] at called
      rcases Option.map_eq_some_iff.mp called with ⟨args, _, rfl⟩
      rfl
  | false =>
      rw [target, if_neg Bool.false_ne_true] at called
      split at called
      · split at called
        · cases called
          rfl
        · cases called
      · cases called

/-- Where SETUP leads, with what the daemon does. -/
def Peer.settingUp (peer : Peer) (arguments : Daemon.SetupArgs) :
    Daemon.Outcome × List Daemon.SessionEvent :=
  match Daemon.shuntSetup peer.options peer.plugin with
  | some (.runtime detail) =>
      (.finished,
        [.pluginSetup arguments peer.plugin.setup, .notRunning,
          .sent (Daemon.strStatus .localError [strip detail])])
  | some .undecodable => (.raised, [.pluginSetup arguments peer.plugin.setup])
  | none =>
      (.reading .run,
        [.pluginSetup arguments peer.plugin.setup, .sent (Daemon.strStatus .ok [])])

/-- SETUP keeps the flag when the plugin is set up, and gives it back otherwise. -/
theorem Peer.step_setup {line body : Text} {arguments : Daemon.SetupArgs}
    (fine : SetupText peer.options line body arguments) :
    peer.machine.step (.at .loaded false status) line =
      match Daemon.shuntSetup peer.options peer.plugin with
      | some failure => DaemonState.refused peer.options.target status failure
      | none => (.at .run peer.options.target status, encode (Daemon.strStatus .ok [])) := by
  rcases fine.bound with ⟨bound, parsed, called⟩
  have quoted : '\n' ∉ body ++ ['"'] := by
    intro member
    rcases List.mem_append.mp member with inside | quote
    · exact fine.single inside
    · exact absurd quote (by decide)
  have single : '\n' ∉ line := by
    intro member
    rw [fine.whole] at member
    rcases List.mem_append.mp (show '\n' ∈ "SETUP ".toList ++ (body ++ ['"']) from member) with
      word | argument
    · exact absurd word (by decide)
    · exact quoted argument
  have last : line.getLast? = some '"' := by
    rw [fine.whole, ← List.cons_append, ← List.append_assoc]
    exact List.getLast?_concat
  have first : line.head? = some 'S' := by
    rw [fine.whole]
    rfl
  have read := peer.lineIn_word single first last (by decide) (by decide)
  have different : ∀ {word : Text}, word.head? ≠ some 'S' → line ≠ word := by
    rintro word different rfl
    exact different first
  have word : matchNonspace line = "SETUP".toList := by
    rw [fine.whole]
    rfl
  have other : ¬ Daemon.CommonOpt line := by
    rw [Daemon.CommonOpt, word]
    decide
  have letters : ∀ char ∈ "SETUP".toList, peer.options.tables.isWord char = true :=
    peer.options.tables.isWord_of_all (by decide)
  have visible : ∀ char ∈ body ++ ['"'], (char != '\n') = true := by
    intro char member
    exact bne_iff_ne.mpr fun same => quoted (same ▸ member)
  have matched := peer.options.tables.matchCommand_append letters (by decide) visible
    (List.append_ne_nil_of_right_ne_nil _ (by decide))
  have handled : peer.dispatched (.at .loaded false status) .loaded line line =
      peer.settingUp arguments := by
    unfold dispatched Daemon.dispatch settingUp
    dsimp only
    rw [Daemon.loaded, Daemon.leaving, if_neg (different (by decide)),
      if_neg (different (by decide)), fine.whole, matched]
    dsimp only
    rw [parsed]
    dsimp only
    rw [if_pos rfl, called]
    dsimp only
    rw [← fine.whole, show (peer.input line).plugin = peer.plugin from rfl]
    cases Daemon.shuntSetup peer.options peer.plugin with
    | none => rfl
    | some failure =>
        cases failure with
        | runtime detail => rfl
        | undecodable => rfl
  have installs := fine.installs peer.plugin.setup
  cases sets : Daemon.shuntSetup peer.options peer.plugin with
  | none =>
      rw [settingUp, sets] at handled
      rw [peer.step_line rfl read other (by rw [handled]; exact Daemon.Outcome.plain_reading rfl),
        handled]
      simp [wire, DaemonState.at, Daemon.statusAfter, Daemon.statusWrite, installs]
  | some failure =>
      rw [settingUp, sets] at handled
      cases failure with
      | runtime detail =>
          rw [peer.step_line rfl read other
            (by rw [handled]; exact Daemon.Outcome.Ended.plain trivial), handled]
          simp [wire, DaemonState.at, DaemonState.over, DaemonState.refused, Daemon.statusAfter,
            Daemon.statusWrite, installs]
      | undecodable =>
          rw [peer.step_line rfl read other
            (by rw [handled]; exact Daemon.Outcome.Ended.plain trivial), handled]
          simp [wire, DaemonState.at, DaemonState.lost, DaemonState.refused, Daemon.statusAfter,
            Daemon.statusWrite, installs]

end Commands

/-! ## Replies -/

/-- A status line that fits into one `recv` is taken apart as it was made. -/
theorem parseReply_status (tables : CharTables) {errCode : Daemon.StatusCode} {words : List Text}
    (fits : (encode (Daemon.strStatus errCode words)).length ≤ 1024)
    (next : ReturnCode → MainAttempt) :
    parseReply tables (some ((encode (Daemon.strStatus errCode words)).take 1024)) next =
      next
        { code := errCode.code
          str := errCode.text
          msg := strip ((message words).takeWhile fun char => char != ')') } := by
  rw [List.take_of_length_le fits]
  exact parseReply_encode (parse_strStatus tables errCode words) next

theorem greeted_version (tables : CharTables) (next : MainAttempt) :
    greeted tables (some (versionLine.take 1024)) next = next := by
  unfold greeted versionLine
  rw [parseReply_status tables (by decide)]
  exact if_neg (by decide)

/-- What a function of the shunt raises. -/
inductive Peer.Raises (peer : Peer) (failure : Daemon.ShuntError) : Prop
  | load (raised : peer.plugin.load = some failure)
  | setup (raised : Daemon.shuntSetup peer.options peer.plugin = some failure)
  | start (raised : Daemon.shuntStart peer.plugin = some failure)

/-- The errors of the plugin have texts, which fit into one `recv`. -/
def Peer.Short (peer : Peer) : Prop :=
  ∀ failure, peer.Raises failure → ∃ detail, failure = .runtime detail ∧
    (encode (Daemon.strStatus .localError [strip detail])).length ≤ 1024

/-- What happens before HELLO is sent. -/
def opening (config : RunConfig) (entry : Nat) : List MainEvent :=
  .opened entry ::
    if config.reset then [.sent entry "ABORT".toList, .opened entry] else []

section Connect

variable {config : RunConfig} {peer : Peer} {status : Nat} {testName line : Text}
  {cuts : List Nat}

theorem connect_opened (entry : Nat) (hostname : Text) :
    connect config entry hostname testName (peer.answers status testName line cuts) =
      emit (opening config entry ++ [.sent entry helloCommand])
        (parseReply config.tables (peer.answers status testName line cuts).hello fun hello =>
          if hello.code ≠ 200 then
            ipBenchError ("HELLO to ".toList ++ hostname ++ " failed (".toList ++ replyText hello)
          else
            emit [.accepted entry, .sent entry (loadCommand testName)]
              (parseReply config.tables (peer.answers status testName line cuts).load fun load =>
                if load.code = 421 then
                  ipBenchError ("LOAD to ".toList ++ hostname ++ " failed (".toList ++
                    load.msg ++ [')'])
                else if load.code ≠ 200 then ipBenchError "LOAD Failed".toList
                else done)) := by
  unfold connect
  rw [if_neg (show ¬ (peer.answers _ _ _ _).connects = false from Bool.noConfusion)]
  change emit _ (greeted config.tables (some (versionLine.take 1024)) _) = _
  rw [greeted_version]
  unfold opening
  cases config.reset with
  | false => rfl
  | true =>
      rw [if_pos rfl, if_pos rfl]
      change emit _ (Attempt.andThen (emit _ (greeted config.tables
        (some (versionLine.take 1024)) done)) _) = _
      rw [greeted_version]
      rfl

theorem connect_busy (entry : Nat) (hostname : Text) (busy : 0 < status) :
    connect config entry hostname testName (peer.answers status testName line cuts) =
      { events := opening config entry ++ [.sent entry helloCommand]
        halted := some (.python (.ipBenchError ("HELLO to ".toList ++ hostname ++
          " failed (".toList ++ "421 SERVICE NOT AVAILABLE)".toList))) } := by
  have hello : peer.reply status [] helloCommand =
      encode (Daemon.strStatus .unavailable ["Already Running".toList]) := by
    change (peer.machine.step (.fresh status) helloCommand).2 = _
    rw [peer.step_hello, if_pos busy]
  rw [connect_opened]
  change emit _ (parseReply _ (some ((peer.reply status [] helloCommand).take 1024)) _) = _
  rw [hello, parseReply_status config.tables (by decide)]
  dsimp only
  rw [if_pos (by decide)]
  unfold emit ipBenchError halt
  dsimp only
  rw [List.append_nil]
  rfl

theorem Peer.run_hello (peer : Peer) (free : status = 0) :
    (peer.machine.run (.fresh status) [helloCommand]).1 = .at .setup false (peer.pids 0) ∧
      peer.reply status [] helloCommand =
        encode (Daemon.strStatus .ok ["Ready to go".toList]) := by
  have stepped := peer.step_hello status
  rw [if_neg (by omega)] at stepped
  constructor
  · rw [Machine.run_cons_of_step stepped]
    rfl
  · change (peer.machine.step (.fresh status) helloCommand).2 = _
    rw [stepped]

/-- An idle daemon accepts, and loads the plugin or reports that it cannot. -/
theorem connect_free (entry : Nat) (hostname : Text) (free : status = 0)
    (short : peer.Short) (fine : LoadText peer.options.tables testName) :
    connect config entry hostname testName (peer.answers status testName line cuts) =
      { events := opening config entry ++
          [.sent entry helloCommand, .accepted entry, .sent entry (loadCommand testName)]
        halted :=
          if peer.plugin.load = none then none
          else some (.python (.ipBenchError "LOAD Failed".toList)) } := by
  rcases peer.run_hello free with ⟨reached, hello⟩
  have load : peer.reply status [helloCommand] (loadCommand testName) =
      match peer.plugin.load with
      | some failure => (DaemonState.refused false (peer.pids 0) failure).2
      | none => encode (Daemon.strStatus .ok []) := by
    unfold Peer.reply
    rw [reached, peer.step_load (peer.pids 0) fine]
    cases peer.plugin.load with
    | none => rfl
    | some failure => rfl
  rw [connect_opened]
  change emit _ (parseReply _ (some ((peer.reply status [] helloCommand).take 1024)) _) = _
  rw [hello, parseReply_status config.tables (by decide)]
  dsimp only
  rw [if_neg (by decide)]
  change emit _ (emit _ (parseReply _
    (some ((peer.reply status [helloCommand] (loadCommand testName)).take 1024)) _)) = _
  rw [load]
  cases loads : peer.plugin.load with
  | none =>
      dsimp only
      rw [parseReply_status config.tables (by decide)]
      dsimp only
      rw [if_neg (by decide), if_neg (by decide), if_pos rfl]
      simp [emit, done]
  | some failure =>
      rcases short failure (.load loads) with ⟨detail, rfl, fits⟩
      dsimp only [DaemonState.refused]
      rw [parseReply_status config.tables fits]
      dsimp only
      rw [if_neg (by decide), if_pos (by decide), if_neg (by simp)]
      simp [emit, halt, ipBenchError]

/-- The daemon before SETUP, when the plugin loads. -/
theorem Peer.run_load (peer : Peer) (free : status = 0)
    (fine : LoadText peer.options.tables testName) (loads : peer.plugin.load = none) :
    (peer.machine.run (.fresh status) [helloCommand, loadCommand testName]).1 =
      .at .loaded false (peer.pids 0) := by
  have loaded := peer.step_load (peer.pids 0) fine
  rw [loads] at loaded
  rw [show [helloCommand, loadCommand testName] = [helloCommand] ++ [loadCommand testName] from rfl,
    Machine.run_concat, (peer.run_hello free).1, loaded]

/-- The reply to SETUP of a daemon whose plugin is loaded. -/
theorem sendSetup_loaded (entry : Nat) (failure : Text) (free : status = 0)
    (short : peer.Short) (fine : LoadText peer.options.tables testName)
    (loads : peer.plugin.load = none) {body : Text} {arguments : Daemon.SetupArgs}
    (set : SetupText peer.options line body arguments) :
    sendSetup config entry line failure (peer.answers status testName line cuts) =
      { events := [.sent entry line]
        halted :=
          if peer.plugin.setup = -1 then
            some (.python (.ipBenchError (failure ++ "451 LOCAL PROCESSING ERROR)".toList)))
          else none } := by
  have setup : peer.reply status [helloCommand, loadCommand testName] line =
      match Daemon.shuntSetup peer.options peer.plugin with
      | some failure => (DaemonState.refused peer.options.target (peer.pids 0) failure).2
      | none => encode (Daemon.strStatus .ok []) := by
    unfold Peer.reply
    rw [peer.run_load free fine loads, peer.step_setup (peer.pids 0) set]
    cases Daemon.shuntSetup peer.options peer.plugin with
    | none => rfl
    | some failure => rfl
  unfold sendSetup
  change emit _ (parseReply _
    (some ((peer.reply status [helloCommand, loadCommand testName] line).take 1024)) _) = _
  rw [setup]
  by_cases fails : peer.plugin.setup = -1
  · have failed : ∃ failure, Daemon.shuntSetup peer.options peer.plugin = some failure :=
      ⟨_, if_pos fails⟩
    rcases failed with ⟨failure, failed⟩
    rcases short failure (.setup failed) with ⟨detail, rfl, fits⟩
    rw [failed]
    dsimp only [DaemonState.refused]
    rw [parseReply_status config.tables fits, if_pos fails]
    dsimp only
    rw [if_pos (by decide)]
    rfl
  · have succeeded : Daemon.shuntSetup peer.options peer.plugin = none := if_neg fails
    rw [succeeded]
    dsimp only
    rw [parseReply_status config.tables (by decide), if_neg fails]
    dsimp only
    rw [if_neg (by decide)]
    rfl

theorem Peer.run_setup (peer : Peer) (free : status = 0) (short : peer.Short)
    (fine : LoadText peer.options.tables testName) (loads : peer.plugin.load = none)
    {body : Text} {arguments : Daemon.SetupArgs}
    (set : SetupText peer.options line body arguments) :
    (peer.machine.run (.fresh status) [helloCommand, loadCommand testName, line]).1 =
      if peer.plugin.setup = -1 then .over peer.options.target 0
      else .at .run peer.options.target (peer.pids 0) := by
  rw [show [helloCommand, loadCommand testName, line] =
      [helloCommand, loadCommand testName] ++ [line] from rfl,
    Machine.run_concat, peer.run_load free fine loads, peer.step_setup (peer.pids 0) set]
  by_cases fails : peer.plugin.setup = -1
  · have failed : ∃ failure, Daemon.shuntSetup peer.options peer.plugin = some failure :=
      ⟨_, if_pos fails⟩
    rcases failed with ⟨failure, failed⟩
    rcases short failure (.setup failed) with ⟨detail, rfl, _⟩
    rw [failed, if_pos fails]
    rfl
  · have succeeded : Daemon.shuntSetup peer.options peer.plugin = none := if_neg fails
    rw [succeeded, if_neg fails]

end Connect

/-! ## Agreement -/

/-- The daemon after the commands that an attempt has sent to it. -/
def Peer.left (peer : Peer) (status entry : Nat) (attempt : MainAttempt) : DaemonState :=
  (peer.machine.run (.fresh status) (sentTo entry attempt.events)).1

/-- The two ends agree on how a daemon was brought up: the controller goes on exactly if the
daemon was idle and its plugin is loaded and set up, and then the session waits for START
and holds the flag.  Otherwise the controller has an error to report, and the session is
over and has left the flag as it was. -/
structure Agrees (peer : Peer) (status entry : Nat) (attempt : MainAttempt) : Prop where
  up : attempt.halted = none ↔
    status = 0 ∧ peer.plugin.load = none ∧ peer.plugin.setup ≠ -1
  accepted : .accepted entry ∈ attempt.events ↔ status = 0
  running : attempt.halted = none →
    peer.left status entry attempt = .at .run peer.options.target (peer.pids 0)
  unchanged : attempt.halted ≠ none →
    ∃ handler, peer.left status entry attempt = .over handler status
  reported : attempt.halted ≠ none →
    ∃ value, attempt.halted = some (.python (.ipBenchError value))

/-- The commands behind the opening of the last connection. -/
theorem sentTo_opening (config : RunConfig) (entry : Nat) (rest : List MainEvent) :
    sentTo entry (.created entry :: (opening config entry ++ rest)) = sentTo entry rest := by
  unfold sentTo opening
  cases config.reset with
  | false => simp
  | true => simp

theorem not_accepted_opening (config : RunConfig) (entry : Nat) :
    .accepted entry ∉ opening config entry := by
  unfold opening
  cases config.reset with
  | false => simp
  | true => simp

section Agreement

variable {config : RunConfig} {peer : Peer} {status : Nat} {testName line : Text}
  {cuts : List Nat}

/-- The two ends agree, for any command that a daemon is set up with. -/
theorem agrees_of_setup (entry : Nat) (hostname failure : Text) (short : peer.Short)
    (fine : LoadText peer.options.tables testName) {body : Text} {arguments : Daemon.SetupArgs}
    (set : SetupText peer.options line body arguments) :
    Agrees peer status entry
      (emit [.created entry]
        ((connect config entry hostname testName
            (peer.answers status testName line cuts)).andThen
          (sendSetup config entry line failure (peer.answers status testName line cuts)))) := by
  have plain := not_accepted_opening config entry
  by_cases busy : 0 < status
  · -- A busy daemon answers HELLO with an error and keeps the flag.
    have told := peer.step_hello status
    rw [if_pos busy] at told
    rw [connect_busy entry hostname busy, andThen_of_halted (by simp)]
    have left : peer.left status entry
        (emit [.created entry]
          { events := opening config entry ++ [.sent entry helloCommand]
            halted := some (.python (.ipBenchError ("HELLO to ".toList ++ hostname ++
              " failed (".toList ++ "421 SERVICE NOT AVAILABLE)".toList))) }) =
        .over false status := by
      unfold Peer.left emit
      dsimp only
      rw [List.singleton_append, sentTo_opening, sentTo]
      simp only [List.foldl_cons, List.foldl_nil, if_true, List.nil_append]
      rw [Machine.run_cons_of_step told, Machine.run_nil]
    refine ⟨?_, ?_, fun impossible => ?_, fun _ => ⟨_, left⟩,
      fun _ => ⟨_, rfl⟩⟩
    · exact iff_of_false (fun impossible => nomatch impossible) fun all => by omega
    · refine iff_of_false ?_ (by omega)
      simpa [emit] using plain
    · exact nomatch impossible
  · have free : status = 0 := by omega
    rw [connect_free entry hostname free short fine]
    cases loads : peer.plugin.load with
    | some failure =>
        -- The session is over, and the flag is given back.
        rcases short failure (.load loads) with ⟨detail, rfl, _⟩
        have stepped := peer.step_load (peer.pids 0) fine
        rw [loads] at stepped
        dsimp only [DaemonState.refused] at stepped
        rw [if_neg (by simp), andThen_of_halted (by simp)]
        have left : peer.left status entry
            (emit [.created entry]
              { events := opening config entry ++
                  [.sent entry helloCommand, .accepted entry, .sent entry (loadCommand testName)]
                halted := some (.python (.ipBenchError "LOAD Failed".toList)) }) =
            .over false status := by
          unfold Peer.left emit
          dsimp only
          rw [List.singleton_append, sentTo_opening, sentTo]
          simp only [List.foldl_cons, List.foldl_nil, if_true, List.nil_append,
            List.singleton_append]
          rw [show [helloCommand, loadCommand testName] =
            [helloCommand] ++ [loadCommand testName] from rfl, Machine.run_concat,
            (peer.run_hello free).1, stepped, free]
        refine ⟨?_, ?_, fun impossible => ?_, fun _ => ⟨_, left⟩, fun _ => ⟨_, rfl⟩⟩
        · exact iff_of_false (fun impossible => nomatch impossible) fun all => by
            rw [loads] at all
            exact nomatch all.2.1
        · exact iff_of_true (by simp [emit]) free
        · exact nomatch impossible
    | none =>
        rw [if_pos rfl, andThen_of_none rfl, sendSetup_loaded entry failure free short fine loads set]
        have left : ∀ halted, peer.left status entry
            (emit [.created entry]
              (emit (opening config entry ++
                  [.sent entry helloCommand, .accepted entry, .sent entry (loadCommand testName)])
                { events := [.sent entry line], halted := halted })) =
            if peer.plugin.setup = -1 then .over peer.options.target 0
            else .at .run peer.options.target (peer.pids 0) := by
          intro halted
          unfold Peer.left emit
          dsimp only
          rw [List.append_assoc, List.singleton_append, sentTo_opening, sentTo]
          simp only [List.foldl_cons, List.foldl_nil, if_true, List.nil_append,
            List.cons_append]
          exact peer.run_setup free short fine loads set
        have accepted : .accepted entry ∈ opening config entry ++
            [.sent entry helloCommand, .accepted entry, .sent entry (loadCommand testName)] ++
              [.sent entry line] := by
          simp
        by_cases fails : peer.plugin.setup = -1
        · rw [if_pos fails]
          refine ⟨?_, iff_of_true (List.mem_cons_of_mem _ accepted) free,
            (fun impossible => nomatch impossible), fun _ => ?_, fun _ => ⟨_, rfl⟩⟩
          · exact iff_of_false (fun impossible => nomatch impossible) fun all => all.2.2 fails
          · rw [left, if_pos fails, free]
            exact ⟨_, rfl⟩
        · rw [if_neg fails]
          refine ⟨iff_of_true rfl ⟨free, loads, fails⟩,
            iff_of_true (List.mem_cons_of_mem _ accepted) free, fun _ => ?_,
            fun impossible => absurd rfl impossible, fun impossible => absurd rfl impossible⟩
          rw [left, if_neg fails]

/-- What can be sent in the SETUP line of a client. -/
structure ClientLine (config : RunConfig) (record : ClientRecord) (target : Text) (port : Nat) :
    Prop where
  host : record.testTarget = some target
  hostText : TargetText target
  args : ArgsText record.testArgs
  number : (if record.testPort = 0 then config.defaultPort else record.testPort) = (port : Int)
  small : port < 2 ^ 31

/-- The command that a client is set up with. -/
def clientLine (record : ClientRecord) (target : Text) (port : Nat) : Text :=
  "SETUP".toList ++ ' ' :: (clientBody target port record.testArgs ++ ['"'])

theorem setupText_client {record : ClientRecord} {target : Text} {port : Nat}
    (fine : ClientLine config record target port) {options : Daemon.Options}
    (mode : options.target = false) :
    SetupText options (clientLine record target port) (clientBody target port record.testArgs)
      (.client target port record.testArgs) where
  whole := rfl
  single := single_clientBody fine.hostText port fine.args
  bound := by
    refine ⟨{ testTarget := some target, testPort := some (port : Int),
              testArgs := some record.testArgs }, ?_, ?_⟩
    · rw [← parseOptions_client options.tables fine.hostText port fine.args]
      unfold clientBody
      simp only [List.append_assoc, List.cons_append]
    · have small := fine.small
      rw [Daemon.setupArgs, mode, if_neg Bool.false_ne_true]
      exact if_pos (by omega)

theorem setupText_target {args : Text} (fine : ArgsText args) {options : Daemon.Options}
    (mode : options.target = true) :
    SetupText options (targetSetup args) ("args".toList ++ ':' :: ':' :: '"' :: args)
      (.target args) where
  whole := rfl
  single := by simp [fine.line]
  bound := by
    refine ⟨_, parseOptions_target options.tables fine, ?_⟩
    rw [Daemon.setupArgs, mode, if_pos rfl]
    rfl

/-- An entry whose answers are those of a daemon in the mode that it needs, with arguments
that can be sent. -/
inductive Meets (config : RunConfig) (peer : Peer) (status : Nat) (cuts : List Nat) :
    Entry → Prop
  | client (record : ClientRecord) (target : Text) (port : Nat)
      (mode : peer.options.target = false) (fine : ClientLine config record target port)
      (load : LoadText peer.options.tables config.test) :
      Meets config peer status cuts
        (.client record (peer.answers status config.test (clientLine record target port) cuts))
  | target (record : TargetRecord) (hostname : Text) (mode : peer.options.target = true)
      (named : record.hostname = some hostname) (fine : ArgsText record.testArgs)
      (load : LoadText peer.options.tables record.test) :
      Meets config peer status cuts
        (.target record (peer.answers status record.test (targetSetup record.testArgs) cuts))

/-- Whatever the flag and the plugin, the controller and the daemon agree on the result of
bringing it up. -/
theorem bringUp_agrees (config : RunConfig) {peer : Peer} (short : peer.Short) {status : Nat}
    {cuts : List Nat} {item : Entry} (meets : Meets config peer status cuts item)
    (entry : Nat) : Agrees peer status entry (bringUp config (item, entry)) := by
  cases meets with
  | client record target port mode fine load =>
      have made : clientSetup record.testTarget
          (some (if record.testPort = 0 then config.defaultPort else record.testPort))
          (some record.testArgs) = .ok (clientLine record target port) := by
        rw [fine.host, fine.number]
        exact clientSetup_body target port record.testArgs
      unfold bringUp
      dsimp only
      rw [made]
      exact agrees_of_setup entry record.hostname
        ("SETUP to ".toList ++ record.hostname ++ "failed (".toList) short load
        (setupText_client fine mode)
  | target record hostname mode named fine load =>
      unfold bringUp
      dsimp only
      rw [named]
      dsimp only
      rw [if_neg (show ¬ (peer.answers _ _ _ _).plugin = false from Bool.noConfusion)]
      exact agrees_of_setup entry hostname "SETUP Failed (".toList short load
        (setupText_target fine mode)

end Agreement

end Controller
end Ipbench
