import Ipbench.Controller.Dialogue
import Ipbench.Daemon.Target

namespace Ipbench
namespace Controller

open Foundation Attempt

/-!
# A whole test

When all daemons are up, `main` starts them, waits for the clients, stops the targets and
closes the connections.  Here the daemons of `Peer` take part in the whole run: what each
of them is left with is computed from the commands that `main` has sent to it.

A target writes nothing before it is told to stop, so the loop that waits for the clients
sees no data of a target.
-/

/-! ## The test at one daemon -/

section Start

variable (peer : Peer) (status : Nat)

/-- What the daemon has done and sent when the test is over.  Without data the handler of
MARSHALL raises an exception, and the flag stays. -/
def Peer.tested (peer : Peer) (status : Nat) : DaemonState × List UInt8 :=
  match Daemon.shuntStart peer.plugin with
  | some failure => DaemonState.refused peer.options.target status failure
  | none =>
      match peer.plugin.data with
      | none => (.lost peer.options.target status, [])
      | some data =>
          (.over peer.options.target 0, marshalled (decide (peer.plugin.marshall = 0)) data)

theorem lineIn_start : (peer.input "START".toList).lineIn = some "START".toList :=
  peer.lineIn_word (by decide) rfl rfl (by decide) (by decide)

theorem matchWord_start (tables : CharTables) :
    tables.matchWord "START".toList = some "START".toList := by
  have letters : ∀ char ∈ "START".toList, tables.isWord char = true :=
    tables.isWord_of_all (by decide)
  rw [CharTables.matchWord, List.takeWhile_eq_self_iff.mpr letters]
  rfl

theorem matchWord_stop (tables : CharTables) :
    tables.matchWord "STOP".toList = some "STOP".toList := by
  have letters : ∀ char ∈ "STOP".toList, tables.isWord char = true :=
    tables.isWord_of_all (by decide)
  rw [CharTables.matchWord, List.takeWhile_eq_self_iff.mpr letters]
  rfl

/-- The flag after MARSHALL is clear, unless there are no data. -/
theorem statusAfter_marshall {input : Daemon.SessionInput} (written : input.writable = true)
    {data : List UInt8} (pointed : input.plugin.data = some data) (process : Nat) :
    Daemon.statusAfter status (Daemon.marshall input process).2 = 0 ∧
      (Daemon.marshall input process).1 = .finished := by
  unfold Daemon.marshall Daemon.shuntMarshall Daemon.after Daemon.answer
  dsimp only
  rw [pointed]
  dsimp only
  rw [if_pos written]
  exact ⟨rfl, rfl⟩

theorem marshall_without_data {input : Daemon.SessionInput} (null : input.plugin.data = none)
    (process : Nat) : Daemon.marshall input process = (.raised, [.marshall process]) := by
  unfold Daemon.marshall Daemon.shuntMarshall Daemon.after
  dsimp only
  rw [null]
  rfl

/-- What a process makes of the end of `start`, as bytes and a flag. -/
theorem Peer.marshalled_end (cmd : Text) (process : Nat) (front : List Daemon.SessionEvent)
    (silent : wire front = []) (kept : Daemon.statusAfter status front = status)
    (succeeds : Daemon.shuntStart peer.plugin = none) :
    let ended := Daemon.marshall (peer.input cmd) process
    ({ session := { reader := ended.1, testers := 0, handler := peer.options.target },
       status := Daemon.statusAfter status (front ++ ended.2) : DaemonState },
      wire (front ++ ended.2)) = peer.tested status := by
  unfold Peer.tested
  rw [succeeds]
  dsimp only
  rw [Daemon.statusAfter_append, kept, show wire (front ++ _) = wire front ++ wire _ from
    List.flatMap_append, silent, List.nil_append]
  cases pointed : peer.plugin.data with
  | none =>
      rw [marshall_without_data pointed]
      rfl
  | some data =>
      have written : (peer.input cmd).writable = true := rfl
      rcases statusAfter_marshall status written pointed process with ⟨cleared, finished⟩
      rw [cleared, finished, wire_marshall written pointed process]
      rfl

/-- The test of a client: it runs while START is handled. -/
theorem Peer.step_start (mode : peer.options.target = false) :
    peer.machine.step (.at .run false status) "START".toList = peer.tested status := by
  have read := lineIn_start peer
  have other : ¬ Daemon.CommonOpt "START".toList := by decide
  have handled : peer.dispatched (.at .run false status) .run "START".toList "START".toList =
      Daemon.after [.start 0]
        (match Daemon.shuntStart peer.plugin with
          | some failure => Daemon.failed (peer.input "START".toList) [] failure
          | none => Daemon.marshall (peer.input "START".toList) 0) := by
    unfold Peer.dispatched Daemon.dispatch
    dsimp only
    rw [Daemon.run, Daemon.leaving, if_neg (by decide), if_neg (by decide),
      if_pos (matchWord_start peer.options.tables), mode]
    rfl
  cases started : Daemon.shuntStart peer.plugin with
  | some failure =>
      rw [started] at handled
      have plain : (peer.dispatched (.at .run false status) .run "START".toList
          "START".toList).1.Plain := by
        rw [handled]
        exact (Daemon.failed_ended _ [] failure).plain
      rw [peer.step_line rfl read other plain, handled, Peer.tested, started]
      cases failure with
      | runtime detail =>
          simp [wire, DaemonState.at, DaemonState.over, DaemonState.refused, Daemon.after,
            Daemon.failed, Daemon.error, Daemon.answer, Daemon.statusAfter, Daemon.statusWrite,
            Peer.input, mode]
      | undecodable =>
          simp [wire, DaemonState.at, DaemonState.lost, DaemonState.refused, Daemon.after,
            Daemon.failed, Daemon.statusAfter, Daemon.statusWrite, mode]
  | none =>
      rw [started] at handled
      have plain : (peer.dispatched (.at .run false status) .run "START".toList
          "START".toList).1.Plain := by
        rw [handled]
        cases pointed : peer.plugin.data with
        | none =>
            rw [marshall_without_data pointed]
            exact Daemon.Outcome.Ended.plain trivial
        | some data =>
            have written : (peer.input "START".toList).writable = true := rfl
            change (Daemon.marshall (peer.input "START".toList) 0).1.Plain
            rw [(statusAfter_marshall status written pointed 0).2]
            exact Daemon.Outcome.Ended.plain trivial
      have ended := peer.marshalled_end status "START".toList 0 [.start 0] rfl rfl started
      rw [mode] at ended
      rw [peer.step_line rfl read other plain, handled, ← ended]
      have quiet : (Daemon.after [.start 0]
          (Daemon.marshall (peer.input "START".toList) 0)).2.any Daemon.installsHandler =
            false :=
        Daemon.any_installs_of_free (Daemon.free_cons Bool.false_ne_true
          (Daemon.free_marshall Daemon.installing_unrelated (fun _ => Bool.false_ne_true) _
            Bool.false_ne_true))
      rw [quiet]
      rfl

/-- A target forks at START: its first process is blocked in the plugin, and writes nothing. -/
theorem Peer.step_fork (mode : peer.options.target = true) :
    peer.machine.step (.at .run true status) "START".toList =
      ({ session := { reader := .reading .child, testers := 1, handler := true },
         status := status }, []) := by
  have handled : Daemon.handle peer.options peer.pids status 0 .run
      (peer.input "START".toList) = (.forked, [.start 0]) := by
    rw [Daemon.handle_line peer.options peer.pids status 0 .run (lineIn_start peer) (by decide),
      Daemon.dispatch, Daemon.run, Daemon.leaving, if_neg (by decide), if_neg (by decide),
      if_pos (matchWord_start peer.options.tables), mode]
    rfl
  unfold Peer.machine Daemon.Session.step DaemonState.at
  dsimp only
  rw [handled]
  rfl

/-- The result of a tester whose `start` has returned. -/
theorem resume_stop :
    Daemon.resume (peer.input "STOP".toList) 0 =
      match Daemon.shuntStart peer.plugin with
      | some (.runtime detail) =>
          (.finished, [.killChild 0, .notRunning,
            .sent (Daemon.strStatus .localError [strip detail])])
      | some .undecodable => (.raised, [])
      | none => Daemon.marshall (peer.input "STOP".toList) 0 := by
  unfold Daemon.resume
  change (match Daemon.shuntStart peer.plugin with
    | some failure => _
    | none => _) = _
  cases Daemon.shuntStart peer.plugin with
  | none => rfl
  | some failure =>
      cases failure with
      | runtime detail => rfl
      | undecodable => rfl

/-- At STOP the child ends the test, and the first process sends the result. -/
theorem Peer.step_stop (mode : peer.options.target = true) (found : peer.kills.found = true) :
    peer.machine.step
      { session := { reader := .reading .child, testers := 1, handler := true }
        status := status }
      "STOP".toList = peer.tested status := by
  have read : (peer.input "STOP".toList).lineIn = some "STOP".toList :=
    peer.lineIn_word (by decide) rfl rfl (by decide) (by decide)
  have handled : Daemon.handle peer.options peer.pids status 1 .child
      (peer.input "STOP".toList) = (.stopped, [.stop 0]) := by
    rw [Daemon.handle_line peer.options peer.pids status 1 .child read (by decide),
      Daemon.dispatch, Daemon.child, if_neg (by decide), if_neg (by decide),
      matchWord_stop peer.options.tables]
    exact if_pos found
  have resumed := resume_stop peer
  cases started : Daemon.shuntStart peer.plugin with
  | some failure =>
      rw [started] at resumed
      unfold Peer.machine Daemon.Session.step
      dsimp only
      rw [handled]
      dsimp only
      rw [Bool.true_or, if_pos rfl, show 1 - 1 = 0 from rfl, resumed, Peer.tested, started, mode]
      cases failure with
      | runtime detail =>
          simp [wire, DaemonState.over, DaemonState.refused, Daemon.statusAfter,
            Daemon.statusWrite]
      | undecodable =>
          simp [wire, DaemonState.lost, DaemonState.refused, Daemon.statusAfter,
            Daemon.statusWrite]
  | none =>
      rw [started] at resumed
      have ended := peer.marshalled_end status "STOP".toList 0 [.stop 0] rfl rfl started
      rw [mode] at ended
      unfold Peer.machine Daemon.Session.step
      dsimp only
      rw [handled]
      dsimp only
      rw [Bool.true_or, if_pos rfl, show 1 - 1 = 0 from rfl, resumed]
      exact ended

/-- The test at a daemon that is up, in either mode. -/
theorem Peer.run_test (found : peer.kills.found = true) :
    peer.machine.run (.at .run peer.options.target status) (testCommands peer.options.target) =
      peer.tested status := by
  unfold testCommands
  cases mode : peer.options.target with
  | false =>
      rw [if_neg Bool.false_ne_true, Machine.run, Machine.run_nil, peer.step_start status mode]
      simp
  | true =>
      rw [if_pos rfl, Machine.run_cons_of_step (peer.step_fork status mode), Machine.run,
        Machine.run_nil, peer.step_stop status mode found]
      simp

end Start

/-! ## The result at the controller -/

/-- The result of a peer whose plugin works arrives with its two lines in the first two calls
of `recv`, and an error with at least its code. -/
structure Arrives (peer : Peer) (cuts : List Nat) : Prop where
  data : ∀ payload, peer.plugin.start = 0 → peer.plugin.data = some payload →
    HeadersArrive { stream := marshalled (decide (peer.plugin.marshall = 0)) payload, cuts := cuts }
      (decide (peer.plugin.marshall = 0)) payload.length
  code : peer.plugin.start ≠ 0 → 4 ≤ max 1 (cuts.headD 128)

theorem find_newline_split (text : Text) :
    (∃ before after, text = before ++ '\n' :: after ∧ '\n' ∉ before) ∨ '\n' ∉ text := by
  by_cases member : '\n' ∈ text
  · rcases List.eq_append_cons_of_mem member with ⟨before, after, whole, absent⟩
    exact Or.inl ⟨before, after, whole, absent⟩
  · exact Or.inr member

/-- The code of an error is found wherever its line is cut behind it. -/
theorem statusText_code (rest : Text) :
    slice 0 3 (sliceTo (find '\n' ("451 ".toList ++ rest)) ("451 ".toList ++ rest)) =
      "451".toList := by
  rcases find_newline_split rest with ⟨before, after, rfl, absent⟩ | absent
  · have front : '\n' ∉ "451 ".toList ++ before := by
      rw [List.mem_append, not_or]
      exact ⟨by decide, absent⟩
    have found := find_append front after
    rw [List.append_assoc] at found
    rw [found, sliceTo_natCast, ← List.append_assoc, List.take_left]
    exact slice_middle [] "451".toList _ rfl rfl
  · have none : '\n' ∉ "451 ".toList ++ rest := by
      rw [List.mem_append, not_or]
      exact ⟨by decide, absent⟩
    rw [find_absent none, sliceTo_neg_one]
    cases rest with
    | nil => decide
    | cons char rest =>
        rw [List.dropLast_append_of_ne_nil (by simp)]
        exact slice_middle [] "451".toList (' ' :: (char :: rest).dropLast) rfl rfl

section Collect

variable {tables : CharTables} {cuts : List Nat} {fuel : Nat}

/-- What begins with the code of an error is an error of the controller. -/
theorem unmarshall_code {socket : Socket} {more : List UInt8}
    (arrived : (socket.recv 128).1 = encode "451 ".toList ++ more) :
    ∃ value, unmarshall tables fuel socket = .raised (.ipBenchError value) := by
  have ascii : Ascii "451 ".toList := by decide
  have decoded : decodeUtf8 (socket.recv 128).1 = "451 ".toList ++ decodeUtf8 more := by
    rw [arrived, decodeUtf8_append ascii]
  have number : tables.int (slice 0 3 (sliceTo (find '\n' (decodeUtf8 (socket.recv 128).1))
      (decodeUtf8 (socket.recv 128).1))) = some ((451 : Nat) : Int) := by
    rw [decoded, statusText_code]
    exact tables.int_decimalText 451
  rcases parseReturnCode_code number with ⟨status, parsed, same⟩
  refine ⟨"Test failed  : ".toList ++ status.msg, ?_⟩
  unfold unmarshall
  dsimp only
  rw [parsed]
  dsimp only
  rw [same, if_neg (by decide), if_neg (by decide)]

/-- The error of a daemon is an error of the controller. -/
theorem unmarshall_error {words : List Text} {stream : List UInt8}
    (sent : stream = encode (Daemon.strStatus .localError words))
    (code : 4 ≤ max 1 (cuts.headD 128)) :
    ∃ value, unmarshall tables fuel { stream := stream, cuts := cuts } =
      .raised (.ipBenchError value) := by
  have ascii : Ascii "451 ".toList := by decide
  have front : ∃ rest, stream = encode "451 ".toList ++ rest := by
    rw [sent, Daemon.strStatus]
    split
    · exact ⟨_, encode_append "451 ".toList "LOCAL PROCESSING ERROR\n".toList⟩
    · have whole : decimalText Daemon.StatusCode.localError.code ++ [' '] ++
          Daemon.StatusCode.localError.text ++ " (".toList ++ List.intercalate [' '] words ++
            ")\n".toList =
          "451 ".toList ++ ("LOCAL PROCESSING ERROR (".toList ++
            (List.intercalate [' '] words ++ ")\n".toList)) := by
        simp only [List.append_assoc]
        rfl
      rw [whole]
      exact ⟨_, encode_append _ _⟩
  rcases front with ⟨rest, rfl⟩
  generalize whole : Socket.mk (encode "451 ".toList ++ rest) cuts = socket
  have enough : (encode "451 ".toList).length ≤ socket.count 128 := by
    rw [encode_length ascii, Socket.count, ← whole]
    exact Nat.le_min.mpr ⟨by decide, code⟩
  have arrived : (socket.recv 128).1 = encode "451 ".toList ++
      rest.take (socket.count 128 - (encode "451 ".toList).length) := by
    rw [Socket.recv]
    dsimp only
    rw [← whole] at enough ⊢
    rw [List.take_append, List.take_of_length_le enough]
  exact unmarshall_code arrived

theorem unmarshall_closed :
    unmarshall tables fuel { stream := [], cuts := cuts } = .raised .valueError := by
  have nothing : (Socket.recv { stream := [], cuts := cuts } 128).1 = [] := List.take_nil
  have parsed : parseReturnCode tables (sliceTo (find '\n' (decodeUtf8 [])) (decodeUtf8 [])) =
      none := rfl
  unfold unmarshall
  dsimp only
  rw [nothing, parsed]

theorem unmarshall_data_arrives {valid : Bool} {payload : List UInt8}
    (arrive : HeadersArrive { stream := marshalled valid payload, cuts := cuts } valid
      payload.length) (enough : payload.length < fuel) :
    unmarshall tables fuel { stream := marshalled valid payload, cuts := cuts } =
      .passed payload valid := by
  generalize socketEq : Socket.mk (marshalled valid payload) cuts = socket at arrive ⊢
  rcases arrive.status with ⟨first, arrived⟩
  have parts := socket.recv_append 128
  rw [← socketEq] at parts
  change _ = encode (statusText valid ++ ['\n']) ++ _ at parts
  rw [socketEq, ← arrived, List.append_assoc, List.append_cancel_left_eq] at parts
  have content := arrive.content
  rw [← arrived, List.append_assoc, List.prefix_append_right_inj] at content
  rw [unmarshall_arrived arrived.symm fuel]
  exact readContent_arrived parts content enough

end Collect

/-! ## Agreement on the test -/

/-- The two ends agree on how the test ended: the controller hands exactly the data of the
plugin to its own, with their validity, or it halts.  The flag of the daemon is clear, unless
the plugin has started and left no data. -/
structure TestAgrees (config : RunConfig) (peer : Peer) (item : Entry) (entry : Nat)
    (left : DaemonState) : Prop where
  data : ∀ payload valid,
    unmarshall config.tables config.fuel item.answers.result = .passed payload valid ↔
      peer.plugin.start = 0 ∧ peer.plugin.data = some payload ∧
        valid = decide (peer.plugin.marshall = 0)
  delivered : (collect config (item, entry)).halted = none ↔
    peer.plugin.start = 0 ∧ peer.plugin.data ≠ none
  cleared : left.status = 0 ↔ ¬ (peer.plugin.start = 0 ∧ peer.plugin.data = none)
  ended : left.session.reader.Ended

/-- What the controller finds as the result of a daemon that has come up. -/
theorem result_of_meets {config : RunConfig} {peer : Peer} {cuts : List Nat} {item : Entry}
    (meets : Meets config peer 0 cuts item) (short : peer.Short)
    (found : peer.kills.found = true) (loads : peer.plugin.load = none)
    (sets : peer.plugin.setup ≠ -1) :
    item.answers.result = { stream := (peer.tested (peer.pids 0)).2, cuts := cuts } ∧
      item.answers.unmarshalls = true ∧ item.answers.start = true ∧ item.answers.stop = true ∧
        item.answers.quit = true := by
  have result : ∀ {testName line body : Text} {arguments : Daemon.SetupArgs}
      (_ : LoadText peer.options.tables testName)
      (_ : SetupText peer.options line body arguments),
      (peer.answers 0 testName line cuts).result =
        { stream := (peer.tested (peer.pids 0)).2, cuts := cuts } := by
    intro testName line body arguments load set
    have up := peer.run_setup rfl short load loads set
    rw [if_neg sets] at up
    have run := peer.run_test (peer.pids 0) found
    rw [← up] at run
    exact congrArg (fun result => Socket.mk result.2 cuts) run
  cases meets with
  | client record target port mode fine load =>
      exact ⟨result load (setupText_client fine mode), rfl, rfl, rfl, rfl⟩
  | target record hostname mode named fine load =>
      exact ⟨result load (setupText_target fine mode), rfl, rfl, rfl, rfl⟩

/-- Whatever the plugin's results, the controller and the daemon agree on the test of a daemon
that has come up. -/
theorem test_agrees (config : RunConfig) {peer : Peer} {cuts : List Nat} {item : Entry}
    (meets : Meets config peer 0 cuts item) (short : peer.Short)
    (found : peer.kills.found = true) (loads : peer.plugin.load = none)
    (sets : peer.plugin.setup ≠ -1) (numbered : peer.pids 0 ≠ 0) (arrives : Arrives peer cuts)
    (enough : ∀ payload, peer.plugin.data = some payload → payload.length < config.fuel)
    (entry : Nat) :
    TestAgrees config peer item entry
      (peer.machine.run (.at .run peer.options.target (peer.pids 0))
        (testCommands peer.options.target)).1 := by
  rcases result_of_meets meets short found loads sets with ⟨result, unmarshalls, _⟩
  rw [peer.run_test (peer.pids 0) found]
  have collected : ∀ {payload : List UInt8} {valid : Bool},
      unmarshall config.tables config.fuel item.answers.result = .passed payload valid →
        (collect config (item, entry)).halted = none := by
    intro payload valid passed
    unfold collect
    dsimp only
    rw [passed]
    dsimp only
    rw [unmarshalls, if_neg Bool.noConfusion]
  have raised : ∀ {error : PyError},
      unmarshall config.tables config.fuel item.answers.result = .raised error →
        (collect config (item, entry)).halted ≠ none ∧
          ∀ payload valid,
            unmarshall config.tables config.fuel item.answers.result ≠ .passed payload valid := by
    intro error raised
    unfold collect
    dsimp only
    rw [raised]
    exact ⟨(fun impossible => nomatch impossible), fun _ _ impossible => nomatch impossible⟩
  by_cases started : peer.plugin.start = 0
  · have starts : Daemon.shuntStart peer.plugin = none := if_neg (not_not.mpr started)
    cases pointed : peer.plugin.data with
    | none =>
        have tested : peer.tested (peer.pids 0) =
            (.lost peer.options.target (peer.pids 0), []) := by
          rw [Peer.tested, starts, pointed]
        rw [tested] at result
        have closed : unmarshall config.tables config.fuel { stream := [], cuts := cuts } =
            .raised .valueError := unmarshall_closed
        rw [← result] at closed
        rcases raised closed with ⟨halts, nothing⟩
        rw [tested]
        refine ⟨fun payload valid => ?_, ?_, ?_, trivial⟩
        · refine iff_of_false (nothing payload valid) fun all => ?_
          rw [pointed] at all
          exact nomatch all.2.1
        · exact iff_of_false halts fun all => all.2 pointed
        · exact iff_of_false numbered fun all => all ⟨started, pointed⟩
    | some payload =>
        have tested : peer.tested (peer.pids 0) =
            (.over peer.options.target 0,
              marshalled (decide (peer.plugin.marshall = 0)) payload) := by
          rw [Peer.tested, starts, pointed]
        rw [tested] at result
        have passed : unmarshall config.tables config.fuel _ = .passed payload _ :=
          unmarshall_data_arrives (arrives.data payload started pointed) (enough payload pointed)
        rw [← result] at passed
        rw [tested]
        refine ⟨fun other valid => ?_, ?_, ?_, trivial⟩
        · rw [passed]
          constructor
          · intro same
            cases same
            exact ⟨started, pointed, rfl⟩
          · rintro ⟨_, same, rfl⟩
            rw [pointed] at same
            cases same
            rfl
        · refine iff_of_true (collected passed) ⟨started, ?_⟩
          rw [pointed]
          exact Option.some_ne_none payload
        · refine iff_of_true rfl fun all => ?_
          rw [pointed] at all
          exact nomatch all.2
  · have failed : ∃ failure, Daemon.shuntStart peer.plugin = some failure := ⟨_, if_pos started⟩
    rcases failed with ⟨failure, failed⟩
    rcases short failure (.start failed) with ⟨detail, rfl, _⟩
    have tested : peer.tested (peer.pids 0) =
        (.over peer.options.target 0,
          encode (Daemon.strStatus .localError [strip detail])) := by
      rw [Peer.tested, failed]
      rfl
    rw [tested] at result
    obtain ⟨value, error⟩ : ∃ value, unmarshall config.tables config.fuel
        { stream := encode (Daemon.strStatus .localError [strip detail]), cuts := cuts } =
          .raised (.ipBenchError value) := unmarshall_error rfl (arrives.code started)
    rw [← result] at error
    rcases raised error with ⟨halts, nothing⟩
    rw [tested]
    exact ⟨fun payload valid => iff_of_false (nothing payload valid) fun all => started all.1,
      iff_of_false halts fun all => started all.1, iff_of_true rfl fun all => started all.1, trivial⟩

/-! ## Main result -/

end Controller
end Ipbench
