import Ipbench.Controller.Config
import Ipbench.Controller.SetupLine
import Ipbench.Foundation.Attempt

namespace Ipbench
namespace Controller

open Foundation Attempt

/-!
# The end of a failed run

`main` brings up one daemon after another, starts the test, collects the results
and stops the targets.  Whatever `IpBenchError` this raises is caught, and a
single loop closes the connections, those of the clients first.  An entry whose
turn to be brought up has not come has no test object, which the loop does not
expect.

The answers of a daemon say what each command of the controller meets.  The
entries are numbered in the order in which they are brought up.
-/

/-! ## The environment -/

/-- What the controller meets at one daemon.  Replies are what `recv` finds, and
`none` when a call raises; the flags are `false` when a call raises. -/
structure Answers where
  plugin : Bool
  connects : Bool
  greeting : Option (List UInt8)
  regreeting : Option (List UInt8)
  hello : Option (List UInt8)
  load : Option (List UInt8)
  setup : Option (List UInt8)
  start : Bool
  stop : Bool
  result : Socket
  unmarshalls : Bool
  quit : Bool

/-- An entry of the lists of `main`. -/
inductive Entry where
  | target (record : TargetRecord) (answers : Answers)
  | client (record : ClientRecord) (answers : Answers)

def Entry.answers : Entry → Answers
  | target _ answers => answers
  | client _ answers => answers

/-- One turn of the loop that waits for the clients: which of them have data, and
whether a target has. -/
structure Round where
  ready : List Nat
  targetReady : Bool

/-- What all entries share: the options, the port of the plugin, the turns of the
waiting loop and whether the output functions return. -/
structure RunConfig where
  tables : CharTables
  fuel : Nat
  reset : Bool
  test : Text
  defaultPort : Int
  rounds : List Round
  outputs : Bool

/-- Why the code of `main` stops where it is. -/
inductive Halt where
  | python (error : PyError)
  | keyError
  | typeError
  | osError
  | runtimeError
  | unicodeDecodeError
  | systemExit
  | looping
deriving DecidableEq, Repr

/-- The observable actions, with the number of the entry. -/
inductive MainEvent where
  | created (entry : Nat)
  | opened (entry : Nat)
  | sent (entry : Nat) (cmd : Text)
  | accepted (entry : Nat)
  | unmarshalled (entry : Nat)
  | printed (text : Text)
  | closed (entry : Nat)
deriving DecidableEq, Repr

abbrev MainAttempt := Attempt MainEvent Halt

def ipBenchError (value : Text) : MainAttempt :=
  halt (.python (.ipBenchError value))

/-! ## The methods of the test objects -/

/-- `parse_return_code`. -/
def parseReply (tables : CharTables) (reply : Option (List UInt8))
    (next : ReturnCode → MainAttempt) : MainAttempt :=
  match reply with
  | none => halt .osError
  | some data =>
      match decodeStrict data with
      | none => halt .unicodeDecodeError
      | some text =>
          match parseReturnCode tables text with
          | none => halt (.python .valueError)
          | some status => next status

/-- A failed command, with the code and the text of the reply. -/
def replyText (status : ReturnCode) : Text :=
  reprInt status.code ++ [' '] ++ status.str ++ [')']

/-- The first reply of a connection. -/
def greeted (tables : CharTables) (reply : Option (List UInt8)) (next : MainAttempt) :
    MainAttempt :=
  parseReply tables reply fun status =>
    if status.code ≠ 100 then ipBenchError "Invalid Version Flag".toList else next

/-- `connect`.  When resetting, the connection is opened a second time. -/
def connect (config : RunConfig) (entry : Nat) (hostname testName : Text) (answers : Answers) :
    MainAttempt :=
  if answers.connects = false then halt .systemExit
  else
    emit [.opened entry]
      (greeted config.tables answers.greeting
        ((if config.reset then
            emit [.sent entry "ABORT".toList, .opened entry]
              (greeted config.tables answers.regreeting done)
          else done).andThen
        (emit [.sent entry "HELLO".toList]
          (parseReply config.tables answers.hello fun status =>
            if status.code ≠ 200 then
              ipBenchError ("HELLO to ".toList ++ hostname ++ " failed (".toList ++ replyText status)
            else
              emit [.accepted entry, .sent entry ("LOAD ".toList ++ testName)]
                (parseReply config.tables answers.load fun status =>
                  if status.code = 421 then
                    ipBenchError ("LOAD to ".toList ++ hostname ++ " failed (".toList ++
                      status.msg ++ [')'])
                  else if status.code ≠ 200 then ipBenchError "LOAD Failed".toList
                  else done)))))

/-- `setup` after its line has been made. -/
def sendSetup (config : RunConfig) (entry : Nat) (line failure : Text) (answers : Answers) :
    MainAttempt :=
  emit [.sent entry line]
    (parseReply config.tables answers.setup fun status =>
      if status.code ≠ 200 then ipBenchError (failure ++ replyText status) else done)

/-- The body of the loops that bring up the targets and the clients. -/
def bringUp (config : RunConfig) (item : Entry × Nat) : MainAttempt :=
  match item.1 with
  | .target record answers =>
      match record.hostname with
      | none => halt .typeError
      | some hostname =>
          if answers.plugin = false then halt .runtimeError
          else
            emit [.created item.2]
              ((connect config item.2 hostname record.test answers).andThen
                (sendSetup config item.2 (targetSetup record.testArgs)
                  "SETUP Failed (".toList answers))
  | .client record answers =>
      emit [.created item.2]
        ((connect config item.2 record.hostname config.test answers).andThen
          (match clientSetup record.testTarget
              (some (if record.testPort = 0 then config.defaultPort else record.testPort))
              (some record.testArgs) with
            | .error error => halt (.python error)
            | .ok line =>
                sendSetup config item.2 line
                  ("SETUP to ".toList ++ record.hostname ++ "failed (".toList) answers))

/-- `send_command` without a reply. -/
def sendOnly (entry : Nat) (cmd : Text) (sends : Bool) : MainAttempt :=
  if sends = false then halt .osError
  else { events := [.sent entry cmd], halted := none }

/-- `unmarshall`, up to and including the call of the plugin. -/
def collect (config : RunConfig) (item : Entry × Nat) : MainAttempt :=
  match unmarshall config.tables config.fuel item.1.answers.result with
  | .raised error => halt (.python error)
  | .looping => halt .looping
  | .passed _ _ =>
      if item.1.answers.unmarshalls = false then halt .runtimeError
      else { events := [.unmarshalled item.2], halted := none }

/-- The loop that waits for the clients. -/
def poll (config : RunConfig) (targets : Bool) : List (Entry × Nat) → List Round → MainAttempt
  | [], _ => done
  | _ :: _, [] => halt .looping
  | first :: others, round :: rounds =>
      let waiting := first :: others
      (each (collect config) (waiting.filter fun item => decide (item.2 ∈ round.ready))).andThen
        (if (round.targetReady && targets) = true then ipBenchError "Target returned an error!".toList
        else poll config targets
          (waiting.filter fun item => decide (item.2 ∉ round.ready)) rounds)

/-- `stop` and `unmarshall` of a target. -/
def stopAndCollect (config : RunConfig) (item : Entry × Nat) : MainAttempt :=
  (sendOnly item.2 "STOP".toList item.1.answers.stop).andThen (collect config item)

/-! ## `main` -/

/-- The entries in the order in which they are brought up. -/
def allEntries (targets : List (TargetRecord × Answers)) (clients : List (ClientRecord × Answers)) :
    List (Entry × Nat) :=
  (targets.map (fun target => Entry.target target.1 target.2) ++
    clients.map fun client => Entry.client client.1 client.2).zipIdx

section Main

variable (config : RunConfig) (targets : List (TargetRecord × Answers))
  (clients : List (ClientRecord × Answers))

/-- The test, after all daemons have been brought up. -/
def runTest (targetItems clientItems : List (Entry × Nat)) : MainAttempt :=
  (each (fun item => sendOnly item.2 "START".toList item.1.answers.start)
      (targetItems ++ clientItems)).andThen
    ((poll config (decide (targetItems ≠ [])) clientItems config.rounds).andThen
      ((each (stopAndCollect config) targetItems).andThen
        (if config.outputs = false then halt .runtimeError else done)))

def tryBlock : MainAttempt :=
  let items := allEntries targets clients
  (each (bringUp config) items).andThen
    (runTest config (items.take targets.length) (items.drop targets.length))

/-- `close` of an entry, from what has happened to it. -/
def close (happened : List MainEvent) (item : Entry × Nat) : MainAttempt :=
  if .created item.2 ∉ happened then halt .keyError
  else if .opened item.2 ∉ happened then halt (.python .attributeError)
  else if item.1.answers.quit = false then halt .osError
  else { events := [.sent item.2 "QUIT".toList, .closed item.2], halted := none }

/-- The loop that closes the connections, the clients first. -/
def closeAll (happened : List MainEvent) : MainAttempt :=
  let items := allEntries targets clients
  each (close happened) (items.drop targets.length ++ items.take targets.length)

/-- `main` from the `try` on: only an `IpBenchError` is caught. -/
def main : MainAttempt :=
  let block := tryBlock config targets clients
  match block.halted with
  | none => emit block.events (closeAll targets clients block.events)
  | some (.python (.ipBenchError value)) =>
      emit (block.events ++ [.printed ("Ipbench failed : ".toList ++ value)])
        (closeAll targets clients block.events)
  | some other => { events := block.events, halted := some other }

/-- `main` raises nothing, and every daemon that accepted HELLO is sent QUIT and closed. -/
structure CleansUp : Prop where
  ends : (main config targets clients).halted = none
  closes : ∀ entry, .accepted entry ∈ (main config targets clients).events →
    .sent entry "QUIT".toList ∈ (main config targets clients).events ∧
      .closed entry ∈ (main config targets clients).events

/-- Only the entry that is brought up last may fail to come up, and no QUIT raises. -/
structure FailsLate : Prop where
  up : ∀ item ∈ (allEntries targets clients).dropLast, (bringUp config item).halted = none
  quits : ∀ item ∈ allEntries targets clients, item.1.answers.quit = true

end Main

/-! ## Bringing up an entry -/

section BringUp

variable {config : RunConfig}

def At (entry : Nat) : MainEvent → Prop
  | .created other | .opened other | .accepted other | .unmarshalled other | .closed other =>
      other = entry
  | .sent other _ => other = entry
  | .printed _ => False

/-- All that an attempt does, it does at one entry. -/
def OnlyAt (entry : Nat) (attempt : MainAttempt) : Prop :=
  ∀ event ∈ attempt.events, At entry event

theorem onlyAt_halt (entry : Nat) (reason : Halt) : OnlyAt entry (halt reason) :=
  fun _ member => absurd member List.not_mem_nil

theorem onlyAt_done (entry : Nat) : OnlyAt entry done :=
  fun _ member => absurd member List.not_mem_nil

theorem OnlyAt.emit {entry : Nat} {next : MainAttempt} (only : OnlyAt entry next)
    {events : List MainEvent} (here : ∀ event ∈ events, At entry event) :
    OnlyAt entry (emit events next) := by
  intro event member
  rcases List.mem_append.mp member with early | late
  · exact here event early
  · exact only event late

theorem OnlyAt.andThen {entry : Nat} {first second : MainAttempt} (one : OnlyAt entry first)
    (two : OnlyAt entry second) : OnlyAt entry (first.andThen second) :=
  fun event member => (mem_andThen member).elim (one event) (two event)

theorem onlyAt_parseReply {tables : CharTables} {entry : Nat} {reply : Option (List UInt8)}
    {next : ReturnCode → MainAttempt} (only : ∀ status, OnlyAt entry (next status)) :
    OnlyAt entry (parseReply tables reply next) := by
  unfold parseReply
  split
  · exact onlyAt_halt entry _
  · split
    · exact onlyAt_halt entry _
    · split
      · exact onlyAt_halt entry _
      · exact only _

theorem onlyAt_greeted {tables : CharTables} {entry : Nat} {reply : Option (List UInt8)}
    {next : MainAttempt} (only : OnlyAt entry next) : OnlyAt entry (greeted tables reply next) := by
  apply onlyAt_parseReply
  intro status
  split
  · exact onlyAt_halt entry _
  · exact only

theorem onlyAt_connect (entry : Nat) (hostname testName : Text) (answers : Answers) :
    OnlyAt entry (connect config entry hostname testName answers) := by
  unfold connect
  split
  · exact onlyAt_halt entry _
  · refine OnlyAt.emit (onlyAt_greeted (OnlyAt.andThen ?_ (OnlyAt.emit ?_ (by simp [At]))))
      (by simp [At])
    · split
      · exact OnlyAt.emit (onlyAt_greeted (onlyAt_done entry)) (by simp [At])
      · exact onlyAt_done entry
    · apply onlyAt_parseReply
      intro status
      split
      · exact onlyAt_halt entry _
      · refine OnlyAt.emit (onlyAt_parseReply fun status => ?_) (by simp [At])
        split
        · exact onlyAt_halt entry _
        · split
          · exact onlyAt_halt entry _
          · exact onlyAt_done entry

theorem onlyAt_sendSetup (entry : Nat) (line failure : Text) (answers : Answers) :
    OnlyAt entry (sendSetup config entry line failure answers) := by
  refine OnlyAt.emit (onlyAt_parseReply fun status => ?_) (by simp [At])
  split
  · exact onlyAt_halt entry _
  · exact onlyAt_done entry

theorem onlyAt_bringUp (item : Entry × Nat) : OnlyAt item.2 (bringUp config item) := by
  unfold bringUp
  split
  · split
    · exact onlyAt_halt _ _
    · split
      · exact onlyAt_halt _ _
      · exact OnlyAt.emit ((onlyAt_connect _ _ _ _).andThen (onlyAt_sendSetup _ _ _ _))
          (by simp [At])
  · refine OnlyAt.emit ((onlyAt_connect _ _ _ _).andThen ?_) (by simp [At])
    split
    · exact onlyAt_halt _ _
    · exact onlyAt_sendSetup _ _ _ _

/-- An entry whose bringing up does not end the program has a socket. -/
theorem bringUp_opened {item : Entry × Nat}
    (stays : (bringUp config item).halted = none ∨
      ∃ value, (bringUp config item).halted = some (.python (.ipBenchError value))) :
    .created item.2 ∈ (bringUp config item).events ∧
      .opened item.2 ∈ (bringUp config item).events := by
  have connected : ∀ (hostname testName : Text) (answers : Answers) (next : MainAttempt),
      (((connect config item.2 hostname testName answers).andThen next).halted = none ∨
        ∃ value, ((connect config item.2 hostname testName answers).andThen next).halted =
          some (.python (.ipBenchError value))) →
      .opened item.2 ∈ ((connect config item.2 hostname testName answers).andThen next).events := by
    intro hostname testName answers next stays
    by_cases reached : answers.connects = false
    · rw [connect, if_pos reached] at stays
      rcases stays with impossible | ⟨value, impossible⟩
      · cases impossible
      · cases impossible
    · apply mem_andThen_left
      rw [connect, if_neg reached]
      exact List.mem_cons_self
  unfold bringUp at stays ⊢
  split at stays
  · split at stays
    · rcases stays with impossible | ⟨value, impossible⟩
      · cases impossible
      · cases impossible
    · split at stays
      · rcases stays with impossible | ⟨value, impossible⟩
        · cases impossible
        · cases impossible
      · next loaded =>
          rw [if_neg loaded]
          exact ⟨List.mem_cons_self, List.mem_cons_of_mem _ (connected _ _ _ _ stays)⟩
  · exact ⟨List.mem_cons_self, List.mem_cons_of_mem _ (connected _ _ _ _ stays)⟩

/-- When an entry before the last does not come up, the loop halts before it
creates the last. -/
theorem exists_not_created {items : List (Entry × Nat)} (distinct : (items.map Prod.snd).Nodup)
    (stuck : ¬ ∀ item ∈ items.dropLast, (bringUp config item).halted = none) :
    (each (bringUp config) items).halted ≠ none ∧
      ∃ item ∈ items, .created item.2 ∉ (each (bringUp config) items).events := by
  induction items with
  | nil => exact absurd (fun item member => absurd member List.not_mem_nil) stuck
  | cons first rest inductionHypothesis =>
      rw [List.map_cons, List.nodup_cons] at distinct
      have elsewhere : ∀ item ∈ rest, .created item.2 ∉ (bringUp config first).events := by
        intro item member created
        have same : item.2 = first.2 := onlyAt_bringUp first _ created
        exact distinct.1 (same ▸ List.mem_map_of_mem member)
      by_cases more : rest = []
      · rw [more] at stuck
        exact absurd (fun item member => absurd member List.not_mem_nil) stuck
      · rw [List.dropLast_cons_of_ne_nil more] at stuck
        by_cases ended : (bringUp config first).halted = none
        · have later : ¬ ∀ item ∈ rest.dropLast, (bringUp config item).halted = none :=
            fun all => stuck (List.forall_mem_cons.mpr ⟨ended, all⟩)
          rcases inductionHypothesis distinct.2 later with ⟨halts, item, member, missing⟩
          refine ⟨fun both => halts (andThen_halted_eq_none.mp both).2, item,
            List.mem_cons_of_mem _ member, fun created => ?_⟩
          exact (mem_andThen created).elim (elsewhere item member) missing
        · rw [each, andThen_of_halted ended]
          rcases List.exists_mem_of_ne_nil rest more with ⟨item, member⟩
          exact ⟨ended, item, List.mem_cons_of_mem _ member, elsewhere item member⟩

end BringUp

/-! ## The test -/

/-- All that an attempt does, it does at one of the entries. -/
def Within (items : List (Entry × Nat)) (attempt : MainAttempt) : Prop :=
  ∀ event ∈ attempt.events, ∃ item ∈ items, At item.2 event

section Test

variable {config : RunConfig} {items : List (Entry × Nat)}

theorem within_halt (reason : Halt) : Within items (halt reason) :=
  fun _ member => absurd member List.not_mem_nil

theorem within_done : Within items done :=
  fun _ member => absurd member List.not_mem_nil

theorem Within.andThen {first second : MainAttempt} (one : Within items first)
    (two : Within items second) : Within items (first.andThen second) :=
  fun event member => (mem_andThen member).elim (one event) (two event)

theorem within_each {body : Entry × Nat → MainAttempt} (only : ∀ item, OnlyAt item.2 (body item))
    {some : List (Entry × Nat)} (listed : ∀ item ∈ some, item ∈ items) :
    Within items (each body some) := by
  intro event member
  rcases mem_each member with ⟨item, inside, happened⟩
  exact ⟨item, listed item inside, only item event happened⟩

theorem onlyAt_sendOnly (entry : Nat) (cmd : Text) (sends : Bool) :
    OnlyAt entry (sendOnly entry cmd sends) := by
  unfold sendOnly
  split
  · exact onlyAt_halt entry _
  · intro event member
    rw [List.mem_singleton.mp member]
    exact rfl

theorem onlyAt_collect (item : Entry × Nat) : OnlyAt item.2 (collect config item) := by
  unfold collect
  split
  · exact onlyAt_halt _ _
  · exact onlyAt_halt _ _
  · split
    · exact onlyAt_halt _ _
    · intro event member
      rw [List.mem_singleton.mp member]
      exact rfl

theorem within_poll (targets : Bool) {waiting : List (Entry × Nat)} (rounds : List Round)
    (listed : ∀ item ∈ waiting, item ∈ items) :
    Within items (poll config targets waiting rounds) := by
  induction rounds generalizing waiting with
  | nil =>
      cases waiting with
      | nil => exact within_done
      | cons first others => exact within_halt _
  | cons round rounds inductionHypothesis =>
      cases waiting with
      | nil => exact within_done
      | cons first others =>
          rw [poll]
          refine Within.andThen (within_each onlyAt_collect fun item member =>
            listed item (List.mem_filter.mp member).1) ?_
          split
          · exact within_halt _
          · exact inductionHypothesis fun item member => listed item (List.mem_filter.mp member).1

theorem within_runTest {targetItems clientItems : List (Entry × Nat)}
    (targetsListed : ∀ item ∈ targetItems, item ∈ items)
    (clientsListed : ∀ item ∈ clientItems, item ∈ items) :
    Within items (runTest config targetItems clientItems) := by
  refine Within.andThen (within_each (fun item => onlyAt_sendOnly _ _ _) fun item member =>
    (List.mem_append.mp member).elim (targetsListed item) (clientsListed item)) ?_
  refine Within.andThen (within_poll _ _ clientsListed) ?_
  refine Within.andThen (within_each (fun item => (onlyAt_sendOnly _ _ _).andThen
    (onlyAt_collect item)) targetsListed) ?_
  split
  · exact within_halt _
  · exact within_done

end Test

/-! ## The end of `main` -/

section Closing

variable {config : RunConfig} {targets : List (TargetRecord × Answers)}
  {clients : List (ClientRecord × Answers)}

theorem within_tryBlock : Within (allEntries targets clients) (tryBlock config targets clients) :=
  Within.andThen (within_each onlyAt_bringUp fun _ member => member)
    (within_runTest (fun _ member => List.mem_of_mem_take member)
      fun _ member => List.mem_of_mem_drop member)

theorem distinct_allEntries : ((allEntries targets clients).map Prod.snd).Nodup := by
  unfold allEntries
  rw [List.zipIdx_map_snd]
  exact List.nodup_range'

theorem mem_closing {item : Entry × Nat} :
    item ∈ (allEntries targets clients).drop targets.length ++
        (allEntries targets clients).take targets.length ↔ item ∈ allEntries targets clients := by
  rw [List.mem_append, or_comm, ← List.mem_append, List.take_append_drop]

theorem close_halted_eq_none {happened : List MainEvent} {item : Entry × Nat} :
    (close happened item).halted = none ↔
      .created item.2 ∈ happened ∧ .opened item.2 ∈ happened ∧ item.1.answers.quit = true := by
  unfold close
  split
  · next missing =>
      exact iff_of_false (fun impossible => nomatch impossible) fun all => missing all.1
  · next created =>
      split
      · next missing =>
          exact iff_of_false (fun impossible => nomatch impossible) fun all => missing all.2.1
      · next opened =>
          split
          · next silent =>
              refine iff_of_false (fun impossible => nomatch impossible) fun all => ?_
              rw [silent] at all
              cases all.2.2
          · next sends =>
              exact iff_of_true rfl
                ⟨not_not.mp created, not_not.mp opened, Bool.of_not_eq_false sends⟩

theorem close_events {happened : List MainEvent} {item : Entry × Nat}
    (ends : (close happened item).halted = none) :
    (close happened item).events = [.sent item.2 "QUIT".toList, .closed item.2] := by
  rcases close_halted_eq_none.mp ends with ⟨created, opened, quit⟩
  rw [close, if_neg (not_not.mpr created), if_neg (not_not.mpr opened), if_neg (by simp [quit])]

theorem main_of_error {value : Text}
    (raised : (tryBlock config targets clients).halted = some (.python (.ipBenchError value))) :
    main config targets clients =
      emit ((tryBlock config targets clients).events ++
          [.printed ("Ipbench failed : ".toList ++ value)])
        (closeAll targets clients (tryBlock config targets clients).events) := by
  unfold main
  dsimp only
  rw [raised]

theorem not_accepted_close {happened : List MainEvent} {item : Entry × Nat} {entry : Nat} :
    .accepted entry ∉ (close happened item).events := by
  unfold close
  split
  · exact List.not_mem_nil
  · split
    · exact List.not_mem_nil
    · split
      · exact List.not_mem_nil
      · simp

/-- An entry that is never created stops the loop that closes the connections. -/
theorem not_cleansUp_of_early {value : Text}
    (raised : (tryBlock config targets clients).halted = some (.python (.ipBenchError value)))
    (early : ¬ ∀ item ∈ (allEntries targets clients).dropLast, (bringUp config item).halted = none) :
    ¬ CleansUp config targets clients := by
  intro clean
  rcases exists_not_created distinct_allEntries early with ⟨halts, item, member, missing⟩
  have block : tryBlock config targets clients =
      each (bringUp config) (allEntries targets clients) := andThen_of_halted halts _
  have ends := clean.ends
  rw [main_of_error raised] at ends
  have closed := each_halted_eq_none.mp ends item (mem_closing.mpr member)
  rw [block] at closed
  exact missing (close_halted_eq_none.mp closed).1

/-- Otherwise every entry has a socket when the connections are closed. -/
theorem opened_of_late {value : Text}
    (raised : (tryBlock config targets clients).halted = some (.python (.ipBenchError value)))
    (up : ∀ item ∈ (allEntries targets clients).dropLast, (bringUp config item).halted = none) :
    ∀ item ∈ allEntries targets clients,
      .created item.2 ∈ (tryBlock config targets clients).events ∧
        .opened item.2 ∈ (tryBlock config targets clients).events := by
  intro item member
  have stays : (bringUp config item).halted = none ∨
      ∃ value, (bringUp config item).halted = some (.python (.ipBenchError value)) := by
    by_cases ended : (bringUp config item).halted = none
    · exact Or.inl ended
    · have same := each_halted_of_dropLast up member ended
      have block : tryBlock config targets clients =
          each (bringUp config) (allEntries targets clients) :=
        andThen_of_halted (same ▸ ended) _
      rw [block, same] at raised
      exact Or.inr ⟨value, raised⟩
  have happened := bringUp_opened stays
  exact ⟨mem_andThen_left (mem_each_of_dropLast up member happened.1) _,
    mem_andThen_left (mem_each_of_dropLast up member happened.2) _⟩

/-- The connections are cleaned up after an error exactly when it comes late. -/
theorem cleansUp_iff (config : RunConfig) (targets : List (TargetRecord × Answers))
    (clients : List (ClientRecord × Answers)) {value : Text}
    (raised : (tryBlock config targets clients).halted = some (.python (.ipBenchError value))) :
    CleansUp config targets clients ↔ FailsLate config targets clients := by
  have path := main_of_error raised
  constructor
  · intro clean
    refine ⟨?_, ?_⟩
    · by_contra early
      exact not_cleansUp_of_early raised early clean
    · intro item member
      have ends := clean.ends
      rw [path] at ends
      exact (close_halted_eq_none.mp
        (each_halted_eq_none.mp ends item (mem_closing.mpr member))).2.2
  · intro late
    have opened := opened_of_late raised late.up
    have each_closed : ∀ item ∈ (allEntries targets clients).drop targets.length ++
        (allEntries targets clients).take targets.length,
        (close (tryBlock config targets clients).events item).halted = none := by
      intro item member
      rw [mem_closing] at member
      exact close_halted_eq_none.mpr
        ⟨(opened item member).1, (opened item member).2, late.quits item member⟩
    refine ⟨by rw [path]; exact each_halted_eq_none.mpr each_closed, ?_⟩
    intro entry accepted
    have inBlock : .accepted entry ∈ (tryBlock config targets clients).events := by
      rw [path] at accepted
      rcases List.mem_append.mp accepted with early | closing
      · rcases List.mem_append.mp early with block | print
        · exact block
        · exact nomatch List.mem_singleton.mp print
      · rcases mem_each closing with ⟨item, _, there⟩
        exact absurd there not_accepted_close
    rcases within_tryBlock _ inBlock with ⟨item, member, same⟩
    have same : entry = item.2 := same
    have listed := mem_closing.mpr member
    have events := close_events (each_closed item listed)
    have happens : ∀ event ∈ [.sent item.2 "QUIT".toList, .closed item.2],
        event ∈ (main config targets clients).events := by
      intro event happened
      rw [path]
      apply List.mem_append_right
      rw [← events] at happened
      exact mem_each_of_dropLast
        (fun other inside => each_closed other (List.dropLast_subset _ inside)) listed happened
    rw [same]
    exact ⟨happens _ List.mem_cons_self, happens _ (List.mem_cons_of_mem _ List.mem_cons_self)⟩

end Closing

theorem parseReply_encode {tables : CharTables} {text : Text} {status : ReturnCode}
    (parsed : parseReturnCode tables text = some status) (next : ReturnCode → MainAttempt) :
    parseReply tables (some (encode text)) next = next status := by
  unfold parseReply
  dsimp only
  rw [decodeStrict_encode]
  dsimp only
  rw [parsed]

/-- A daemon that is running another test. -/
def busyAnswers : Answers where
  plugin := true
  connects := true
  greeting := some (encode "100 IPBENCH V1.0\n".toList)
  regreeting := none
  hello := some (encode "421 SERVICE NOT AVAILABLE (Already Running)\n".toList)
  load := none
  setup := none
  start := true
  stop := true
  result := { stream := [], cuts := [] }
  unmarshalls := true
  quit := true

def plainConfig : RunConfig where
  tables := asciiTables
  fuel := 0
  reset := false
  test := "latency".toList
  defaultPort := 7
  rounds := []
  outputs := true

def plainClient : ClientRecord where
  hostname := "host".toList
  port := 8036
  testPort := 7
  testArgs := []
  testTarget := some "target".toList

theorem bringUp_busy (number : Nat) :
    (bringUp plainConfig (.client plainClient busyAnswers, number)).halted =
      some (.python (.ipBenchError
        "HELLO to host failed (421 SERVICE NOT AVAILABLE)".toList)) := by
  have greeting : parseReturnCode asciiTables "100 IPBENCH V1.0\n".toList =
      some { code := 100, str := "IPBENCH V1.0".toList, msg := [] } := by decide
  have hello : parseReturnCode asciiTables
      "421 SERVICE NOT AVAILABLE (Already Running)\n".toList =
      some { code := 421, str := "SERVICE NOT AVAILABLE".toList, msg := "Already Running".toList } := by
    decide
  have answered : connect plainConfig number "host".toList "latency".toList busyAnswers =
      emit [.opened number] (emit [.sent number "HELLO".toList]
        (ipBenchError "HELLO to host failed (421 SERVICE NOT AVAILABLE)".toList)) := by
    unfold connect greeted
    rw [if_neg (by decide)]
    change emit _ (parseReply asciiTables (some (encode _)) _) = _
    rw [parseReply_encode greeting]
    change emit _ (emit _ (emit _ (parseReply asciiTables (some (encode _)) _))) = _
    rw [parseReply_encode hello]
    rfl
  change (emit _ (Attempt.andThen (connect plainConfig number "host".toList "latency".toList
    busyAnswers) _)).halted = _
  rw [answered]
  rfl

theorem tryBlock_busy (others : List (ClientRecord × Answers)) :
    (tryBlock plainConfig [] ((plainClient, busyAnswers) :: others)).halted =
      some (.python (.ipBenchError
        "HELLO to host failed (421 SERVICE NOT AVAILABLE)".toList)) := by
  have halted := bringUp_busy 0
  have first : each (bringUp plainConfig) (allEntries [] ((plainClient, busyAnswers) :: others)) =
      bringUp plainConfig (.client plainClient busyAnswers, 0) :=
    andThen_of_halted (by rw [halted]; exact Option.some_ne_none _) _
  unfold tryBlock
  dsimp only
  rw [first, andThen_of_halted (by rw [halted]; exact Option.some_ne_none _), halted]

/-- A daemon that is ready for a test. -/
def readyAnswers : Answers :=
  { busyAnswers with
    hello := some (encode "200 OK\n".toList)
    load := some (encode "200 OK\n".toList)
    setup := some (encode "200 OK\n".toList) }

def plainTarget : TargetRecord where
  hostname := some "target".toList
  port := 8036
  testArgs := []
  test := "cpu_target".toList

theorem bringUp_ready (number : Nat) :
    (bringUp plainConfig (.target plainTarget readyAnswers, number)).halted = none := by
  have greeting : parseReturnCode asciiTables "100 IPBENCH V1.0\n".toList =
      some { code := 100, str := "IPBENCH V1.0".toList, msg := [] } := by decide
  have accepting : parseReturnCode asciiTables "200 OK\n".toList =
      some { code := 200, str := "OK".toList, msg := [] } := by decide
  have connected : (connect plainConfig number "target".toList "cpu_target".toList
      readyAnswers).halted = none := by
    unfold connect greeted
    rw [if_neg (by decide)]
    change (emit _ (parseReply asciiTables (some (encode _)) _)).halted = _
    rw [parseReply_encode greeting]
    change (emit _ (emit _ (emit _ (parseReply asciiTables (some (encode _)) _)))).halted = _
    rw [parseReply_encode accepting]
    change (emit _ (emit _ (emit _ (emit _ (parseReply asciiTables (some (encode _)) _))))).halted
      = _
    rw [parseReply_encode accepting]
    rfl
  change (emit _ (Attempt.andThen (connect plainConfig number "target".toList
    "cpu_target".toList readyAnswers) _)).halted = _
  rw [andThen_of_none connected]
  unfold sendSetup
  change (emit _ (emit _ (emit _ (parseReply asciiTables (some (encode _)) _)))).halted = _
  rw [parseReply_encode accepting]
  rfl

/-- The target has accepted HELLO when the client turns out to be busy. -/
theorem tryBlock_late :
    (tryBlock plainConfig [(plainTarget, readyAnswers)] [(plainClient, busyAnswers)]).halted =
      some (.python (.ipBenchError
        "HELLO to host failed (421 SERVICE NOT AVAILABLE)".toList)) := by
  have halted := bringUp_busy 1
  have bothUp : (each (bringUp plainConfig) (allEntries [(plainTarget, readyAnswers)]
      [(plainClient, busyAnswers)])).halted =
        some (.python (.ipBenchError
          "HELLO to host failed (421 SERVICE NOT AVAILABLE)".toList)) := by
    change (Attempt.andThen (bringUp plainConfig (.target plainTarget readyAnswers, 0))
      (Attempt.andThen (bringUp plainConfig (.client plainClient busyAnswers, 1)) done)).halted = _
    rw [andThen_of_none (bringUp_ready 0),
      andThen_of_halted (by rw [halted]; exact Option.some_ne_none _)]
    exact halted
  unfold tryBlock
  dsimp only
  rw [andThen_of_halted (by rw [bothUp]; exact Option.some_ne_none _), bothUp]

theorem cleansUp_iff_busy :
    CleansUp plainConfig [(plainTarget, readyAnswers)] [(plainClient, busyAnswers)] ↔
      FailsLate plainConfig [(plainTarget, readyAnswers)] [(plainClient, busyAnswers)] :=
  cleansUp_iff plainConfig _ _ tryBlock_late

/-- The first of two clients is busy: the second has no test object. -/
theorem firstClient_busy :
    (tryBlock plainConfig [] [(plainClient, busyAnswers), (plainClient, busyAnswers)]).halted =
        some (.python (.ipBenchError "HELLO to host failed (421 SERVICE NOT AVAILABLE)".toList)) ∧
      ¬ CleansUp plainConfig [] [(plainClient, busyAnswers), (plainClient, busyAnswers)] := by
  refine ⟨tryBlock_busy _, not_cleansUp_of_early (tryBlock_busy _) fun all => ?_⟩
  have first := all (.client plainClient busyAnswers, 0) List.mem_cons_self
  rw [bringUp_busy] at first
  cases first

end Controller
end Ipbench
