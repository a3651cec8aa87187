import Ipbench.Controller.Cleanup
import Mathlib.Data.List.Nodup

namespace Ipbench
namespace Controller

open Foundation Attempt

/-!
# The order of the commands

Whatever the daemons answer, `main` sends START only after every daemon has been brought up,
STOP only after every client's result has been handed over, and QUIT only when nothing but the
closing of connections is left, to each daemon at most once.
-/

/-! ## The property -/

/-- The order in which `main` sends its commands. -/
structure InOrder (config : RunConfig) (targets : List (TargetRecord × Answers))
    (clients : List (ClientRecord × Answers)) (events : List MainEvent) : Prop where
  start : ∀ before entry after, events = before ++ .sent entry "START".toList :: after →
    ∀ item ∈ allEntries targets clients, (bringUp config item).halted = none ∧
      ∀ event ∈ (bringUp config item).events, event ∈ before
  stop : ∀ before entry after, events = before ++ .sent entry "STOP".toList :: after →
    ∀ item ∈ (allEntries targets clients).drop targets.length, .unmarshalled item.2 ∈ before
  quit : ∀ before entry after, events = before ++ .sent entry "QUIT".toList :: after →
    .sent entry "QUIT".toList ∉ after ∧
      ∀ event ∈ after, ∃ other, event = .sent other "QUIT".toList ∨ event = .closed other

/-! ## What an attempt sends -/

def Sends (allowed : Text → Prop) (attempt : MainAttempt) : Prop :=
  ∀ entry cmd, .sent entry cmd ∈ attempt.events → allowed cmd

section Sends

variable {allowed : Text → Prop}

theorem sends_halt (reason : Halt) : Sends allowed (halt reason) :=
  fun _ _ member => absurd member List.not_mem_nil

theorem sends_done : Sends allowed done :=
  fun _ _ member => absurd member List.not_mem_nil

theorem Sends.emit {next : MainAttempt} (later : Sends allowed next) {events : List MainEvent}
    (here : ∀ entry cmd, .sent entry cmd ∈ events → allowed cmd) :
    Sends allowed (emit events next) := by
  intro entry cmd member
  rcases List.mem_append.mp member with early | late
  · exact here entry cmd early
  · exact later entry cmd late

theorem Sends.andThen {first second : MainAttempt} (one : Sends allowed first)
    (two : Sends allowed second) : Sends allowed (first.andThen second) :=
  fun entry cmd member => (mem_andThen member).elim (one entry cmd) (two entry cmd)

theorem sends_each {body : Entry × Nat → MainAttempt} {items : List (Entry × Nat)}
    (only : ∀ item, Sends allowed (body item)) : Sends allowed (each body items) := by
  intro entry cmd member
  rcases mem_each member with ⟨item, _, happened⟩
  exact only item entry cmd happened

theorem sends_parseReply {tables : CharTables} {reply : Option (List UInt8)}
    {next : ReturnCode → MainAttempt} (only : ∀ status, Sends allowed (next status)) :
    Sends allowed (parseReply tables reply next) := by
  unfold parseReply
  split
  · exact sends_halt _
  · split
    · exact sends_halt _
    · split
      · exact sends_halt _
      · exact only _

theorem sends_greeted {tables : CharTables} {reply : Option (List UInt8)} {next : MainAttempt}
    (only : Sends allowed next) : Sends allowed (greeted tables reply next) := by
  apply sends_parseReply
  intro status
  split
  · exact sends_halt _
  · exact only

end Sends

/-- A command that belongs to the bringing up of a daemon. -/
def Preparing (cmd : Text) : Prop :=
  cmd ≠ "START".toList ∧ cmd ≠ "STOP".toList ∧ cmd ≠ "QUIT".toList

theorem preparing_load (testName : Text) : Preparing ("LOAD ".toList ++ testName) := by
  refine ⟨?_, ?_, ?_⟩ <;> exact fun same => absurd (congrArg List.head? same) (by simp)

theorem preparing_setup (rest : Text) : Preparing ("SETUP ".toList ++ rest) := by
  refine ⟨fun same => ?_, fun same => ?_, fun same => ?_⟩
  · exact absurd (congrArg (fun text : Text => text.drop 1 |>.head?) same) (by simp)
  · exact absurd (congrArg (fun text : Text => text.drop 1 |>.head?) same) (by simp)
  · exact absurd (congrArg List.head? same) (by simp)

section BringUp

variable {config : RunConfig}

theorem sends_connect (entry : Nat) (hostname testName : Text) (answers : Answers) :
    Sends Preparing (connect config entry hostname testName answers) := by
  have abort : Preparing "ABORT".toList := by unfold Preparing; decide
  have hello : Preparing "HELLO".toList := by unfold Preparing; decide
  unfold connect
  split
  · exact sends_halt _
  · refine Sends.emit (sends_greeted (Sends.andThen ?_ (Sends.emit ?_ ?_))) (by simp)
    · split
      · exact Sends.emit (sends_greeted sends_done) (by simpa using abort)
      · exact sends_done
    · apply sends_parseReply
      intro status
      split
      · exact sends_halt _
      · refine Sends.emit (sends_parseReply fun status => ?_)
          (by simpa using preparing_load testName)
        split
        · exact sends_halt _
        · split
          · exact sends_halt _
          · exact sends_done
    · simpa using hello

theorem sends_sendSetup (entry : Nat) {line : Text} (failure : Text) (answers : Answers)
    (prepares : Preparing line) :
    Sends Preparing (sendSetup config entry line failure answers) := by
  refine Sends.emit (sends_parseReply fun status => ?_) (by simpa using prepares)
  split
  · exact sends_halt _
  · exact sends_done

theorem sends_bringUp (item : Entry × Nat) : Sends Preparing (bringUp config item) := by
  unfold bringUp
  split
  · split
    · exact sends_halt _
    · split
      · exact sends_halt _
      · refine Sends.emit ((sends_connect _ _ _ _).andThen (sends_sendSetup _ _ _ ?_)) (by simp)
        exact preparing_setup _
  · next record answers _ =>
      refine Sends.emit ((sends_connect _ _ _ _).andThen ?_) (by simp)
      cases made : clientSetup record.testTarget
          (some (if record.testPort = 0 then config.defaultPort else record.testPort))
          (some record.testArgs) with
      | error error => exact sends_halt _
      | ok line =>
          refine sends_sendSetup _ _ _ ?_
          unfold clientSetup at made
          split at made
          · cases made
          · cases made
            simp only [List.append_assoc]
            exact preparing_setup _

end BringUp

/-! ## Parts of a trace -/

theorem split_behind {Event : Type} {front rest before after : List Event} {event : Event}
    (whole : front ++ rest = before ++ event :: after) (absent : event ∉ front) :
    ∃ middle, before = front ++ middle ∧ rest = middle ++ event :: after := by
  rcases List.append_eq_append_iff.mp whole with ⟨middle, first, second⟩ | ⟨middle, first, second⟩
  · exact ⟨middle, first, second⟩
  · cases middle with
    | nil =>
        rw [List.append_nil] at first
        exact ⟨[], by rw [first, List.append_nil], second.symm⟩
    | cons head tail =>
        rw [List.cons_append] at second
        have same : event = head := (List.cons.inj second).1
        refine absurd ?_ absent
        rw [first, same]
        exact List.mem_append_right _ List.mem_cons_self

section Main

variable {config : RunConfig} {targets : List (TargetRecord × Answers)}
  {clients : List (ClientRecord × Answers)}

def Closing (event : MainEvent) : Prop :=
  ∃ other, event = .sent other "QUIT".toList ∨ event = .closed other

theorem close_closing {happened : List MainEvent} {item : Entry × Nat} :
    ∀ event ∈ (close happened item).events,
      event = .sent item.2 "QUIT".toList ∨ event = .closed item.2 := by
  unfold close
  split
  · exact fun _ member => absurd member List.not_mem_nil
  · split
    · exact fun _ member => absurd member List.not_mem_nil
    · split
      · exact fun _ member => absurd member List.not_mem_nil
      · intro event member
        simpa using member

theorem closing_each {happened : List MainEvent} {items : List (Entry × Nat)} :
    ∀ event ∈ (each (close happened) items).events,
      ∃ item ∈ items, event = .sent item.2 "QUIT".toList ∨ event = .closed item.2 := by
  intro event member
  rcases mem_each member with ⟨item, listed, happened⟩
  exact ⟨item, listed, close_closing event happened⟩

theorem quit_once {happened : List MainEvent} {items : List (Entry × Nat)}
    (distinct : (items.map Prod.snd).Nodup) {before after : List MainEvent} {entry : Nat}
    (whole : (each (close happened) items).events =
      before ++ .sent entry "QUIT".toList :: after) :
    .sent entry "QUIT".toList ∉ after := by
  induction items generalizing before with
  | nil => exact absurd whole.symm (by simp [each, done])
  | cons item rest inductionHypothesis =>
      rw [List.map_cons, List.nodup_cons] at distinct
      rw [each] at whole
      by_cases ended : (close happened item).halted = none
      · rw [andThen_of_none ended] at whole
        change (close happened item).events ++ (each (close happened) rest).events = _ at whole
        rw [close_events ended] at whole
        have elsewhere : .sent item.2 "QUIT".toList ∉ (each (close happened) rest).events := by
          intro member
          rcases closing_each _ member with ⟨other, listed, same | same⟩
          · exact distinct.1 (List.mem_map.mpr ⟨other, listed, (MainEvent.sent.inj same).1.symm⟩)
          · cases same
        cases before with
        | nil =>
            rw [List.nil_append, List.cons_append] at whole
            injection whole with first others
            have same : item.2 = entry := (MainEvent.sent.inj first).1
            rw [← others, ← same]
            intro member
            rcases List.mem_cons.mp member with impossible | later
            · cases impossible
            · exact elsewhere later
        | cons head tail =>
            rw [List.cons_append, List.cons_append] at whole
            injection whole with _ others
            have behind : [.closed item.2] ++ (each (close happened) rest).events =
              tail ++ .sent entry "QUIT".toList :: after := others
            rcases split_behind behind (by simp) with ⟨middle, _, later⟩
            exact inductionHypothesis distinct.2 later
      · have halts : (close happened item).events = [] := by
          unfold close at ended ⊢
          split
          · rfl
          · split
            · rfl
            · split
              · rfl
              · simp_all
        rw [andThen_of_halted ended, halts] at whole
        exact absurd whole.symm (by simp)

/-- `main` is its `try` block, perhaps a message, and perhaps the closing loop. -/
theorem main_parts (config : RunConfig) (targets : List (TargetRecord × Answers))
    (clients : List (ClientRecord × Answers)) :
    ∃ printed closing, (main config targets clients).events =
        (tryBlock config targets clients).events ++ printed ++ closing ∧
      (∀ event ∈ printed, ∃ text, event = .printed text) ∧
      (closing = (closeAll targets clients (tryBlock config targets clients).events).events ∨
        closing = []) := by
  unfold main
  dsimp only
  split
  · exact ⟨[], _, by rw [List.append_nil]; rfl, by simp, Or.inl rfl⟩
  · next value _ =>
      exact ⟨[.printed ("Ipbench failed : ".toList ++ value)], _, rfl, by simp, Or.inl rfl⟩
  · exact ⟨[], [], by simp, by simp, Or.inr rfl⟩

/-! ## The parts of the test -/

theorem sends_starts {items : List (Entry × Nat)} :
    Sends (fun cmd => cmd = "START".toList)
      (each (fun item => sendOnly item.2 "START".toList item.1.answers.start) items) := by
  apply sends_each
  intro item entry cmd member
  unfold sendOnly at member
  split at member
  · cases member
  · exact (MainEvent.sent.inj (List.mem_singleton.mp member)).2

theorem not_sent_collect (item : Entry × Nat) (entry : Nat) (cmd : Text) :
    .sent entry cmd ∉ (collect config item).events := by
  unfold collect
  split
  · exact List.not_mem_nil
  · exact List.not_mem_nil
  · split
    · exact List.not_mem_nil
    · simp

theorem sends_poll (waited : Bool) {waiting : List (Entry × Nat)} {rounds : List Round} :
    Sends (fun _ => False) (poll config waited waiting rounds) := by
  induction rounds generalizing waiting with
  | nil =>
      cases waiting with
      | nil => exact sends_done
      | cons first others => exact sends_halt _
  | cons round rounds inductionHypothesis =>
      cases waiting with
      | nil => exact sends_done
      | cons first others =>
          rw [poll]
          refine Sends.andThen (sends_each fun item entry cmd member =>
            not_sent_collect item entry cmd member) ?_
          split
          · exact sends_halt _
          · exact inductionHypothesis

theorem sends_stops {items : List (Entry × Nat)} :
    Sends (fun cmd => cmd = "STOP".toList) (each (stopAndCollect config) items) := by
  apply sends_each
  intro item entry cmd member
  unfold stopAndCollect at member
  rcases mem_andThen member with sent | collected
  · unfold sendOnly at sent
    split at sent
    · cases sent
    · exact (MainEvent.sent.inj (List.mem_singleton.mp sent)).2
  · exact absurd collected (not_sent_collect item entry cmd)

/-- A result that is collected without an exception is handed over. -/
theorem unmarshalled_of_collect {item : Entry × Nat}
    (ended : (collect config item).halted = none) :
    .unmarshalled item.2 ∈ (collect config item).events := by
  unfold collect at ended ⊢
  split at ended
  · cases ended
  · cases ended
  · split at ended
    · cases ended
    · next kept =>
        rw [if_neg kept]
        exact List.mem_singleton.mpr rfl

theorem mem_each_of_ended {body : Entry × Nat → MainAttempt} {items : List (Entry × Nat)}
    (ended : (each body items).halted = none) {item : Entry × Nat} (listed : item ∈ items)
    {event : MainEvent} (member : event ∈ (body item).events) :
    event ∈ (each body items).events :=
  mem_each_of_dropLast
    (fun other inside => each_halted_eq_none.mp ended other (List.dropLast_subset _ inside))
    listed member

/-- The loop that waits for the clients ends when each of them has handed over its result. -/
theorem unmarshalled_of_poll (waited : Bool) {waiting : List (Entry × Nat)} {rounds : List Round}
    (ended : (poll config waited waiting rounds).halted = none) :
    ∀ item ∈ waiting, .unmarshalled item.2 ∈ (poll config waited waiting rounds).events := by
  induction rounds generalizing waiting with
  | nil =>
      cases waiting with
      | nil => exact fun _ member => absurd member List.not_mem_nil
      | cons first others => cases ended
  | cons round rounds inductionHypothesis =>
      cases waiting with
      | nil => exact fun _ member => absurd member List.not_mem_nil
      | cons first others =>
          rw [poll] at ended ⊢
          rcases andThen_halted_eq_none.mp ended with ⟨collected, rest⟩
          intro item listed
          rw [andThen_of_none collected]
          by_cases ready : item.2 ∈ round.ready
          · have inside : item ∈ (first :: others).filter fun item => decide (item.2 ∈ round.ready) :=
              List.mem_filter.mpr ⟨listed, decide_eq_true ready⟩
            exact List.mem_append_left _ (mem_each_of_ended collected inside
              (unmarshalled_of_collect (each_halted_eq_none.mp collected item inside)))
          · apply List.mem_append_right
            split at rest
            · cases rest
            · next quiet =>
                rw [if_neg quiet]
                exact inductionHypothesis rest item
                  (List.mem_filter.mpr ⟨listed, decide_eq_true ready⟩)

/-! ## Main result -/

theorem not_sent_closing {happened : List MainEvent} {entry : Nat} {cmd : Text}
    (other : cmd ≠ "QUIT".toList) :
    .sent entry cmd ∉ (closeAll targets clients happened).events := by
  intro member
  rcases closing_each _ member with ⟨item, _, same | same⟩
  · exact other (MainEvent.sent.inj same).2
  · cases same

/-- What is sent behind a part of the `try` block, when that part has come to its end. -/
theorem sent_behind {front rest : MainAttempt} {cmd : Text} (other : cmd ≠ "QUIT".toList)
    (block : tryBlock config targets clients = front.andThen rest)
    (absent : ∀ entry, .sent entry cmd ∉ front.events) {before after : List MainEvent}
    {entry : Nat}
    (whole : (main config targets clients).events = before ++ .sent entry cmd :: after) :
    front.halted = none ∧ ∀ event ∈ front.events, event ∈ before := by
  rcases main_parts config targets clients with ⟨printed, closing, parts, messages, closed⟩
  have late : .sent entry cmd ∉ printed ++ closing := by
    intro member
    rcases List.mem_append.mp member with message | loop
    · rcases messages _ message with ⟨text, impossible⟩
      cases impossible
    · rcases closed with rfl | rfl
      · exact not_sent_closing other loop
      · cases loop
  by_cases ended : front.halted = none
  · refine ⟨ended, ?_⟩
    rw [parts, block, andThen_of_none ended, List.append_assoc] at whole
    change (front.events ++ rest.events) ++ _ = _ at whole
    rw [List.append_assoc] at whole
    rcases split_behind whole (absent entry) with ⟨middle, same, _⟩
    intro event member
    rw [same]
    exact List.mem_append_left _ member
  · rw [parts, block, andThen_of_halted ended, List.append_assoc] at whole
    have member : .sent entry cmd ∈ front.events ++ (printed ++ closing) := by
      rw [whole]
      exact List.mem_append_right _ List.mem_cons_self
    exact ((List.mem_append.mp member).elim (absent entry) late).elim

/-- Whatever the daemons answer, the commands are sent in order. -/
theorem main_inOrder (config : RunConfig) (targets : List (TargetRecord × Answers))
    (clients : List (ClientRecord × Answers)) :
    InOrder config targets clients (main config targets clients).events := by
  let items := allEntries targets clients
  let starts : MainAttempt :=
    each (fun item => sendOnly item.2 "START".toList item.1.answers.start)
      (items.take targets.length ++ items.drop targets.length)
  let waits : MainAttempt :=
    poll config (decide (items.take targets.length ≠ [])) (items.drop targets.length) config.rounds
  have preparing : Sends Preparing (each (bringUp config) items) := sends_each sends_bringUp
  have started : Sends (fun cmd => cmd = "START".toList) starts := sends_starts
  have waited : Sends (fun _ => False) waits := sends_poll _
  constructor
  · -- START is none of the commands that bring a daemon up.
    intro before entry after whole item listed
    have behind := sent_behind (by decide)
      (rfl : tryBlock config targets clients = (each (bringUp config) items).andThen _)
      (fun entry member => (preparing entry _ member).1 rfl) whole
    refine ⟨each_halted_eq_none.mp behind.1 item listed, ?_⟩
    intro event member
    exact behind.2 event (mem_each_of_ended behind.1 listed member)
  · -- STOP is sent behind the loop that waits for the clients.
    intro before entry after whole item listed
    have nested : tryBlock config targets clients =
        ((each (bringUp config) items).andThen (starts.andThen waits)).andThen
          ((each (stopAndCollect config) (items.take targets.length)).andThen
            (if config.outputs = false then halt .runtimeError else done)) := by
      rw [andThen_assoc, andThen_assoc]
      rfl
    have absent : ∀ entry, .sent entry "STOP".toList ∉
        ((each (bringUp config) items).andThen (starts.andThen waits)).events := by
      intro entry member
      rcases mem_andThen member with prepared | later
      · exact (preparing entry _ prepared).2.1 rfl
      · rcases mem_andThen later with begun | polled
        · exact absurd (started entry _ begun) (by decide)
        · exact waited entry _ polled
    have behind := sent_behind (by decide) nested absent whole
    rcases andThen_halted_eq_none.mp behind.1 with ⟨up, tested⟩
    rcases andThen_halted_eq_none.mp tested with ⟨begun, polled⟩
    have handed := unmarshalled_of_poll _ polled item listed
    apply behind.2
    rw [andThen_of_none up, andThen_of_none begun]
    exact List.mem_append_right _ (List.mem_append_right _ handed)
  · -- QUIT is sent by the closing loop alone.
    intro before entry after whole
    rcases main_parts config targets clients with ⟨printed, closing, parts, messages, closed⟩
    have quiet : .sent entry "QUIT".toList ∉
        (tryBlock config targets clients).events ++ printed := by
      intro member
      rcases List.mem_append.mp member with block | message
      · rcases mem_andThen block with prepared | tested
        · exact (preparing entry _ prepared).2.2 rfl
        · rcases mem_andThen tested with begun | later
          · exact absurd (started entry _ begun) (by decide)
          · rcases mem_andThen later with polled | last
            · exact waited entry _ polled
            · rcases mem_andThen last with stopped | output
              · exact absurd (sends_stops entry _ stopped) (by decide)
              · split at output
                · cases output
                · cases output
      · rcases messages _ message with ⟨text, impossible⟩
        cases impossible
    rw [parts] at whole
    rcases split_behind whole quiet with ⟨middle, _, rest⟩
    rcases closed with rfl | rfl
    · refine ⟨quit_once ?_ rest, ?_⟩
      · rw [List.map_append, List.nodup_append_comm, ← List.map_append, List.take_append_drop]
        exact distinct_allEntries
      · intro event member
        have inside : event ∈ (closeAll targets clients
            (tryBlock config targets clients).events).events := by
          rw [rest]
          exact List.mem_append_right _ (List.mem_cons_of_mem _ member)
        rcases closing_each event inside with ⟨item, _, same⟩
        exact ⟨item.2, same⟩
    · exact absurd rest (by simp)

end Main

end Controller
end Ipbench
