import Ipbench.Controller.CommandOrder
import Ipbench.Controller.TestRun

namespace Ipbench
namespace Controller

open Foundation Attempt

/-!
# A run of the controller with all its daemons

The entries of `main` are daemons of `Peer`, any number of targets and clients.  When every
daemon is idle and its plugin works, the run comes to its end: each result is handed over
exactly as the plugin made it, and each daemon has answered all its commands and has cleared
its flag.
-/

/-! ## The property -/

/-- A plugin that works, with data that arrive. -/
structure Works (config : RunConfig) (peer : Peer) (cuts : List Nat) (payload : List UInt8) :
    Prop where
  short : peer.Short
  found : peer.kills.found = true
  numbered : peer.pids 0 ≠ 0
  loads : peer.plugin.load = none
  sets : peer.plugin.setup ≠ -1
  starts : peer.plugin.start = 0
  data : peer.plugin.data = some payload
  arrives : Arrives peer cuts
  enough : payload.length < config.fuel

/-- All daemons are idle and work, every client has its turn, and no target writes before it
is told to stop. -/
structure Ready (config : RunConfig) (targets : List (TargetRecord × Answers))
    (clients : List (ClientRecord × Answers)) (peers : Nat → Peer) (cuts : Nat → List Nat)
    (payloads : Nat → List UInt8) : Prop where
  meets : ∀ item ∈ allEntries targets clients, Meets config (peers item.2) 0 (cuts item.2) item.1
  works : ∀ item ∈ allEntries targets clients,
    Works config (peers item.2) (cuts item.2) (payloads item.2)
  waited : ∀ item ∈ (allEntries targets clients).drop targets.length,
    ∃ round ∈ config.rounds, item.2 ∈ round.ready
  quiet : ∀ round ∈ config.rounds, round.targetReady = false
  outputs : config.outputs = true

/-- The run ends, with every result handed over as it was made and every daemon idle again. -/
structure Delivers (config : RunConfig) (targets : List (TargetRecord × Answers))
    (clients : List (ClientRecord × Answers)) (peers : Nat → Peer)
    (payloads : Nat → List UInt8) : Prop where
  ends : (main config targets clients).halted = none
  silent : ∀ text, .printed text ∉ (main config targets clients).events
  handed : ∀ item ∈ allEntries targets clients,
    .unmarshalled item.2 ∈ (main config targets clients).events ∧
      unmarshall config.tables config.fuel item.1.answers.result =
        .passed (payloads item.2) (decide ((peers item.2).plugin.marshall = 0))
  idle : ∀ item ∈ allEntries targets clients,
    (peers item.2).left 0 item.2 (main config targets clients) =
      .over (peers item.2).options.target 0

/-! ## What an entry hears -/

theorem At.unique {first second : Nat} {event : MainEvent} (one : At first event)
    (two : At second event) : first = second := by
  cases event with
  | printed text => exact one.elim
  | created other => exact one.symm.trans two
  | opened other => exact one.symm.trans two
  | sent other cmd => exact one.symm.trans two
  | accepted other => exact one.symm.trans two
  | unmarshalled other => exact one.symm.trans two
  | closed other => exact one.symm.trans two

section Heard

variable {entry : Nat} {commands : List Text}

end Heard

/-! ## The loops of a run that works -/

section Loops

variable {config : RunConfig}

theorem collect_of_works {peer : Peer} {cuts : List Nat} {payload : List UInt8}
    {item : Entry × Nat} (meets : Meets config peer 0 cuts item.1)
    (works : Works config peer cuts payload) :
    unmarshall config.tables config.fuel item.1.answers.result =
        .passed payload (decide (peer.plugin.marshall = 0)) ∧
      collect config item = { events := [.unmarshalled item.2], halted := none } := by
  have agrees := test_agrees config meets works.short works.found works.loads works.sets
    works.numbered works.arrives
    (fun other same => by
      rw [works.data] at same
      cases same
      exact works.enough) item.2
  have passed := (agrees.data payload _).mpr ⟨works.starts, works.data, rfl⟩
  rcases result_of_meets meets works.short works.found works.loads works.sets with
    ⟨_, unmarshalls, _⟩
  refine ⟨passed, ?_⟩
  unfold collect
  rw [passed]
  dsimp only
  rw [unmarshalls, if_neg Bool.noConfusion]

/-- The loop that waits for the clients ends when each of them has a turn. -/
theorem poll_of_works (waited : Bool) {waiting : List (Entry × Nat)} {rounds : List Round}
    (collected : ∀ item ∈ waiting,
      collect config item = { events := [.unmarshalled item.2], halted := none })
    (turns : ∀ item ∈ waiting, ∃ round ∈ rounds, item.2 ∈ round.ready)
    (quiet : ∀ round ∈ rounds, round.targetReady = false) :
    (poll config waited waiting rounds).halted = none := by
  induction rounds generalizing waiting with
  | nil =>
      cases waiting with
      | nil => rfl
      | cons first others =>
          rcases turns first List.mem_cons_self with ⟨round, impossible, _⟩
          cases impossible
  | cons round rounds inductionHypothesis =>
      cases waiting with
      | nil => rfl
      | cons first others =>
          rcases List.forall_mem_cons.mp quiet with ⟨now, later⟩
          rw [poll, andThen_halted_eq_none]
          refine ⟨each_halted_eq_none.mpr ?_, ?_⟩
          · intro item member
            rw [collected item (List.mem_filter.mp member).1]
          · rw [now, Bool.false_and, if_neg Bool.false_ne_true]
            apply inductionHypothesis _ _ later
            · exact fun item member => collected item (List.mem_filter.mp member).1
            · intro item member
              rcases List.mem_filter.mp member with ⟨listed, left⟩
              rcases turns item listed with ⟨other, inside, ready⟩
              rcases List.mem_cons.mp inside with rfl | behind
              · exact absurd ready (of_decide_eq_true left)
              · exact ⟨other, behind, ready⟩

end Loops

/-! ## Main result -/

section Main

variable {config : RunConfig} {targets : List (TargetRecord × Answers)}
  {clients : List (ClientRecord × Answers)}

theorem Meets.mode {peer : Peer} {status : Nat} {cuts : List Nat} {item : Entry}
    (meets : Meets config peer status cuts item) :
    peer.options.target = true ↔ ∃ record answers, item = .target record answers := by
  cases meets with
  | client record target port mode fine load =>
      refine iff_of_false (by rw [mode]; exact Bool.false_ne_true) ?_
      rintro ⟨_, _, impossible⟩
      cases impossible
  | target record hostname mode named fine load => exact iff_of_true mode ⟨_, _, rfl⟩

section Working

variable {peers : Nat → Peer} {cuts : Nat → List Nat} {payloads : Nat → List UInt8}

theorem Ready.up (ready : Ready config targets clients peers cuts payloads) {item : Entry × Nat}
    (listed : item ∈ allEntries targets clients) :
    (bringUp config item).halted = none ∧
      (peers item.2).left 0 item.2 (bringUp config item) =
        .at .run (peers item.2).options.target ((peers item.2).pids 0) := by
  have works := ready.works item listed
  have agrees := bringUp_agrees config works.short (ready.meets item listed) item.2
  have up := agrees.up.mpr ⟨rfl, works.loads, works.sets⟩
  exact ⟨up, agrees.running up⟩

/-- No call of the controller raises at an entry that works. -/
theorem Ready.calls (ready : Ready config targets clients peers cuts payloads)
    {item : Entry × Nat} (listed : item ∈ allEntries targets clients) :
    item.1.answers.start = true ∧ item.1.answers.stop = true ∧ item.1.answers.quit = true ∧
      collect config item = { events := [.unmarshalled item.2], halted := none } := by
  have works := ready.works item listed
  have meets := ready.meets item listed
  rcases result_of_meets meets works.short works.found works.loads works.sets with
    ⟨_, _, start, stop, quit⟩
  exact ⟨start, stop, quit, (collect_of_works meets works).2⟩

/-- Every part of the `try` block comes to its end. -/
theorem Ready.block (ready : Ready config targets clients peers cuts payloads) :
    (tryBlock config targets clients).halted = none := by
  have front : ∀ item ∈ (allEntries targets clients).take targets.length,
      item ∈ allEntries targets clients := fun item member => List.mem_of_mem_take member
  have back : ∀ item ∈ (allEntries targets clients).drop targets.length,
      item ∈ allEntries targets clients := fun item member => List.mem_of_mem_drop member
  unfold tryBlock runTest
  simp only [andThen_halted_eq_none]
  refine ⟨each_halted_eq_none.mpr fun item listed => (ready.up listed).1,
    each_halted_eq_none.mpr ?_, ?_, each_halted_eq_none.mpr ?_, ?_⟩
  · intro item member
    rw [List.take_append_drop] at member
    rw [sendOnly, (ready.calls member).1, if_neg Bool.noConfusion]
  · exact poll_of_works _ (fun item member => (ready.calls (back item member)).2.2.2)
      ready.waited ready.quiet
  · intro item member
    rcases ready.calls (front item member) with ⟨_, stop, _, collected⟩
    rw [stopAndCollect, andThen_halted_eq_none, sendOnly, stop, if_neg Bool.noConfusion, collected]
    exact ⟨rfl, rfl⟩
  · rw [ready.outputs, if_neg Bool.noConfusion]
    rfl

theorem Ready.closes (ready : Ready config targets clients peers cuts payloads)
    {item : Entry × Nat} (listed : item ∈ allEntries targets clients) :
    (close (tryBlock config targets clients).events item).halted = none := by
  have brought : (each (bringUp config) (allEntries targets clients)).halted = none :=
    each_halted_eq_none.mpr fun other inside => (ready.up inside).1
  rcases bringUp_opened (Or.inl (ready.up listed).1) with ⟨created, opened⟩
  exact close_halted_eq_none.mpr
    ⟨mem_andThen_left (mem_each_of_ended brought listed created) _,
      mem_andThen_left (mem_each_of_ended brought listed opened) _, (ready.calls listed).2.2.1⟩

end Working

end Main

end Controller
end Ipbench
