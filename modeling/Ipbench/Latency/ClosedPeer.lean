import Ipbench.Latency.Bookkeeping
import Ipbench.Latency.TcpSession

namespace Ipbench
namespace Latency

open Foundation

/-!
# A peer that closes its connection

The inner loop of `measure_latency` calls `recv` until the packet is complete.
It looks for negative results only, so the zero that `recv` returns once the
peer has closed is neither an error nor progress, and the loop calls `recv`
again and again.

The results of an unbounded number of calls are a sequence, which the loops of
all iterations use up one after another.  `Asks` says which calls one loop makes
as long as bytes are all that is found, and `Calls` which calls a whole run
makes.  The loop is the same in latency-check; the layer plays no role in it.
-/

/-- The first results of a sequence. -/
def firsts (outcomes : Nat → RecvOutcome) (count : Nat) : List RecvOutcome :=
  (List.range count).map outcomes

/-- How many bytes some calls have received. -/
def receivedTotal (outcomes : List RecvOutcome) : Nat :=
  (outcomes.map fun outcome =>
    match outcome with
    | .received data => data.length
    | _ => 0).sum

/-- Nothing but bytes was found before, and some are still missing. -/
structure Asks (torecv : UInt64) (outcomes : Nat → RecvOutcome) (count : Nat) : Prop where
  received : ∀ earlier < count, ∃ data, outcomes earlier = .received data
  missing : receivedTotal (firsts outcomes count) < torecv.toNat

/-- What `recv` can return: no more bytes than it is asked for, and no bytes
forever once the peer has closed. -/
structure LoopResults (torecv : UInt64) (outcomes : Nat → RecvOutcome) : Prop where
  fits : ∀ count data, Asks torecv outcomes count → outcomes count = .received data →
    receivedTotal (firsts outcomes count) + data.length ≤ torecv.toNat
  closed : ∀ count, outcomes count = .received [] → outcomes (count + 1) = .received []

/-- A call of the loop finds that the peer has closed. -/
def ClosedWhileReceiving (torecv : UInt64) (outcomes : Nat → RecvOutcome) : Prop :=
  ∃ count, Asks torecv outcomes count ∧ outcomes count = .received []

variable {packetListLength : Nat}

/-- The bytes that the loop has to receive. -/
def missingBytes (config : MeasureConfig) (state : MeasureState packetListLength) : UInt64 :=
  (beginReceive config state).torecv

/-- The inner loop of an iteration ends, and a closed connection makes the
function fail. -/
structure ReceiveLoopEnds (config : MeasureConfig) (state : MeasureState packetListLength)
    (outcomes : Nat → RecvOutcome) : Prop where
  terminates : ∃ count,
    (receivePart config (beginCooldown config state) (firsts outcomes count)).1 ≠ .waiting
  closedFails : ClosedWhileReceiving (missingBytes config state) outcomes →
    ∃ count, ∀ now sends, (loopBody config state
      { now := now, recvs := firsts outcomes count, sends := sends }).1 = .failed

/-! ## Whole runs -/

/-- What the environment decides over a whole run: the results of the calls of
`recv` in their order, and for each iteration the clock reading and the results
of its calls of `send`. -/
structure Environment where
  recvs : Nat → RecvOutcome
  clock : Nat → UInt64
  sends : Nat → List SendOutcome

/-- The results that are left after so many calls of `recv`. -/
def Environment.after (environment : Environment) (first : Nat) : Nat → RecvOutcome :=
  fun count => environment.recvs (first + count)

section Runs

variable (config : MeasureConfig) (start : MeasureState packetListLength)
  (environment : Environment)

/-- The state before an iteration, with the number of the iteration and that of the
calls of `recv` before it.  The loop of an iteration takes as many results as it
waits for. -/
inductive Reached : (number first : Nat) → MeasureState packetListLength → Prop
  | start : Reached 0 0 start
  | next {number first count : Nat} {state later : MeasureState packetListLength}
      {events : List MeasureEvent} (reached : Reached number first state)
      (waits : ∀ fewer < count,
        (receivePart config (beginCooldown config { state with now := environment.clock number })
          (firsts (environment.after first) fewer)).1 = .waiting)
      (continues : iteration config state
        { now := environment.clock number
          recvs := firsts (environment.after first) count
          sends := environment.sends number } = (.looping later, events)) :
      Reached (number + 1) (first + count) later

/-- A state in which the condition of the loop has been found true. -/
def Enters (first : Nat) (state : MeasureState packetListLength) : Prop :=
  ∃ number before, Reached config start environment number first before ∧
    environment.clock number ≠ 0 ∧
    (before.endTime = 0 ∨ environment.clock number < before.endTime) ∧
    state = { before with now := environment.clock number }

/-- The call of `recv` with this number is made. -/
def Calls (call : Nat) : Prop :=
  ∃ first state count, Enters config start environment first state ∧
    Asks (missingBytes config state) (environment.after first) count ∧ call = first + count

/-- The results of a socket, for each loop of the run. -/
structure SocketResults : Prop where
  fits : ∀ first state, Enters config start environment first state → ∀ count data,
    Asks (missingBytes config state) (environment.after first) count →
      environment.recvs (first + count) = .received data →
        receivedTotal (firsts (environment.after first) count) + data.length ≤
          (missingBytes config state).toNat
  closed : ∀ call, environment.recvs call = .received [] →
    environment.recvs (call + 1) = .received []

/-- Every receive loop of the run ends, and a closed connection makes the
function fail. -/
def ReceiveEnds : Prop :=
  ∀ first state, Enters config start environment first state →
    ReceiveLoopEnds config state (environment.after first)

end Runs

/-! ## The calls of the loop -/

theorem firsts_succ (outcomes : Nat → RecvOutcome) (count : Nat) :
    firsts outcomes (count + 1) = firsts outcomes count ++ [outcomes count] := by
  rw [firsts, List.range_succ, List.map_append]
  rfl

theorem receivedTotal_concat (outcomes : List RecvOutcome) (outcome : RecvOutcome) :
    receivedTotal (outcomes ++ [outcome]) =
      receivedTotal outcomes + receivedTotal [outcome] := by
  rw [receivedTotal, List.map_append, List.sum_append]
  rfl

theorem receivedTotal_received (data : List UInt8) :
    receivedTotal [.received data] = data.length :=
  Nat.add_zero _

theorem Asks.of_succ {torecv : UInt64} {outcomes : Nat → RecvOutcome} {count : Nat}
    (asks : Asks torecv outcomes (count + 1)) : Asks torecv outcomes count := by
  refine ⟨fun earlier less => asks.received earlier (Nat.lt_succ_of_lt less), ?_⟩
  have missing := asks.missing
  rw [firsts_succ, receivedTotal_concat] at missing
  omega

theorem Asks.of_le {torecv : UInt64} {outcomes : Nat → RecvOutcome} {first count : Nat}
    (asks : Asks torecv outcomes count) (less : first ≤ count) : Asks torecv outcomes first := by
  induction count, less using Nat.le_induction with
  | base => exact asks
  | succ count _ inductionHypothesis => exact inductionHypothesis asks.of_succ

/-- A call that finds bytes is followed by another one as long as some are missing. -/
theorem Asks.succ_iff {torecv : UInt64} {outcomes : Nat → RecvOutcome} {count : Nat}
    (asks : Asks torecv outcomes count) {data : List UInt8}
    (here : outcomes count = .received data) :
    Asks torecv outcomes (count + 1) ↔
      receivedTotal (firsts outcomes count) + data.length < torecv.toNat := by
  have total : receivedTotal (firsts outcomes (count + 1)) =
      receivedTotal (firsts outcomes count) + data.length := by
    rw [firsts_succ, receivedTotal_concat, here, receivedTotal_received]
  rw [← total]
  refine ⟨Asks.missing, fun more => ⟨?_, more⟩⟩
  intro earlier less
  rcases Nat.lt_succ_iff_lt_or_eq.mp less with older | same
  · exact asks.received earlier older
  · exact ⟨data, same ▸ here⟩

/-- One more result matters while the loop waits for it. -/
theorem recvLoop_concat (size : UInt64) (outcomes : List RecvOutcome) (outcome : RecvOutcome)
    (state : RecvState) :
    recvLoop size state (outcomes ++ [outcome]) =
      if (recvLoop size state outcomes).1 = .waiting then
        recvLoop size (recvLoop size state outcomes).2 [outcome]
      else recvLoop size state outcomes := by
  induction outcomes generalizing state with
  | nil => rfl
  | cons first rest inductionHypothesis =>
      rw [List.cons_append]
      by_cases asserted : size < state.torecv
      · cases first with
        | error => simp [recvLoop, asserted]
        | eagain => simp [recvLoop, asserted]
        | received data => simp [recvLoop, asserted]
      · cases first with
        | error => simp [recvLoop, asserted]
        | eagain => simp [recvLoop, asserted]
        | received data =>
            simp only [recvLoop, if_neg asserted]
            split
            · exact inductionHypothesis _
            · rfl

/-- The loop waits for a result exactly as long as it asks for it, and what it
has received is no longer missing. -/
theorem recvLoop_waiting {size : UInt64} {state : RecvState} {outcomes : Nat → RecvOutcome}
    (bounded : state.torecv ≤ size) (some : 0 < state.torecv)
    (results : LoopResults state.torecv outcomes) (count : Nat) :
    ((recvLoop size state (firsts outcomes count)).1 = .waiting ↔
        Asks state.torecv outcomes count) ∧
      (Asks state.torecv outcomes count →
        (recvLoop size state (firsts outcomes count)).2.torecv.toNat =
          state.torecv.toNat - receivedTotal (firsts outcomes count) ∧
        (recvLoop size state (firsts outcomes count)).2.torecv ≤ size) := by
  induction count with
  | zero =>
      have asks : Asks state.torecv outcomes 0 :=
        ⟨fun _ impossible => absurd impossible (Nat.not_lt_zero _),
          UInt64.lt_iff_toNat_lt.mp some⟩
      exact ⟨iff_of_true rfl asks, fun _ => ⟨rfl, bounded⟩⟩
  | succ count inductionHypothesis =>
      rw [firsts_succ, recvLoop_concat, receivedTotal_concat]
      by_cases asks : Asks state.torecv outcomes count
      · rw [if_pos (inductionHypothesis.1.mpr asks)]
        rcases inductionHypothesis.2 asks with ⟨left, less⟩
        generalize (recvLoop size state (firsts outcomes count)).2 = middle at left less
        have stops : ∀ outcome, outcomes count = outcome →
            (∀ data, outcome ≠ .received data) → ¬ Asks state.torecv outcomes (count + 1) := by
          intro outcome here other later
          rcases later.received count (Nat.lt_succ_self count) with ⟨data, received⟩
          exact other data (here.symm.trans received)
        have fine : ¬ size < middle.torecv := UInt64.not_lt.mpr less
        cases here : outcomes count with
        | error =>
            have refused := stops _ here (by intro data impossible; cases impossible)
            simp only [recvLoop, if_neg fine]
            exact ⟨iff_of_false (by intro impossible; cases impossible) refused,
              fun later => absurd later refused⟩
        | eagain =>
            have refused := stops _ here (by intro data impossible; cases impossible)
            simp only [recvLoop, if_neg fine]
            exact ⟨iff_of_false (by intro impossible; cases impossible) refused,
              fun later => absurd later refused⟩
        | received data =>
            have fits := results.fits count data asks here
            have missing := asks.missing
            have within : data.length ≤ middle.torecv.toNat := by omega
            rcases remaining_sub less within with ⟨difference, smaller, _⟩
            simp only [recvLoop, if_neg fine]
            rw [receivedTotal_received, asks.succ_iff here]
            by_cases more : 0 < middle.torecv - UInt64.ofNat data.length
            · rw [if_pos more]
              rw [UInt64.lt_iff_toNat_lt, difference, UInt64.toNat_zero] at more
              refine ⟨iff_of_true rfl (by omega), fun _ => ⟨?_, smaller⟩⟩
              change (middle.torecv - UInt64.ofNat data.length).toNat = _
              omega
            · rw [if_neg more]
              rw [UInt64.lt_iff_toNat_lt, difference, UInt64.toNat_zero] at more
              exact ⟨iff_of_false (by intro impossible; cases impossible) (by omega),
                fun _ => by omega⟩
      · have refused : ¬ Asks state.torecv outcomes (count + 1) := mt Asks.of_succ asks
        rw [if_neg (mt inductionHypothesis.1.mp asks)]
        exact ⟨iff_of_false (mt inductionHypothesis.1.mp asks) refused,
          fun later => absurd later refused⟩

/-! ## The loop of an iteration -/

section Iterations

variable {config : MeasureConfig} {state : MeasureState packetListLength}

theorem missingBytes_bounds (sized : 0 < config.size) (bounded : state.torecv ≤ config.size) :
    0 < missingBytes config state ∧ missingBytes config state ≤ config.size := by
  unfold missingBytes beginReceive
  split
  · exact ⟨sized, UInt64.le_refl _⟩
  · rename_i some
    exact ⟨UInt64.pos_iff_ne_zero.mpr some, bounded⟩

theorem missingBytes_beginCooldown :
    missingBytes config (beginCooldown config state) = missingBytes config state := by
  have same := beginCooldown_torecv config state
  unfold missingBytes beginReceive
  rw [same]
  split
  · rfl
  · exact same

/-- The state in which the loop of an iteration begins. -/
def receiving (config : MeasureConfig) (state : MeasureState packetListLength) : RecvState where
  torecv := missingBytes config state
  rbuf := (beginReceive config state).rbuf
  taken := []

theorem receivePart_eq (outcomes : List RecvOutcome) :
    receivePart config state outcomes =
      ((recvLoop config.size (receiving config state) outcomes).1,
        { beginReceive config state with
          torecv := (recvLoop config.size (receiving config state) outcomes).2.torecv
          rbuf := (recvLoop config.size (receiving config state) outcomes).2.rbuf },
        (recvLoop config.size (receiving config state) outcomes).2.taken) := rfl

theorem receivePart_waiting (sized : 0 < config.size) (bounded : state.torecv ≤ config.size)
    {outcomes : Nat → RecvOutcome}
    (results : LoopResults (missingBytes config state) outcomes) (count : Nat) :
    (receivePart config (beginCooldown config state) (firsts outcomes count)).1 = .waiting ↔
      Asks (missingBytes config state) outcomes count := by
  have bounds := missingBytes_bounds sized bounded
  rw [← missingBytes_beginCooldown] at bounds results ⊢
  exact (recvLoop_waiting bounds.2 bounds.1 results count).1

/-- The bytes that a run of results without an empty one has brought. -/
theorem le_receivedTotal {outcomes : Nat → RecvOutcome} {count : Nat}
    (received : ∀ earlier < count, ∃ data, outcomes earlier = .received data)
    (some : ∀ earlier < count, outcomes earlier ≠ .received []) :
    count ≤ receivedTotal (firsts outcomes count) := by
  induction count with
  | zero => exact Nat.zero_le _
  | succ count inductionHypothesis =>
      have before := inductionHypothesis
        (fun earlier less => received earlier (Nat.lt_succ_of_lt less))
        (fun earlier less => some earlier (Nat.lt_succ_of_lt less))
      rcases received count (Nat.lt_succ_self count) with ⟨data, here⟩
      have present := some count (Nat.lt_succ_self count)
      rw [here] at present
      have length : 0 < data.length :=
        List.length_pos_iff.mpr fun empty => present (by rw [empty])
      rw [firsts_succ, receivedTotal_concat, here, receivedTotal_received]
      omega

/-- The loop of one iteration ends as it should exactly when no call finds that the
peer has closed. -/
theorem receiveLoopEnds_iff (sized : 0 < config.size) (bounded : state.torecv ≤ config.size)
    {outcomes : Nat → RecvOutcome}
    (results : LoopResults (missingBytes config state) outcomes) :
    ReceiveLoopEnds config state outcomes ↔
      ∀ count, Asks (missingBytes config state) outcomes count →
        outcomes count ≠ .received [] := by
  have waits := receivePart_waiting sized bounded results
  constructor
  · intro ends count asks closed
    rcases ends.terminates with ⟨late, ended⟩
    -- Nothing is missing less after an empty result, and all later ones are empty.
    have still : ∀ later, count ≤ later →
        Asks (missingBytes config state) outcomes later ∧ outcomes later = .received [] := by
      intro later less
      induction later, less using Nat.le_induction with
      | base => exact ⟨asks, closed⟩
      | succ later _ inductionHypothesis =>
          exact ⟨(inductionHypothesis.1.succ_iff inductionHypothesis.2).mpr
            inductionHypothesis.1.missing, results.closed later inductionHypothesis.2⟩
    apply ended
    apply (waits late).mpr
    exact (still (max count late) (Nat.le_max_left _ _)).1.of_le (Nat.le_max_right _ _)
  · intro fine
    refine ⟨?_, fun ⟨count, asks, closed⟩ => absurd closed (fine count asks)⟩
    by_contra endless
    push Not at endless
    have asks := fun count => (waits count).mp (endless count)
    have last := asks (missingBytes config state).toNat
    have total := le_receivedTotal last.received fun earlier _ => fine earlier (asks earlier)
    exact absurd last.missing (Nat.not_lt_of_le total)

/-- A loop that has taken the results it waited for has no more to receive than
fits the packet. -/
theorem receivePart_torecv (sized : 0 < config.size) (bounded : state.torecv ≤ config.size)
    {outcomes : Nat → RecvOutcome}
    (results : LoopResults (missingBytes config state) outcomes) {count : Nat}
    (waited : ∀ fewer < count, (receivePart config (beginCooldown config state)
      (firsts outcomes fewer)).1 = .waiting) :
    (receivePart config (beginCooldown config state) (firsts outcomes count)).2.1.torecv ≤
      config.size := by
  have bounds := missingBytes_bounds sized bounded
  cases count with
  | zero =>
      rw [← missingBytes_beginCooldown] at bounds
      exact bounds.2
  | succ count =>
      have before := waited count (Nat.lt_succ_self count)
      have asks := (receivePart_waiting sized bounded results count).mp before
      rw [← missingBytes_beginCooldown] at bounds results asks
      have fits := fun data => results.fits count data asks
      have missing := asks.missing
      have begun : (receiving config (beginCooldown config state)).torecv =
          missingBytes config (beginCooldown config state) := rfl
      rw [← begun] at bounds results asks fits missing
      rcases (recvLoop_waiting bounds.2 bounds.1 results count).2 asks with ⟨left, less⟩
      rw [receivePart_eq] at before
      rw [receivePart_eq, firsts_succ, recvLoop_concat, if_pos before]
      generalize (recvLoop config.size (receiving config (beginCooldown config state))
        (firsts outcomes count)).2 = middle at left less
      dsimp only
      have fine : ¬ config.size < middle.torecv := UInt64.not_lt.mpr less
      cases here : outcomes count with
      | error => simpa only [recvLoop, if_neg fine] using less
      | eagain => simpa only [recvLoop, if_neg fine] using less
      | received data =>
          have within : data.length ≤ middle.torecv.toNat := by
            have room := fits data here
            omega
          have smaller := (remaining_sub less within).2.1
          simp only [recvLoop, if_neg fine]
          split
          · exact smaller
          · exact smaller

theorem deliver_torecv (state : MeasureState packetListLength) :
    (deliver config state).1.torecv = state.torecv := by
  unfold deliver
  dsimp only
  split
  · split
    · rfl
    · rfl
  · rfl

theorem transmit_torecv (state : MeasureState packetListLength) (outcomes : List SendOutcome) :
    (transmit config state outcomes).2.1.torecv = state.torecv := by
  have part : (sendPart config state outcomes).2.1.torecv = state.torecv := by
    unfold sendPart beginSend
    split
    · rfl
    · rfl
  unfold transmit completeSend
  split
  · dsimp only
    split
    · split
      · exact part
      · exact part
    · exact part
  · rfl

/-- What is missing after an iteration is what its loop has left. -/
theorem loopBody_torecv {input : IterationInput} {later : MeasureState packetListLength}
    {events : List MeasureEvent}
    (continues : loopBody config state input = (.looping later, events)) :
    later.torecv =
      (receivePart config (beginCooldown config state) input.recvs).2.1.torecv := by
  unfold loopBody at continues
  dsimp only at continues
  split at continues
  · cases continues
  · cases continues
  · cases continues
  · have after := congrArg Prod.fst continues
    dsimp only at after
    split at after
    · rw [← Progress.looping.inj after, transmit_torecv]
      split
      · exact deliver_torecv _
      · rfl
    · cases after
    · cases after
    · cases after

end Iterations

/-! ## The loops of a run -/

section Loops

variable {config : MeasureConfig} {start state : MeasureState packetListLength}
  {environment : Environment}

theorem SocketResults.loop (results : SocketResults config start environment) {first : Nat}
    (enters : Enters config start environment first state) :
    LoopResults (missingBytes config state) (environment.after first) where
  fits := results.fits first state enters
  closed := fun count => results.closed (first + count)

/-- Every iteration that continues has called `recv`. -/
theorem Reached.number_le {number first : Nat}
    (reached : Reached config start environment number first state) : number ≤ first := by
  induction reached with
  | start => exact Nat.le_refl 0
  | @next number first count _ _ _ _ _ continues inductionHypothesis =>
      cases count with
      | zero =>
          rw [(looping_of_iteration (congrArg Prod.fst continues)).2] at continues
          cases continues
      | succ count => omega

/-- No iteration has more to receive than a packet. -/
theorem Reached.bounded (sized : 0 < config.size) (bounded : start.torecv ≤ config.size)
    (results : SocketResults config start environment) {number first : Nat}
    (reached : Reached config start environment number first state) :
    state.torecv ≤ config.size := by
  induction reached with
  | start => exact bounded
  | next reached waits continues inductionHypothesis =>
      rcases looping_of_iteration (congrArg Prod.fst continues) with ⟨running, body⟩
      rw [loopBody_torecv (body.symm.trans continues)]
      exact receivePart_torecv sized (by exact inductionHypothesis)
        (results.loop ⟨_, _, reached, running.1, running.2, rfl⟩) waits

/-- Every receive loop of a run ends as it should exactly when `recv` returns 0 to no
call of the run. -/
theorem receiveEnds_iff (sized : 0 < config.size) (bounded : start.torecv ≤ config.size)
    (results : SocketResults config start environment) :
    ReceiveEnds config start environment ↔
      ∀ call, Calls config start environment call → environment.recvs call ≠ .received [] := by
  have loop : ∀ first state, Enters config start environment first state →
      (ReceiveLoopEnds config state (environment.after first) ↔
        ∀ count, Asks (missingBytes config state) (environment.after first) count →
          environment.recvs (first + count) ≠ .received []) := by
    intro first state enters
    have fits := results.loop enters
    rcases enters with ⟨number, before, reached, _, _, rfl⟩
    have kept := reached.bounded sized bounded results
    have within : ({ before with now := environment.clock number } :
        MeasureState packetListLength).torecv ≤ config.size :=
      kept
    exact receiveLoopEnds_iff sized within fits
  constructor
  · rintro ends _ ⟨first, state, count, enters, asks, rfl⟩
    exact (loop first state enters).mp (ends first state enters) count asks
  · intro fine first state enters
    exact (loop first state enters).mpr fun count asks =>
      fine _ ⟨first, state, count, enters, asks, rfl⟩

end Loops

/-- The state before the first iteration, with eight bytes to a packet. -/
def oneSampleState : MeasureState 4 where
  now := 10
  sid := 0
  sends := 0
  recvs := 0
  tosend := 0
  torecv := 0
  sentPackets := 0
  receivedPackets := 0
  latePackets := 0
  droppedPackets := 0
  cooldownTime := 0
  endTime := 0
  sbuf := List.replicate 8 0
  rbuf := List.replicate 8 0
  table := PacketList.zeroed 4 (by decide)
  rttSample := [0]

/-- A clock that stands still and an empty rate, with the given results of `recv`. -/
def receiveOnly (recvs : Nat → RecvOutcome) : Environment where
  recvs := recvs
  clock := fun _ => 10
  sends := fun _ => []

/-- A reply of eight bytes, and then nothing to read. -/
theorem receiveEnds_iff_reply :
    let environment := receiveOnly fun call =>
      if call = 0 then .received (List.replicate 8 0) else .eagain
    ReceiveEnds oneSampleConfig oneSampleState environment ↔
      ∀ call, Calls oneSampleConfig oneSampleState environment call →
        environment.recvs call ≠ .received [] := by
  intro environment
  have sized : 0 < oneSampleConfig.size := by decide
  have bounded : oneSampleState.torecv ≤ oneSampleConfig.size := by decide
  have only : ∀ call data, environment.recvs call = .received data →
      call = 0 ∧ data = List.replicate 8 0 := by
    intro call data here
    change (if call = 0 then RecvOutcome.received (List.replicate 8 0) else .eagain) = _ at here
    split at here
    · next first => exact ⟨first, (RecvOutcome.received.inj here).symm⟩
    · cases here
  apply receiveEnds_iff sized bounded
  constructor
  · rintro first state ⟨number, before, reached, _, _, rfl⟩ count data _ here
    rcases only _ data here with ⟨calls, rfl⟩
    rcases Nat.add_eq_zero_iff.mp calls with ⟨rfl, rfl⟩
    have zero := Nat.eq_zero_of_le_zero reached.number_le
    subst zero
    cases reached
    decide
  · intro call closed
    have empty := (only call [] closed).2
    cases empty

/-- The peer closes before it has sent anything: the loop never ends. -/
theorem closedPeer_loops :
    let environment := receiveOnly fun _ => .received []
    SocketResults oneSampleConfig oneSampleState environment ∧
      (∀ count, (receivePart oneSampleConfig (beginCooldown oneSampleConfig oneSampleState)
        (firsts (environment.after 0) count)).1 = .waiting) ∧
      ¬ ReceiveEnds oneSampleConfig oneSampleState environment := by
  intro environment
  have sized : 0 < oneSampleConfig.size := by decide
  have bounded : oneSampleState.torecv ≤ oneSampleConfig.size := by decide
  have missing : 0 < (missingBytes oneSampleConfig oneSampleState).toNat := by decide
  have nothing : ∀ first count, receivedTotal (firsts (environment.after first) count) = 0 := by
    intro first count
    induction count with
    | zero => rfl
    | succ count inductionHypothesis =>
        rw [firsts_succ, receivedTotal_concat, inductionHypothesis]
        rfl
  have results : SocketResults oneSampleConfig oneSampleState environment := by
    constructor
    · intro first state _ count data _ here
      cases here
      rw [nothing]
      exact Nat.zero_le _
    · exact fun _ closed => closed
  have enters : Enters oneSampleConfig oneSampleState environment 0 oneSampleState :=
    ⟨0, oneSampleState, .start, by decide, Or.inl rfl, rfl⟩
  have waiting : ∀ count,
      (receivePart oneSampleConfig (beginCooldown oneSampleConfig oneSampleState)
        (firsts (environment.after 0) count)).1 = .waiting := by
    intro count
    apply (receivePart_waiting sized bounded (results.loop enters) count).mpr
    exact ⟨fun _ _ => ⟨[], rfl⟩, by rw [nothing]; exact missing⟩
  refine ⟨results, waiting, fun ends => ?_⟩
  rcases (ends 0 oneSampleState enters).terminates with ⟨count, ended⟩
  exact ended (waiting count)

end Latency
end Ipbench
