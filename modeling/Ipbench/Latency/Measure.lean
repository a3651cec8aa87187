import Ipbench.Latency.PacketList

namespace Ipbench
namespace Latency

open Foundation

/-!
# The measuring loop of the latency client

One iteration of `measure_latency` reads the clock, receives what the socket
offers, delivers a completed reply, and sends a part of the next packet.  An
input of the machine is everything the environment decides during one
iteration: the clock reading and the results of the calls of `recv` and
`send`.  When an iteration makes more calls than its input answers, the
machine waits there.

The layer's packet functions are the function pointers of `layer_opts`.  The
conversions between ticks, microseconds and packets are floating-point
computations of the source; they are parameters here, and nothing is assumed
of them.  Counters that the source only prints as debugging output (the
numbers of `EAGAIN` results and of broken calls) are not part of the state.
-/

/-- The packet functions of a layer. -/
structure LayerOpts where
  fillPacket : List UInt8 → UInt64 → List UInt8
  readPacket : List UInt8 → UInt64

/-- The floating-point conversions.  `predictedSends` is the product of the
elapsed ticks and the send rate, which depends on the throughput and size. -/
structure TickRate where
  usecToTick : UInt64 → UInt64
  tickToUsec : UInt64 → UInt64
  predictedSends : (bps size elapsed : UInt64) → UInt64

/-- The test arguments and the clock reading taken before the loop. -/
structure MeasureConfig where
  layer : LayerOpts
  tickRate : TickRate
  samples : UInt64
  bps : UInt64
  size : UInt64
  warmup : UInt64
  cooldown : UInt64
  startTime : UInt64

namespace MeasureConfig

def warmupTime (config : MeasureConfig) : UInt64 :=
  config.startTime + config.tickRate.usecToTick config.warmup

end MeasureConfig

/-- A result of `recv`: the bytes received, `EAGAIN`, or another error. -/
inductive RecvOutcome where
  | received (data : List UInt8)
  | eagain
  | error
deriving DecidableEq, Repr

/-- A result of `send`: the number of bytes accepted, `EAGAIN`, or another error. -/
inductive SendOutcome where
  | sent (count : Nat)
  | eagain
  | error
deriving DecidableEq, Repr

/-- What the environment decides during one iteration. -/
structure IterationInput where
  now : UInt64
  recvs : List RecvOutcome
  sends : List SendOutcome
deriving DecidableEq, Repr

/-- A write to `rtt_sample`, with the variables it was computed from. -/
structure Sample where
  index : UInt64
  rtt : UInt64
  packetId : UInt64
  sendTime : UInt64
  now : UInt64
deriving DecidableEq, Repr

/-- The observable actions of an iteration. -/
inductive MeasureEvent where
  | received (data : List UInt8)
  | deleted (packetId sendTime : UInt64)
  | sampled (sample : Sample)
  | sent (data : List UInt8)
  | added (packetId sendTime drops : UInt64)
deriving DecidableEq, Repr

/-- The local variables of the loop, with the table and the sample array. -/
structure MeasureState (packetListLength : Nat) where
  now : UInt64
  sid : UInt64
  sends : UInt64
  recvs : UInt64
  tosend : UInt64
  torecv : UInt64
  sentPackets : UInt64
  receivedPackets : UInt64
  latePackets : UInt64
  droppedPackets : UInt64
  cooldownTime : UInt64
  endTime : UInt64
  sbuf : List UInt8
  rbuf : List UInt8
  table : PacketList packetListLength
  rttSample : List UInt64

/-- The fields of the result that are set outside debugging builds. -/
structure LatencyResult where
  size : UInt64
  transmittedBytes : UInt64
  microseconds : UInt64
  bps : UInt64
  bpsSent : UInt64
  sends : UInt64
  recvs : UInt64
deriving DecidableEq, Repr

/-- Where the function is.  `aborted` is a failed assertion or a division by
zero; `waiting` is a call that the environment has not answered. -/
inductive Progress (packetListLength : Nat) where
  | looping (state : MeasureState packetListLength)
  | waiting (state : MeasureState packetListLength)
  | failed
  | aborted
  | returned (state : MeasureState packetListLength) (result : LatencyResult)

/-- Write bytes into a buffer at a position. -/
def overwrite (buffer : List UInt8) (position : Nat) (data : List UInt8) : List UInt8 :=
  buffer.take position ++ data ++ buffer.drop (position + data.length)

/-! ## The inner loops -/

inductive LoopExit where
  | left
  | failed
  | asserted
  | waiting
deriving DecidableEq, Repr

/-- The receive buffer, the bytes missing from it, and those received in this
iteration. -/
structure RecvState where
  torecv : UInt64
  rbuf : List UInt8
  taken : List UInt8

/-- Receive until the packet is complete or the socket has no more data. -/
def recvLoop (size : UInt64) : RecvState → List RecvOutcome → LoopExit × RecvState
  | state, [] => (.waiting, state)
  | state, outcome :: rest =>
      if size < state.torecv then (.asserted, state)
      else
        match outcome with
        | .error => (.failed, state)
        | .eagain => (.left, state)
        | .received data =>
            let next : RecvState :=
              { torecv := state.torecv - UInt64.ofNat data.length
                rbuf := overwrite state.rbuf (size - state.torecv).toNat data
                taken := state.taken ++ data }
            if 0 < next.torecv then recvLoop size next rest else (.left, next)

/-- The bytes still to send and those handed over in this iteration. -/
structure SendState where
  tosend : UInt64
  given : List UInt8

/-- Send until the packet is complete or the socket accepts no more data. -/
def sendLoop (size : UInt64) (sbuf : List UInt8) :
    SendState → List SendOutcome → LoopExit × SendState
  | state, [] => (.waiting, state)
  | state, outcome :: rest =>
      match outcome with
      | .error => (.asserted, state)
      | .eagain => (.left, state)
      | .sent count =>
          let next : SendState :=
            { tosend := state.tosend - UInt64.ofNat count
              given := state.given ++ (sbuf.drop (size - state.tosend).toNat).take count }
          if 0 < next.tosend then sendLoop size sbuf next rest else (.left, next)

/-! ## The parts of an iteration -/

variable {packetListLength : Nat}

/-- The warmup is over and the cooldown has not begun. -/
def MeasureState.measuring (config : MeasureConfig) (state : MeasureState packetListLength) :
    Bool :=
  decide (config.warmupTime ≤ state.now) && decide (state.cooldownTime = 0)

/-- Start the cooldown once enough samples have been received. -/
def beginCooldown (config : MeasureConfig) (state : MeasureState packetListLength) :
    MeasureState packetListLength :=
  if config.samples ≤ state.receivedPackets ∧ state.cooldownTime = 0 then
    { state with
      cooldownTime := state.now
      endTime := state.now + config.tickRate.usecToTick config.cooldown }
  else state

/-- Ask for a whole packet unless one is being received. -/
def beginReceive (config : MeasureConfig) (state : MeasureState packetListLength) :
    MeasureState packetListLength :=
  if state.torecv = 0 then { state with torecv := config.size } else state

def receivePart (config : MeasureConfig) (state : MeasureState packetListLength)
    (outcomes : List RecvOutcome) : LoopExit × MeasureState packetListLength × List UInt8 :=
  let ready := beginReceive config state
  let got := recvLoop config.size
    { torecv := ready.torecv, rbuf := ready.rbuf, taken := [] } outcomes
  (got.1, { ready with torecv := got.2.torecv, rbuf := got.2.rbuf }, got.2.taken)

/-- Match a completed reply and record its round trip. -/
def deliver (config : MeasureConfig) (state : MeasureState packetListLength) :
    MeasureState packetListLength × List MeasureEvent :=
  let rid := config.layer.readPacket state.rbuf
  let found := state.table.packetListDel rid
  let next := { state with table := found.2, recvs := state.recvs + 1 }
  if state.measuring config then
    if 0 < found.1 then
      let rtt := state.now - found.1
      ({ next with
          rttSample := state.rttSample.set state.receivedPackets.toNat rtt
          receivedPackets := state.receivedPackets + 1 },
        [.deleted rid found.1,
          .sampled
            { index := state.receivedPackets, rtt := rtt, packetId := rid
              sendTime := found.1, now := state.now }])
    else ({ next with latePackets := state.latePackets + 1 }, [.deleted rid found.1])
  else (next, [.deleted rid found.1])

/-- Fill the next packet unless one is being sent. -/
def beginSend (config : MeasureConfig) (state : MeasureState packetListLength) :
    MeasureState packetListLength :=
  if state.tosend = 0 then
    { state with
      sbuf := config.layer.fillPacket state.sbuf state.sid
      tosend := config.size }
  else state

/-- Enter a completely sent packet into the table. -/
def completeSend (config : MeasureConfig) (state : MeasureState packetListLength) :
    MeasureState packetListLength × List MeasureEvent :=
  let added := state.table.packetListAdd state.sid state.now
  let next := { state with
    table := added.2
    sid := state.sid + 1
    sends := state.sends + 1 }
  (if state.measuring config then
      { next with
        droppedPackets := state.droppedPackets + added.1
        sentPackets := state.sentPackets + 1 }
    else next,
    [.added state.sid state.now added.1])

def sendPart (config : MeasureConfig) (state : MeasureState packetListLength)
    (outcomes : List SendOutcome) : LoopExit × MeasureState packetListLength × List UInt8 :=
  let filled := beginSend config state
  let gone := sendLoop config.size filled.sbuf { tosend := filled.tosend, given := [] } outcomes
  (gone.1, { filled with tosend := gone.2.tosend }, gone.2.given)

/-- Send while fewer packets were sent than the rate predicts. -/
def transmit (config : MeasureConfig) (state : MeasureState packetListLength)
    (outcomes : List SendOutcome) :
    LoopExit × MeasureState packetListLength × List MeasureEvent :=
  if state.sends < config.tickRate.predictedSends config.bps config.size
      (state.now - config.startTime) then
    let part := sendPart config state outcomes
    if part.1 = .left ∧ part.2.1.tosend = 0 then
      let completed := completeSend config part.2.1
      (.left, completed.1, .sent part.2.2 :: completed.2)
    else (part.1, part.2.1, [.sent part.2.2])
  else (.left, state, [])

/-- The results computed after the loop; a zero duration divides by zero. -/
def finish (config : MeasureConfig) (state : MeasureState packetListLength) :
    Progress packetListLength :=
  let microseconds := config.tickRate.tickToUsec (state.cooldownTime - config.warmupTime)
  if microseconds = 0 then .aborted
  else
    .returned state
      { size := config.size
        transmittedBytes := state.receivedPackets * config.size
        microseconds := microseconds
        bps := 8 * state.receivedPackets * config.size * 1000000 / microseconds
        bpsSent := 8 * state.sentPackets * config.size * 1000000 / microseconds
        sends := state.sentPackets
        recvs := state.receivedPackets }

/-- The body of the loop, after the clock reading has been stored. -/
def loopBody (config : MeasureConfig) (state : MeasureState packetListLength)
    (input : IterationInput) : Progress packetListLength × List MeasureEvent :=
  let part := receivePart config (beginCooldown config state) input.recvs
  match part.1 with
  | .failed => (.failed, [.received part.2.2])
  | .asserted => (.aborted, [.received part.2.2])
  | .waiting => (.waiting part.2.1, [.received part.2.2])
  | .left =>
      let delivered := if part.2.1.torecv = 0 then deliver config part.2.1 else (part.2.1, [])
      let sent := transmit config delivered.1 input.sends
      (match sent.1 with
        | .left => .looping sent.2.1
        | .waiting => .waiting sent.2.1
        | .failed => .failed
        | .asserted => .aborted,
        .received part.2.2 :: (delivered.2 ++ sent.2.2))

/-- The condition of the loop is evaluated on a fresh clock reading. -/
def iteration (config : MeasureConfig) (state : MeasureState packetListLength)
    (input : IterationInput) : Progress packetListLength × List MeasureEvent :=
  let timed := { state with now := input.now }
  if input.now ≠ 0 ∧ (state.endTime = 0 ∨ input.now < state.endTime) then
    loopBody config timed input
  else (finish config timed, [])

/-- The function as a machine.  Only a looping state consumes inputs. -/
def measureMachine (config : MeasureConfig) (packetListLength : Nat) :
    Machine (Progress packetListLength) IterationInput MeasureEvent where
  step := fun progress input =>
    match progress with
    | .looping state => iteration config state input
    | stopped => (stopped, [])

/-- The state before the first iteration.  The buffers come from
`setup_packet`, whose failure fails the assertion; the sample array and the
table are those of `latency_setup`.  The loop reads the clock before it uses
the variable `now`. -/
def measureStart (config : MeasureConfig) (table : PacketList packetListLength)
    (sbuf rbuf : Option (List UInt8)) : Progress packetListLength :=
  match sbuf, rbuf with
  | some sbuf, some rbuf =>
      .looping
        { now := config.startTime
          sid := 0, sends := 0, recvs := 0, tosend := 0, torecv := 0
          sentPackets := 0, receivedPackets := 0, latePackets := 0, droppedPackets := 0
          cooldownTime := 0, endTime := 0
          sbuf := sbuf, rbuf := rbuf
          table := table
          rttSample := List.replicate config.samples.toNat 0 }
  | _, _ => .aborted

/-- A run of the function from the zeroed table. -/
def measureLatency (config : MeasureConfig) (positive : 0 < packetListLength)
    (sbuf rbuf : Option (List UInt8)) (inputs : List IterationInput) :
    Progress packetListLength × List MeasureEvent :=
  (measureMachine config packetListLength).run
    (measureStart config (PacketList.zeroed packetListLength positive) sbuf rbuf) inputs

/-! ## What the parts leave alone -/

theorem receivePart_frame (config : MeasureConfig) (state : MeasureState packetListLength)
    (outcomes : List RecvOutcome) :
    (receivePart config state outcomes).2.1.now = state.now ∧
      (receivePart config state outcomes).2.1.cooldownTime = state.cooldownTime ∧
      (receivePart config state outcomes).2.1.receivedPackets = state.receivedPackets := by
  unfold receivePart beginReceive
  split
  · exact ⟨rfl, rfl, rfl⟩
  · exact ⟨rfl, rfl, rfl⟩

theorem deliver_frame (config : MeasureConfig) (state : MeasureState packetListLength) :
    (deliver config state).1.now = state.now ∧ (deliver config state).1.tosend = state.tosend := by
  unfold deliver
  dsimp only
  split
  · split
    · exact ⟨rfl, rfl⟩
    · exact ⟨rfl, rfl⟩
  · exact ⟨rfl, rfl⟩

/-- A packet that is complete is delivered, which leaves the clock and what is to send. -/
theorem delivered_frame (config : MeasureConfig) (state : MeasureState packetListLength) :
    (if state.torecv = 0 then deliver config state else (state, [])).1.now = state.now ∧
      (if state.torecv = 0 then deliver config state else (state, [])).1.tosend =
        state.tosend := by
  split
  · exact deliver_frame config state
  · exact ⟨rfl, rfl⟩

theorem beginCooldown_now (config : MeasureConfig) (state : MeasureState packetListLength) :
    (beginCooldown config state).now = state.now := by
  unfold beginCooldown
  split
  · rfl
  · rfl

theorem sendPart_frame (config : MeasureConfig) (state : MeasureState packetListLength)
    (outcomes : List SendOutcome) :
    (sendPart config state outcomes).2.1.now = state.now ∧
      (sendPart config state outcomes).2.1.sends = state.sends := by
  unfold sendPart beginSend
  split
  · exact ⟨rfl, rfl⟩
  · exact ⟨rfl, rfl⟩

theorem transmit_now (config : MeasureConfig) (state : MeasureState packetListLength)
    (outcomes : List SendOutcome) : (transmit config state outcomes).2.1.now = state.now := by
  have frame := sendPart_frame config state outcomes
  unfold transmit
  split
  · dsimp only
    split
    · unfold completeSend
      dsimp only
      split
      · exact frame.1
      · exact frame.1
    · exact frame.1
  · rfl

/-! ## The samples of a trace -/

/-- The writes to `rtt_sample` in a trace. -/
def samplesOf (trace : List MeasureEvent) : List Sample :=
  trace.filterMap fun event =>
    match event with
    | .sampled sample => some sample
    | _ => none

theorem mem_samplesOf {sample : Sample} {trace : List MeasureEvent}
    (member : .sampled sample ∈ trace) : sample ∈ samplesOf trace :=
  List.mem_filterMap.mpr ⟨.sampled sample, member, rfl⟩

theorem samplesOf_append (first second : List MeasureEvent) :
    samplesOf (first ++ second) = samplesOf first ++ samplesOf second :=
  List.filterMap_append

@[simp] theorem samplesOf_nil : samplesOf [] = [] := rfl

@[simp] theorem samplesOf_received (data : List UInt8) (rest : List MeasureEvent) :
    samplesOf (.received data :: rest) = samplesOf rest := rfl

@[simp] theorem samplesOf_deleted (packetId sendTime : UInt64) (rest : List MeasureEvent) :
    samplesOf (.deleted packetId sendTime :: rest) = samplesOf rest := rfl

@[simp] theorem samplesOf_sampled (sample : Sample) (rest : List MeasureEvent) :
    samplesOf (.sampled sample :: rest) = sample :: samplesOf rest := rfl

@[simp] theorem samplesOf_sent (data : List UInt8) (rest : List MeasureEvent) :
    samplesOf (.sent data :: rest) = samplesOf rest := rfl

@[simp] theorem samplesOf_added (packetId sendTime drops : UInt64) (rest : List MeasureEvent) :
    samplesOf (.added packetId sendTime drops :: rest) = samplesOf rest := rfl

end Latency
end Ipbench
