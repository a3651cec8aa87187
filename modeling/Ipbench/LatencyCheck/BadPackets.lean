import Ipbench.Latency.Output
import Ipbench.Latency.TcpSession
import Ipbench.LatencyCheck.Marshalling

namespace Ipbench
namespace LatencyCheck

open Foundation Latency

/-!
# Corrupted echoes

The target of latency-check stores one more than the first word of a packet in
the second word.  `ip_read_packet` says whether it has done so, but the
measuring loop drops what it says: the line that added it up is commented out.
The field `bad_packets` of the result is never assigned.  It is marshalled and
unmarshalled like the other fields, and then the controller prints the field of
its own result, which has not been assigned either.

Hence the number printed is zero whatever the targets return.
-/

/-! ## The client -/

/-- `ip_read_packet`: zero if the second word equals the first word plus one,
and the first word. -/
def ipReadPacket (order : ByteOrder) (packet : List UInt8) : Int × UInt64 :=
  let seq := order.load (packet.take 8)
  (if seq + 1 ≠ order.load ((packet.drop 8).take 8) then 1 else 0, seq)

/-- The packet functions as the measuring loop uses them: the loop is that of
the latency test, and of `read_packet` it keeps the identifier only. -/
def ipLayer (order : ByteOrder) : LayerOpts where
  fillPacket := ipFillPacket order
  readPacket := fun packet => (ipReadPacket order packet).2

def LatencyResult.zeroed : LatencyResult where
  size := 0
  transmittedBytes := 0
  microseconds := 0
  bps := 0
  bpsSent := 0
  sends := 0
  recvs := 0
  badPackets := 0

/-- The fields that `measure_latency` assigns at its end. -/
def LatencyResult.assign (result : LatencyResult) (measured : Latency.LatencyResult) :
    LatencyResult :=
  { measured with badPackets := result.badPackets }

/-- A client with everything its environment decides. -/
structure Client where
  order : ByteOrder
  config : MeasureConfig
  layered : config.layer = ipLayer order
  packetListLength : Nat
  positive : 0 < packetListLength
  sbuf : Option (List UInt8)
  rbuf : Option (List UInt8)
  inputs : List IterationInput
  valid : Bool

namespace Client

variable (client : Client)

def run : Progress client.packetListLength × List MeasureEvent :=
  measureLatency client.config client.positive client.sbuf client.rbuf client.inputs

/-- The message of a client whose measurement has returned. -/
def message (malloc : Nat → Bool) : Option (List UInt8) :=
  match client.run.1 with
  | .returned state measured =>
      match latencyMarshall client.order malloc client.config.tickRate.tickToUsec
          (LatencyResult.zeroed.assign measured) client.config.bps client.config.samples
          state.rttSample with
      | some (.message data _) => some data
      | _ => none
  | _ => none

end Client

/-! ## The controller -/

/-- The memory of the controller, with its own static result. -/
structure Controller where
  samples : UInt64
  result : LatencyResult
  clientData : List (Option ClientData)
deriving DecidableEq, Repr

def setupController (samples : UInt64) (totalclients : Nat) : Controller where
  samples := samples
  result := LatencyResult.zeroed
  clientData := List.replicate totalclients none

/-- `unmarshall` of the shunt.  Its wrapper raises an exception when the status is not zero. -/
def unmarshall (order : ByteOrder) (malloc : Nat → Bool) (controller : Controller)
    (clientid : Nat) (data : List UInt8) (valid : Bool) : Option Controller :=
  if clientid < controller.clientData.length then
    (latencyUnmarshall order malloc controller.samples data).map fun result =>
      { controller with
        samples := result.samples
        clientData := controller.clientData.set clientid
          (some { data := result.data, size := result.dataLen, valid := valid }) }
  else none

/-- One turn of the loop of `latency_output`.  The samples follow nine words of
header. -/
def addClient (order : ByteOrder) (samples : UInt64) (totals : Totals)
    (entry : Option ClientData) : Option Totals := do
  let client ← entry
  let theresult ← client.data
  let rtts ← readWords order theresult 9 samples.toNat
  let requested ← readWord order theresult 6
  let achieved ← readWord order theresult 7
  let sent ← readWord order theresult 8
  let size ← readWord order theresult 2
  some
    { totalRequestedThroughput := totals.totalRequestedThroughput + requested
      totalAchievedThroughput := totals.totalAchievedThroughput + achieved
      totalSentThroughput := totals.totalSentThroughput + sent
      packetSize := size
      rttTotals := totals.rttTotals ++ rtts }

/-- The line that is printed, with its last field. -/
structure OutputLine extends Latency.OutputLine where
  badPackets : Int
deriving DecidableEq, Repr

inductive OutputResult where
  | outOfMemory
  | line (line : OutputLine)
deriving DecidableEq, Repr

def latencyOutput (order : ByteOrder) (malloc : Nat → Bool) (controller : Controller) :
    Option OutputResult :=
  let samples := controller.samples
  let nelem := controller.clientData.length
  let size := (samples * 8 * UInt64.ofNat nelem).toNat
  if malloc size then do
    let totals ← controller.clientData.foldlM (addClient order samples) noTotals
    if size < 8 * totals.rttTotals.length then none
    else
      let rtts ← rttResults totals.rttTotals (UInt64.ofNat nelem * samples).toNat
      some (.line
        { outputLine totals rtts with badPackets := printed controller.result.badPackets })
  else some .outOfMemory

section Run

variable (order : ByteOrder) (malloc : Nat → Bool) (clients : List Client)

/-- The arrival of the message of one client. -/
def arrive (controller : Controller) (clientid : Nat) : Option Controller := do
  let client ← clients[clientid]?
  let message ← client.message malloc
  unmarshall order malloc controller clientid message client.valid

/-- All messages in the order of their arrival, and then the output. -/
def aggregate (samples : UInt64) (arrivals : List Nat) : Option OutputResult :=
  (arrivals.foldlM (arrive order malloc clients) (setupController samples clients.length)).bind
    (latencyOutput order malloc)

end Run

/-! ## The purpose -/

def blocks (width : Nat) (stream : List UInt8) : List (List UInt8) :=
  (List.range (stream.length / width)).map fun index => (stream.drop (index * width)).take width

/-- The second word of a reply is not the first word plus one. -/
def Corrupted (order : ByteOrder) (reply : List UInt8) : Prop :=
  order.load ((reply.drop 8).take 8) ≠ order.load (reply.take 8) + 1

instance (order : ByteOrder) (reply : List UInt8) : Decidable (Corrupted order reply) :=
  inferInstanceAs (Decidable (_ ≠ _))

/-- The replies that a client receives during its run. -/
def Client.replies (client : Client) : List (List UInt8) :=
  blocks client.config.size.toNat (receivedBytes client.run.2)

def Client.corrupted (client : Client) : Nat :=
  client.replies.countP fun reply => Corrupted client.order reply

def corruptedReplies (clients : List Client) : Nat :=
  (clients.map Client.corrupted).sum

theorem corruptedReplies_eq_zero_iff (clients : List Client) :
    corruptedReplies clients = 0 ↔
      ∀ client ∈ clients, ∀ reply ∈ client.replies, ¬ Corrupted client.order reply := by
  rw [corruptedReplies, List.sum_eq_zero_iff]
  constructor
  · intro none_ client member reply received corrupted
    have count := none_ _ (List.mem_map_of_mem member)
    have clean := List.countP_eq_zero.mp count reply received
    exact clean (decide_eq_true corrupted)
  · intro clean count member
    rcases List.mem_map.mp member with ⟨client, among, rfl⟩
    apply List.countP_eq_zero.mpr
    intro reply received corrupted
    exact clean client among reply received (of_decide_eq_true corrupted)

/-! ## What is printed -/

section Printed

variable {order : ByteOrder} {malloc : Nat → Bool} {clients : List Client}

/-- A message does not touch the result of the controller. -/
theorem arrive_result {controller next : Controller} {clientid : Nat}
    (arrived : arrive order malloc clients controller clientid = some next) :
    next.result = controller.result := by
  rcases Option.bind_eq_some_iff.mp arrived with ⟨client, _, arrived⟩
  rcases Option.bind_eq_some_iff.mp arrived with ⟨message, _, arrived⟩
  unfold unmarshall at arrived
  split at arrived
  · rcases Option.map_eq_some_iff.mp arrived with ⟨result, _, rfl⟩
    rfl
  · cases arrived

theorem arrivals_result {arrivals : List Nat} {controller finish : Controller}
    (arrived : arrivals.foldlM (arrive order malloc clients) controller = some finish) :
    finish.result = controller.result := by
  induction arrivals generalizing controller with
  | nil =>
      cases arrived
      rfl
  | cons clientid rest inductionHypothesis =>
      rw [List.foldlM_cons] at arrived
      rcases Option.bind_eq_some_iff.mp arrived with ⟨next, here, later⟩
      rw [inductionHypothesis later, arrive_result here]

theorem latencyOutput_badPackets {controller : Controller} {line : OutputLine}
    (output : latencyOutput order malloc controller = some (.line line)) :
    line.badPackets = printed controller.result.badPackets := by
  unfold latencyOutput at output
  dsimp only at output
  split at output
  · rcases Option.bind_eq_some_iff.mp output with ⟨totals, _, output⟩
    split at output
    · cases output
    · rcases Option.bind_eq_some_iff.mp output with ⟨rtts, _, output⟩
      rw [← OutputResult.line.inj (Option.some.inj output)]
  · cases output

theorem aggregate_badPackets {samples : UInt64} {arrivals : List Nat} {line : OutputLine}
    (output : aggregate order malloc clients samples arrivals = some (.line line)) :
    line.badPackets = 0 := by
  rcases Option.bind_eq_some_iff.mp output with ⟨controller, arrived, output⟩
  have zero : printed 0 = 0 := Int.zero_bmod
  rw [latencyOutput_badPackets output, arrivals_result arrived]
  exact zero

end Printed

/-- The last field of the output line is the number of corrupted replies of all
clients exactly if there is none. -/
theorem badPackets_reported_iff (order : ByteOrder) (malloc : Nat → Bool)
    (clients : List Client) (samples : UInt64) (arrivals : List Nat) (line : OutputLine)
    (output : aggregate order malloc clients samples arrivals = some (.line line)) :
    line.badPackets = corruptedReplies clients ↔
      ∀ client ∈ clients, ∀ reply ∈ client.replies, ¬ Corrupted client.order reply := by
  rw [aggregate_badPackets output, ← corruptedReplies_eq_zero_iff]
  exact eq_comm.trans Int.natCast_eq_zero

/-- A client that measures one round trip of 16 bytes, with the given second
word in the reply. -/
def clientWith (second : UInt64) : Client where
  order := .little
  config :=
    { layer := ipLayer .little
      tickRate := { usecToTick := id, tickToUsec := id, predictedSends := fun _ _ _ => 1 }
      samples := 1, bps := 128, size := 16, warmup := 0, cooldown := 1, startTime := 1 }
  layered := rfl
  packetListLength := 1
  positive := Nat.one_pos
  sbuf := some (List.replicate 16 0)
  rbuf := some (List.replicate 16 0)
  inputs :=
    [{ now := 2, recvs := [.eagain], sends := [.sent 16] },
      { now := 5, recvs := [.received (storeWords .little [0, second])], sends := [] },
      { now := 6, recvs := [.eagain], sends := [] },
      { now := 9, recvs := [], sends := [] }]
  valid := true

/-- The line that the controller prints for such a client. -/
def lineWith : OutputLine where
  totalRequestedThroughput := 128
  totalAchievedThroughput := 25600000
  totalSentThroughput := 25600000
  packetSize := 16
  rttMin := 3
  rttAv := 3
  rttMax := 3
  rttStd := 0
  rttMed := 3
  badPackets := 0

theorem badPackets_reported_iff_clean :
    lineWith.badPackets = corruptedReplies [clientWith 1] ↔
      ∀ client ∈ [clientWith 1], ∀ reply ∈ client.replies, ¬ Corrupted client.order reply :=
  badPackets_reported_iff .little (fun _ => true) [clientWith 1] 1 [0] lineWith
    (by decide +kernel)

/-- A target that leaves the second word alone corrupts the only reply, and the
line says zero. -/
theorem corruptedReply_unreported :
    aggregate .little (fun _ => true) [clientWith 0] 1 [0] = some (.line lineWith) ∧
      corruptedReplies [clientWith 0] = 1 ∧
      lineWith.badPackets ≠ corruptedReplies [clientWith 0] := by
  decide +kernel

end LatencyCheck
end Ipbench
