import Ipbench.Latency.TcpSession

namespace Ipbench
namespace Echo

open Foundation Latency

/-!
# A TCP session with the echo server

The server of the repository collects whole messages of its own size and
sends each of them back.  The client knows nothing of that size: its packets
may be cut across messages, and a message is returned only when its last byte
has arrived.

The connection is two queues of bytes.  The client and the server take turns
in any order, and a turn moves any number of bytes.  What `Connection` keeps
is that no byte is lost or overtaken: what the client has sent is what it has
received, followed by the answers under way, the unfinished message and the
bytes that have not arrived.

`do_echo` returns when `recv` or `send` has moved anything but one whole
message, and its process closes the socket.
-/

/-- The bytes between the parties, with the part of a message that `recv` has collected. -/
structure Connection where
  toServer : List UInt8
  collected : List UInt8
  toClient : List UInt8
  returned : Bool
deriving DecidableEq, Repr

/-- What the calls of `do_echo` do in a turn: `recv` takes up to `count` bytes and returns `r`, or
waits for more, and a `send` returns `s`. -/
structure EchoCalls where
  count : Nat
  r : Option Int
  s : Int
deriving DecidableEq, Repr

/-- The bytes that reach the buffer of `recv`. -/
def Connection.receive (messageSize : UInt32) (count : Nat) (connection : Connection) :
    Connection :=
  let taken := min count (messageSize.toNat - connection.collected.length)
  { connection with
    toServer := connection.toServer.drop taken
    collected := connection.collected ++ connection.toServer.take taken }

def Connection.send (messageSize : UInt32) (s : Int) (connection : Connection) : Connection :=
  if UInt32.ofInt s ≠ messageSize then
    { connection with
      collected := connection.collected.drop s.toNat
      toClient := connection.toClient ++ connection.collected.take s.toNat
      returned := true }
  else
    { connection with
      collected := []
      toClient := connection.toClient ++ connection.collected }

def Connection.doEcho (messageSize : UInt32) (calls : EchoCalls) (connection : Connection) :
    Connection :=
  if connection.returned then connection
  else
    let received := connection.receive messageSize calls.count
    match calls.r with
    | none => received
    | some r =>
        if UInt32.ofInt r ≠ messageSize then { received with returned := true }
        else received.send messageSize calls.s

/-- `recv` with `MSG_WAITALL` waits for a whole message and returns the number of its bytes,
fewer after a signal or at the end of the stream, and -1 when it fails.  `send` returns the number
of bytes that it has taken, or -1. -/
structure Connection.Performs (messageSize : UInt32) (connection : Connection)
    (calls : EchoCalls) : Prop where
  waits : calls.r = none →
    (connection.receive messageSize calls.count).collected.length < messageSize.toNat
  recv : ∀ r ∈ calls.r,
    r = (connection.receive messageSize calls.count).collected.length ∨ r = -1
  send : -1 ≤ calls.s ∧ calls.s ≤ messageSize.toNat

instance (messageSize : UInt32) (connection : Connection) (calls : EchoCalls) :
    Decidable (connection.Performs messageSize calls) :=
  decidable_of_iff (_ ∧ _ ∧ _)
    ⟨fun performs => ⟨performs.1, performs.2.1, performs.2.2⟩,
      fun performs => ⟨performs.waits, performs.recv, performs.send⟩⟩

/-- What the client takes from the connection and gives to it. -/
def Connection.move (connection : Connection) (events : List MeasureEvent) : Connection :=
  { connection with
    toServer := connection.toServer ++ sentBytes events
    toClient := connection.toClient.drop (receivedBytes events).length }

inductive Turn where
  | client (input : IterationInput)
  | server (calls : EchoCalls)
deriving DecidableEq, Repr

/-- The client, the connection and the server. -/
structure System (packetListLength : Nat) where
  client : Progress packetListLength
  connection : Connection

variable {packetListLength : Nat}

/-- The system as a machine, with the events of the client. -/
def system (config : MeasureConfig) (messageSize : UInt32) (packetListLength : Nat) :
    Machine (System packetListLength) Turn MeasureEvent where
  step := fun state turn =>
    match turn with
    | .server calls => ({ state with connection := state.connection.doEcho messageSize calls }, [])
    | .client input =>
        let moved := (measureMachine config packetListLength).step state.client input
        ({ client := moved.1, connection := state.connection.move moved.2 }, moved.2)

/-- The socket hands the client the next bytes of the connection, and moves between one byte and
all the bytes asked for. -/
def Delivers (config : MeasureConfig) (messageSize : UInt32) (state : System packetListLength) :
    List MeasureEvent → Turn → Prop
  | _, .server calls => state.connection.Performs messageSize calls
  | _, .client input =>
      match state.client with
      | .looping client =>
          RecvsFit (beginReceive config client).torecv.toNat input.recvs ∧
            SendsFit (beginSend config client).tosend.toNat input.sends ∧
            receivedBytes (iteration config client input).2 <+: state.connection.toClient
      | _ => True

instance (config : MeasureConfig) (messageSize : UInt32) (state : System packetListLength)
    (trace : List MeasureEvent) :
    (turn : Turn) → Decidable (Delivers config messageSize state trace turn)
  | .server calls => inferInstanceAs (Decidable (state.connection.Performs messageSize calls))
  | .client _ =>
      match state with
      | { client := .looping _, connection := _ } => inferInstanceAs (Decidable (_ ∧ _ ∧ _))
      | { client := .waiting _, connection := _ } => .isTrue trivial
      | { client := .failed, connection := _ } => .isTrue trivial
      | { client := .aborted, connection := _ } => .isTrue trivial
      | { client := .returned _ _, connection := _ } => .isTrue trivial

/-! ## No byte is lost or overtaken -/

/-- The bytes of a trace are in the order in which they were sent, and while the server echoes,
whole messages have come back. -/
structure Conserved (messageSize : UInt32) (connection : Connection)
    (trace : List MeasureEvent) : Prop where
  bytes : sentBytes trace = receivedBytes trace ++
    (connection.toClient ++ (connection.collected ++ connection.toServer))
  unfinished : connection.returned = false → connection.collected.length < messageSize.toNat
  messages : connection.returned = false →
    messageSize.toNat ∣ (receivedBytes trace ++ connection.toClient).length

variable {messageSize : UInt32} {connection : Connection} {trace : List MeasureEvent}

/-- `recv` moves bytes into the buffer, and no more than it has room for. -/
theorem Conserved.receive (conserved : Conserved messageSize connection trace) (count : Nat) :
    sentBytes trace = receivedBytes trace ++ (connection.toClient ++
        ((connection.receive messageSize count).collected ++
          (connection.receive messageSize count).toServer)) ∧
      (connection.returned = false →
        (connection.receive messageSize count).collected.length ≤ messageSize.toNat) := by
  refine ⟨?_, fun echoing => ?_⟩
  · rw [conserved.bytes]
    simp only [Connection.receive, List.append_assoc, List.take_append_drop]
  · have unfinished := conserved.unfinished echoing
    simp only [Connection.receive, List.length_append, List.length_take]
    omega

/-- The comparison of a count, an `int`, with the size of a message. -/
theorem ofInt_eq_iff {count : Nat} (fits : count ≤ messageSize.toNat) :
    UInt32.ofInt count = messageSize ↔ count = messageSize.toNat := by
  have small := messageSize.toNat_lt
  rw [← UInt32.toNat_inj, UInt32.ofInt]
  simp only [UInt32.toNat_ofNat']
  omega

/-- The result of a call that fails is no size of a message that fits an `int`. -/
theorem ofInt_failed (int : messageSize.toNat < 2 ^ 31) : UInt32.ofInt (-1) ≠ messageSize := by
  intro same
  rw [← same] at int
  exact absurd int (by decide)

theorem Conserved.doEcho (conserved : Conserved messageSize connection trace)
    (int : messageSize.toNat < 2 ^ 31) {calls : EchoCalls}
    (performs : connection.Performs messageSize calls) :
    Conserved messageSize (connection.doEcho messageSize calls) trace := by
  unfold Connection.doEcho
  cases echoing : connection.returned with
  | true =>
      rw [if_pos rfl]
      exact conserved
  | false =>
      rcases conserved.receive calls.count with ⟨bytes, bounded⟩
      have room := bounded echoing
      have waits := performs.waits
      have recv := performs.recv
      have messages := conserved.messages echoing
      have kept : (connection.receive messageSize calls.count).toClient = connection.toClient := rfl
      rw [if_neg Bool.false_ne_true]
      generalize connection.receive messageSize calls.count = received at *
      rw [← kept] at bytes messages
      cases result : calls.r with
      | none => exact ⟨bytes, fun _ => waits result, fun _ => messages⟩
      | some r =>
          dsimp only
          split
          · exact ⟨bytes, nofun, nofun⟩
          · next whole =>
              -- `recv` has filled the buffer, since a failure is no size of a message.
              have full : received.collected.length = messageSize.toNat := by
                rcases recv r result with length | failed
                · exact (ofInt_eq_iff room).mp (length ▸ not_not.mp whole)
                · exact absurd (failed ▸ not_not.mp whole) (ofInt_failed int)
              unfold Connection.send
              split
              · refine ⟨?_, nofun, nofun⟩
                rw [bytes]
                simp only [List.append_assoc]
                rw [← List.append_assoc (List.take _ _), List.take_append_drop]
              · refine ⟨?_, fun _ => ?_, fun _ => ?_⟩
                · rw [bytes]
                  simp only [List.append_assoc, List.nil_append]
                · exact Nat.lt_of_le_of_lt (Nat.zero_le _) (conserved.unfinished echoing)
                · rw [← List.append_assoc, List.length_append, full]
                  exact Nat.dvd_add messages (Nat.dvd_refl _)

/-- So does the client, which takes the next bytes of the connection. -/
theorem Conserved.move (conserved : Conserved messageSize connection trace)
    {events : List MeasureEvent} (next : receivedBytes events <+: connection.toClient) :
    Conserved messageSize (connection.move events) (trace ++ events) := by
  rcases next with ⟨later, split⟩
  have left : connection.toClient.drop (receivedBytes events).length = later := by
    rw [← split, List.drop_left]
  refine ⟨?_, conserved.unfinished, fun echoing => ?_⟩
  · rw [sentBytes_append, receivedBytes_append, conserved.bytes]
    unfold Connection.move
    rw [left, ← split]
    simp only [List.append_assoc]
  · rw [receivedBytes_append, List.append_assoc]
    unfold Connection.move
    rw [left, split]
    exact conserved.messages echoing

theorem Conserved.echoed (conserved : Conserved messageSize connection trace)
    {events : List MeasureEvent} (next : receivedBytes events <+: connection.toClient) :
    receivedBytes (trace ++ events) <+: sentBytes trace := by
  rw [receivedBytes_append, conserved.bytes]
  exact (List.prefix_append_right_inj _).mpr (next.trans (List.prefix_append _ _))

/-! ## The system -/

/-- The client keeps its session, and the connection its bytes. -/
structure InStep (config : MeasureConfig) (order : ByteOrder) (pad : List UInt8)
    (messageSize : UInt32) (state : System packetListLength) (trace : List MeasureEvent) :
    Prop where
  session : ProgressInOrder config order pad state.client trace
  conserved : Conserved messageSize state.connection trace

theorem system_inStep {config : MeasureConfig} {order : ByteOrder} {pad : List UInt8}
    (layer : config.layer = ipLayer order) (roomy : 8 ≤ config.size)
    (int : messageSize.toNat < 2 ^ 31) (state : System packetListLength)
    (trace : List MeasureEvent) (turn : Turn)
    (kept : InStep config order pad messageSize state trace)
    (delivers : Delivers config messageSize state trace turn) :
    InStep config order pad messageSize
      ((system config messageSize packetListLength).step state turn).1
      (trace ++ ((system config messageSize packetListLength).step state turn).2) := by
  cases turn with
  | server calls =>
      have echoed := kept.conserved.doEcho int delivers
      refine ⟨?_, ?_⟩
      · exact (List.append_nil trace).symm ▸ kept.session
      · exact (List.append_nil trace).symm ▸ echoed
  | client input =>
      rcases state with ⟨client, connection⟩
      rcases kept with ⟨session, conserved⟩
      cases client with
      | looping client =>
          rcases delivers with ⟨recvs, sends, next⟩
          exact ⟨iteration_inOrder layer roomy (.looping client) trace input session
            ⟨recvs, sends, conserved.echoed next⟩, conserved.move next⟩
      | waiting client =>
          exact ⟨iteration_inOrder layer roomy (.waiting client) trace input session trivial,
            conserved.move List.nil_prefix⟩
      | failed =>
          exact ⟨iteration_inOrder layer roomy .failed trace input session trivial,
            conserved.move List.nil_prefix⟩
      | aborted =>
          exact ⟨iteration_inOrder layer roomy .aborted trace input session trivial,
            conserved.move List.nil_prefix⟩
      | returned client result =>
          exact
            ⟨iteration_inOrder layer roomy (.returned client result) trace input session trivial,
              conserved.move List.nil_prefix⟩

/-! ## An idle connection -/

/-- Nothing is under way, and the server waits for a message. -/
structure Connection.Idle (connection : Connection) : Prop where
  echoing : connection.returned = false
  toServer : connection.toServer = []
  toClient : connection.toClient = []

theorem Conserved.missing (conserved : Conserved messageSize connection trace)
    (idle : connection.Idle) :
    sentBytes trace = receivedBytes trace ++ connection.collected := by
  rw [conserved.bytes, idle.toServer, idle.toClient, List.append_nil, List.nil_append]

theorem Conserved.returned (conserved : Conserved messageSize connection trace)
    (idle : connection.Idle) (whole : messageSize.toNat ∣ (sentBytes trace).length) :
    receivedBytes trace = sentBytes trace := by
  have missing := conserved.missing idle
  have messages := conserved.messages idle.echoing
  rw [idle.toClient, List.append_nil] at messages
  rw [missing, List.length_append] at whole
  have collected : messageSize.toNat ∣ connection.collected.length :=
    (Nat.dvd_add_right messages).mp whole
  have none := Nat.eq_zero_of_dvd_of_lt collected (conserved.unfinished idle.echoing)
  rw [missing, List.eq_nil_of_length_eq_zero none, List.append_nil]

section Session

variable {config : MeasureConfig} {order : ByteOrder} {pad : List UInt8}
  {state : MeasureState packetListLength}

/-- The part of a reply in the buffer is never the whole reply. -/
theorem incoming_lt (buffers : Buffers config order pad state) (roomy : 8 ≤ config.size) :
    (incomingPart config state).length < 8 + pad.length := by
  have room := UInt64.le_iff_toNat_le.mp roomy
  have bounded := UInt64.le_iff_toNat_le.mp buffers.torecvBounded
  rw [buffers.pad_length roomy, incomingPart]
  split
  · exact Nat.lt_of_lt_of_le (by decide) room
  · next pending =>
      have positive := UInt64.lt_iff_toNat_lt.mp (UInt64.pos_iff_ne_zero.mpr pending)
      rw [UInt64.toNat_zero] at positive
      rw [List.length_take, UInt64.toNat_sub_of_le _ _ buffers.torecvBounded, buffers.rbufWhole]
      omega

/-- Between two packets, what was sent is whole packets. -/
theorem sent_whole (between : Between config order pad state trace) (roomy : 8 ≤ config.size)
    (sent : state.tosend = 0) :
    (sentBytes trace).length = (additions trace).length * config.size.toNat := by
  rcases between.session with ⟨window, session⟩
  have none : outgoingPart config state = [] := if_pos sent
  rw [session.sentAll, none, List.append_nil, session.additions_length,
    frames_length (packet_length order pad), between.buffers.pad_length roomy]

/-- When all bytes have come back, all packets are answered. -/
theorem all_answered (between : Between config order pad state trace) (roomy : 8 ≤ config.size)
    (sent : state.tosend = 0) (same : receivedBytes trace = sentBytes trace) :
    (deletions trace).length = (additions trace).length := by
  have whole := sent_whole between roomy sent
  rcases between.session with ⟨window, session⟩
  have short := incoming_lt between.buffers roomy
  have length := congrArg List.length session.receivedAll
  have room := UInt64.le_iff_toNat_le.mp roomy
  rw [same, whole, List.length_append, frames_length (packet_length order pad),
    between.buffers.pad_length roomy] at length
  rw [between.buffers.pad_length roomy] at short
  have less : (deletions trace).length ≤ (additions trace).length :=
    session.additions_length.symm ▸ session.answered
  refine Nat.le_antisymm less ?_
  by_contra fewer
  have more : (deletions trace).length + 1 ≤ (additions trace).length := by omega
  have product := Nat.mul_le_mul_right config.size.toNat more
  rw [Nat.add_mul, Nat.one_mul] at product
  omega

end Session

/-! ## Main result -/

/-- The iterations of the client among the turns. -/
def inputsOf (turns : List Turn) : List IterationInput :=
  turns.filterMap fun turn =>
    match turn with
    | .client input => some input
    | .server _ => none

theorem system_run_client (config : MeasureConfig) (messageSize : UInt32)
    (state : System packetListLength) (turns : List Turn) :
    (((system config messageSize packetListLength).run state turns).1.client,
        ((system config messageSize packetListLength).run state turns).2) =
      (measureMachine config packetListLength).run state.client (inputsOf turns) := by
  induction turns generalizing state with
  | nil => rfl
  | cons turn turns inductionHypothesis =>
      cases turn with
      | server calls => exact inductionHypothesis _
      | client input =>
          have later := inductionHypothesis
            ((system config messageSize packetListLength).step state (.client input)).1
          have client := congrArg Prod.fst later
          have events := congrArg Prod.snd later
          exact Prod.ext client (congrArg (List.append _) events)

/-- The buffers of the client and the server before the first turn. -/
def systemStart (config : MeasureConfig) (positive : 0 < packetListLength)
    (sbuf rbuf : List UInt8) : System packetListLength where
  client :=
    measureStart config (PacketList.zeroed packetListLength positive) (some sbuf) (some rbuf)
  connection := { toServer := [], collected := [], toClient := [], returned := false }

theorem inStep_start (config : MeasureConfig) (order : ByteOrder) {messageSize : UInt32}
    (some : 0 < messageSize.toNat) (positive : 0 < packetListLength) {sbuf rbuf : List UInt8}
    (sbufWhole : sbuf.length = config.size.toNat) (rbufWhole : rbuf.length = config.size.toNat) :
    InStep config order (sbuf.drop 8) messageSize (systemStart config positive sbuf rbuf) [] := by
  refine ⟨⟨⟨UInt64.zero_le, UInt64.zero_le, rbufWhole, sbufWhole, rfl, fun busy => absurd rfl busy⟩,
    Window.empty, PacketList.represents_zeroed packetListLength positive, rfl, rfl, rfl,
    Nat.le_refl _, fun number time => ?_, ⟨rfl, eachEvent_nil _⟩, rfl, rfl⟩, rfl,
    fun _ => some, fun _ => Nat.dvd_zero messageSize.toNat⟩
  simp [Window.empty, additions]

section Run

variable (config : MeasureConfig) (order : ByteOrder) (messageSize : UInt32)
  (positive : 0 < packetListLength) (sbuf rbuf : List UInt8) (turns : List Turn)

/-- Against the echo server, in any order of turns and however the streams are cut, the client
has its packets answered in their order and receives what it sent.  Every other byte is in the
connection or in the buffer of the server, so once nothing is under way, less than a message of
the server is missing, and no packet is unanswered if the packets are whole messages. -/
theorem echoSession_answers (layer : config.layer = ipLayer order) (roomy : 8 ≤ config.size)
    (some : 0 < messageSize.toNat) (int : messageSize.toNat < 2 ^ 31)
    (sbufWhole : sbuf.length = config.size.toNat)
    (rbufWhole : rbuf.length = config.size.toNat)
    (delivers : (system config messageSize packetListLength).Along (Delivers config messageSize)
      (systemStart config positive sbuf rbuf) [] turns) :
    let run := measureLatency config positive (.some sbuf) (.some rbuf) (inputsOf turns)
    let connection := ((system config messageSize packetListLength).run
      (systemStart config positive sbuf rbuf) turns).1.connection
    InOrder packetListLength run.2 ∧
      sentBytes run.2 = receivedBytes run.2 ++
        (connection.toClient ++ (connection.collected ++ connection.toServer)) ∧
      (connection.Idle →
        (sentBytes run.2).length < (receivedBytes run.2).length + messageSize.toNat) ∧
      (connection.Idle → messageSize.toNat ∣ config.size.toNat →
        ∀ state, run.1 = .looping state → state.tosend = 0 →
          (deletions run.2).length = (additions run.2).length) := by
  have reached := (system config messageSize packetListLength).run_invariant
    (system_inStep layer roomy int)
    (inStep_start config order some positive sbufWhole rbufWhole) delivers
  have client := system_run_client config messageSize
    (systemStart config positive sbuf rbuf) turns
  have same : (measureMachine config packetListLength).run
      (systemStart config positive sbuf rbuf).client (inputsOf turns) =
        measureLatency config positive (.some sbuf) (.some rbuf) (inputsOf turns) := rfl
  rw [same] at client
  generalize measureLatency config positive (.some sbuf) (.some rbuf) (inputsOf turns) = run at *
  generalize (system config messageSize packetListLength).run
    (systemStart config positive sbuf rbuf) turns = joint at *
  subst client
  rcases reached with ⟨session, conserved⟩
  dsimp only
  refine ⟨?_, conserved.bytes, fun idle => ?_, ?_⟩
  · cases progress : joint.1.client with
    | looping state =>
        rw [progress] at session
        exact Between.inOrder session
    | waiting state => rw [progress] at session; exact session
    | failed => rw [progress] at session; exact session
    | aborted => rw [progress] at session; exact session
    | returned state result => rw [progress] at session; exact session
  · rw [conserved.missing idle, List.length_append]
    exact Nat.add_lt_add_left (conserved.unfinished idle.echoing) _
  · intro idle whole state progress sent
    rw [progress] at session
    have packets := sent_whole session roomy sent
    have divides : messageSize.toNat ∣ (sentBytes joint.2).length :=
      packets ▸ Nat.dvd_mul_left_of_dvd whole _
    exact all_answered session roomy sent (conserved.returned idle divides)

end Run

/-- A packet of eight bytes is returned as two messages, and read in two other parts. -/
def splitTurns : List Turn :=
  [.client { now := 11, recvs := [.eagain], sends := [.sent 3, .sent 5] },
    .server { count := 3, r := none, s := 0 }, .server { count := 9, r := some 4, s := 4 },
    .server { count := 9, r := some 4, s := 4 },
    .client { now := 11, recvs := [.received [0, 0], .eagain], sends := [] },
    .client { now := 11, recvs := [.received [0, 0, 0, 0, 0, 0]], sends := [] }]

theorem echoSession_answers_split :
    let run := measureLatency eightByteConfig (show 0 < 2 by decide)
      (some (List.replicate 8 7)) (some (List.replicate 8 9)) (inputsOf splitTurns)
    InOrder 2 run.2 ∧ (deletions run.2).length = (additions run.2).length ∧
      deletions run.2 = [(0, 11)] := by
  have answers := echoSession_answers eightByteConfig .little 4 (show 0 < 2 by decide)
    (List.replicate 8 7) (List.replicate 8 9) splitTurns rfl (by decide) (by decide) (by decide)
    (by decide) (by decide) (by decide)
  exact ⟨answers.1,
    answers.2.2.2 ⟨by decide, by decide, by decide⟩ (by decide) _ rfl (by decide), by decide⟩

end Echo
end Ipbench
