import Ipbench.Foundation.Framing
import Ipbench.Foundation.Word
import Ipbench.Latency.Ip

namespace Ipbench
namespace Latency

open Foundation

/-!
# A TCP session against an echoing peer

TCP cuts both directions of the connection at arbitrary points, and the loop
carries an unfinished packet from one iteration to the next.  `Session` states
what that costs nothing: the bytes sent are the frames of the packets entered
into the table followed by the part of the next one already given away, and
the bytes received are the frames of the packets answered followed by the part
of the reply already in the buffer.

The peer returns what it was given, so the bytes received are always an
initial segment of the bytes sent.  Nothing is assumed about the clock or
about the points at which the socket has no more data.
-/

variable {packetListLength : Nat}

/-! ## What the peer has seen and returned -/

def receivedBytes (trace : List MeasureEvent) : List UInt8 :=
  trace.flatMap fun event =>
    match event with
    | .received data => data
    | _ => []

def sentBytes (trace : List MeasureEvent) : List UInt8 :=
  trace.flatMap fun event =>
    match event with
    | .sent data => data
    | _ => []

/-- The calls of `packetListDel`, with what they returned. -/
def deletions (trace : List MeasureEvent) : List (UInt64 × UInt64) :=
  trace.filterMap fun event =>
    match event with
    | .deleted packetId sendTime => some (packetId, sendTime)
    | _ => none

/-- The calls of `packetListAdd`. -/
def additions (trace : List MeasureEvent) : List (UInt64 × UInt64) :=
  trace.filterMap fun event =>
    match event with
    | .added packetId sendTime _ => some (packetId, sendTime)
    | _ => none

@[simp] theorem receivedBytes_append (first second : List MeasureEvent) :
    receivedBytes (first ++ second) = receivedBytes first ++ receivedBytes second :=
  List.flatMap_append

@[simp] theorem sentBytes_append (first second : List MeasureEvent) :
    sentBytes (first ++ second) = sentBytes first ++ sentBytes second :=
  List.flatMap_append

@[simp] theorem deletions_append (first second : List MeasureEvent) :
    deletions (first ++ second) = deletions first ++ deletions second :=
  List.filterMap_append

@[simp] theorem additions_append (first second : List MeasureEvent) :
    additions (first ++ second) = additions first ++ additions second :=
  List.filterMap_append

/-! ## Partial transfers -/

/-- Every chunk received has at least one byte and no more than were asked for. -/
def RecvsFit : (remaining : Nat) → List RecvOutcome → Prop
  | remaining, .received data :: rest =>
      0 < data.length ∧ data.length ≤ remaining ∧
        (data.length < remaining → RecvsFit (remaining - data.length) rest)
  | _, _ => True

/-- Every call of `send` accepts at least one byte and no more than were given. -/
def SendsFit : (remaining : Nat) → List SendOutcome → Prop
  | remaining, .sent count :: rest =>
      0 < count ∧ count ≤ remaining ∧ (count < remaining → SendsFit (remaining - count) rest)
  | _, _ => True

instance decidableRecvsFit :
    (remaining : Nat) → (outcomes : List RecvOutcome) → Decidable (RecvsFit remaining outcomes)
  | remaining, .received data :: rest =>
      have := decidableRecvsFit (remaining - data.length) rest
      inferInstanceAs (Decidable (_ ∧ _ ∧ (_ → _)))
  | _, [] => .isTrue trivial
  | _, .eagain :: _ => .isTrue trivial
  | _, .error :: _ => .isTrue trivial

instance decidableSendsFit :
    (remaining : Nat) → (outcomes : List SendOutcome) → Decidable (SendsFit remaining outcomes)
  | remaining, .sent count :: rest =>
      have := decidableSendsFit (remaining - count) rest
      inferInstanceAs (Decidable (_ ∧ _ ∧ (_ → _)))
  | _, [] => .isTrue trivial
  | _, .eagain :: _ => .isTrue trivial
  | _, .error :: _ => .isTrue trivial

theorem overwrite_take {buffer data : List UInt8} {position : Nat}
    (inside : position ≤ buffer.length) :
    (overwrite buffer position data).take (position + data.length) =
      buffer.take position ++ data := by
  have whole : (buffer.take position ++ data).length = position + data.length := by
    rw [List.length_append, List.length_take, Nat.min_eq_left inside]
  rw [overwrite, ← whole, List.take_left]

theorem overwrite_length {buffer data : List UInt8} {position : Nat}
    (inside : position + data.length ≤ buffer.length) :
    (overwrite buffer position data).length = buffer.length := by
  rw [overwrite, List.length_append, List.length_append, List.length_take, List.length_drop]
  omega

/-- After `count` of the missing elements were moved, that many fewer are
missing, and the position in the buffer has advanced by as many. -/
theorem remaining_sub {size missing : UInt64} {count : Nat} (bounded : missing ≤ size)
    (fits : count ≤ missing.toNat) :
    (missing - UInt64.ofNat count).toNat = missing.toNat - count ∧
      missing - UInt64.ofNat count ≤ size ∧
      (size - (missing - UInt64.ofNat count)).toNat = (size - missing).toNat + count := by
  have bound := missing.toNat_lt
  have countNat : (UInt64.ofNat count).toNat = count :=
    UInt64.toNat_ofNat_of_lt' (Nat.lt_of_le_of_lt fits bound)
  have below : UInt64.ofNat count ≤ missing := by
    rw [UInt64.le_iff_toNat_le, countNat]
    exact fits
  have order := UInt64.le_iff_toNat_le.mp bounded
  have difference : (missing - UInt64.ofNat count).toNat = missing.toNat - count := by
    rw [UInt64.toNat_sub_of_le _ _ below, countNat]
  have less : missing - UInt64.ofNat count ≤ size := by
    rw [UInt64.le_iff_toNat_le, difference]
    omega
  refine ⟨difference, less, ?_⟩
  rw [UInt64.toNat_sub_of_le _ _ less, UInt64.toNat_sub_of_le _ _ bounded, difference]
  omega

/-- Receiving appends to the filled part of the buffer what it takes. -/
structure RecvAdvances (size : UInt64) (before after : RecvState) : Prop where
  bounded : after.torecv ≤ size
  whole : after.rbuf.length = size.toNat
  appended : ∃ data, after.taken = before.taken ++ data ∧
    after.rbuf.take (size - after.torecv).toNat =
      before.rbuf.take (size - before.torecv).toNat ++ data

theorem RecvAdvances.refl {size : UInt64} {state : RecvState}
    (bounded : state.torecv ≤ size) (whole : state.rbuf.length = size.toNat) :
    RecvAdvances size state state :=
  ⟨bounded, whole, [], by rw [List.append_nil], by rw [List.append_nil]⟩

theorem RecvAdvances.trans {size : UInt64} {first second third : RecvState}
    (earlier : RecvAdvances size first second) (later : RecvAdvances size second third) :
    RecvAdvances size first third := by
  rcases earlier.appended with ⟨data, taken, contents⟩
  rcases later.appended with ⟨more, takenLater, contentsLater⟩
  refine ⟨later.bounded, later.whole, data ++ more, ?_, ?_⟩
  · rw [takenLater, taken, List.append_assoc]
  · rw [contentsLater, contents, List.append_assoc]

/-- One chunk goes to the first free position of the buffer. -/
theorem RecvAdvances.chunk {size : UInt64} {state : RecvState} (bounded : state.torecv ≤ size)
    (whole : state.rbuf.length = size.toNat) {data : List UInt8}
    (short : data.length ≤ state.torecv.toNat) :
    RecvAdvances size state
      { torecv := state.torecv - UInt64.ofNat data.length
        rbuf := overwrite state.rbuf (size - state.torecv).toNat data
        taken := state.taken ++ data } := by
  rcases remaining_sub bounded short with ⟨_, less, advanced⟩
  have start := UInt64.toNat_sub_of_le _ _ bounded
  have order := UInt64.le_iff_toNat_le.mp bounded
  refine ⟨less, ?_, data, rfl, ?_⟩
  · rw [overwrite_length (by omega), whole]
  · rw [advanced]
    exact overwrite_take (by omega)

/-- The inner receive loop fills the buffer in order, however the reply is cut. -/
theorem recvLoop_advances (size : UInt64) (outcomes : List RecvOutcome) (state : RecvState)
    (bounded : state.torecv ≤ size) (whole : state.rbuf.length = size.toNat)
    (fits : RecvsFit state.torecv.toNat outcomes) :
    RecvAdvances size state (recvLoop size state outcomes).2 := by
  have idle := RecvAdvances.refl bounded whole
  have asserted : ¬ size < state.torecv := UInt64.not_lt.mpr bounded
  induction outcomes generalizing state with
  | nil => exact idle
  | cons outcome rest inductionHypothesis =>
      cases outcome with
      | error => simpa only [recvLoop, if_neg asserted] using idle
      | eagain => simpa only [recvLoop, if_neg asserted] using idle
      | received data =>
          rcases fits with ⟨_, short, later⟩
          have step := RecvAdvances.chunk bounded whole short
          have difference := (remaining_sub bounded short).1
          simp only [recvLoop, if_neg asserted]
          split
          · rename_i more
            rw [UInt64.lt_iff_toNat_lt, difference, UInt64.toNat_zero] at more
            exact step.trans (inductionHypothesis _ step.bounded step.whole
              (difference ▸ later (by omega)) (RecvAdvances.refl step.bounded step.whole)
              (UInt64.not_lt.mpr step.bounded))
          · exact step

/-- Sending gives away the next part of the buffer. -/
structure SendAdvances (size : UInt64) (sbuf : List UInt8) (before after : SendState) :
    Prop where
  bounded : after.tosend ≤ size
  appended : ∃ data, after.given = before.given ++ data ∧
    sbuf.take (size - after.tosend).toNat = sbuf.take (size - before.tosend).toNat ++ data

theorem SendAdvances.refl {size : UInt64} {sbuf : List UInt8} {state : SendState}
    (bounded : state.tosend ≤ size) : SendAdvances size sbuf state state :=
  ⟨bounded, [], by rw [List.append_nil], by rw [List.append_nil]⟩

theorem SendAdvances.trans {size : UInt64} {sbuf : List UInt8} {first second third : SendState}
    (earlier : SendAdvances size sbuf first second)
    (later : SendAdvances size sbuf second third) : SendAdvances size sbuf first third := by
  rcases earlier.appended with ⟨data, given, contents⟩
  rcases later.appended with ⟨more, givenLater, contentsLater⟩
  refine ⟨later.bounded, data ++ more, ?_, ?_⟩
  · rw [givenLater, given, List.append_assoc]
  · rw [contentsLater, contents, List.append_assoc]

theorem SendAdvances.chunk {size : UInt64} (sbuf : List UInt8) {state : SendState}
    (bounded : state.tosend ≤ size) {count : Nat} (short : count ≤ state.tosend.toNat) :
    SendAdvances size sbuf state
      { tosend := state.tosend - UInt64.ofNat count
        given := state.given ++ (sbuf.drop (size - state.tosend).toNat).take count } := by
  rcases remaining_sub bounded short with ⟨_, less, advanced⟩
  exact ⟨less, _, rfl, by rw [advanced, List.take_add]⟩

/-- The inner send loop gives the packet away in order, however it is cut. -/
theorem sendLoop_advances (size : UInt64) (sbuf : List UInt8) (outcomes : List SendOutcome)
    (state : SendState) (bounded : state.tosend ≤ size)
    (fits : SendsFit state.tosend.toNat outcomes) :
    SendAdvances size sbuf state (sendLoop size sbuf state outcomes).2 := by
  have idle : SendAdvances size sbuf state state := SendAdvances.refl bounded
  induction outcomes generalizing state with
  | nil => exact idle
  | cons outcome rest inductionHypothesis =>
      cases outcome with
      | error => simpa only [sendLoop] using idle
      | eagain => simpa only [sendLoop] using idle
      | sent count =>
          rcases fits with ⟨_, short, later⟩
          have step := SendAdvances.chunk sbuf bounded short
          have difference := (remaining_sub bounded short).1
          simp only [sendLoop]
          split
          · rename_i more
            rw [UInt64.lt_iff_toNat_lt, difference, UInt64.toNat_zero] at more
            exact step.trans (inductionHypothesis _ step.bounded
              (difference ▸ later (by omega)) (SendAdvances.refl step.bounded))
          · exact step

/-! ## The session -/

/-- A packet of the session: its identifier and the bytes never written. -/
def packet (order : ByteOrder) (pad : List UInt8) (number : Nat) : List UInt8 :=
  order.store (UInt64.ofNat number) ++ pad

theorem packet_length (order : ByteOrder) (pad : List UInt8) (number : Nat) :
    (packet order pad number).length = 8 + pad.length := by
  rw [packet, List.length_append, ByteOrder.store_length]

/-- A deletion follows the insertion of its packet, and returns its send time
unless a whole table of later packets was sent in between. -/
def RepliedInWindow (packetListLength : Nat) (before : List MeasureEvent)
    (event : MeasureEvent) : Prop :=
  ∀ packetId time, event = .deleted packetId time →
    ∃ sendTime, (additions before)[packetId.toNat]? = some (packetId, sendTime) ∧
      (time = sendTime ∨ packetId.toNat + 1 + packetListLength ≤ (additions before).length)

/-- The packets are answered in the order of their numbers. -/
structure InOrder (packetListLength : Nat) (trace : List MeasureEvent) : Prop where
  identifiers : (deletions trace).map Prod.fst =
    (List.range (deletions trace).length).map UInt64.ofNat
  replied : EachEvent (RepliedInWindow packetListLength) trace

/-- The table and the two byte streams.  `incoming` and `outgoing` are the
bytes of the unfinished packets. -/
structure Session (order : ByteOrder) (pad incoming outgoing : List UInt8)
    (state : MeasureState packetListLength) (trace : List MeasureEvent)
    (window : Window UInt64) : Prop where
  represents : state.table.Represents window
  counted : window.count = state.sends.toNat
  identifier : state.sid = state.sends
  added : (additions trace).map Prod.fst = (List.range window.count).map UInt64.ofNat
  answered : (deletions trace).length ≤ window.count
  held : ∀ number time, window.held number = some time ↔
    (deletions trace).length ≤ number ∧ window.count ≤ number + packetListLength ∧
      (additions trace)[number]? = some (UInt64.ofNat number, time)
  inOrder : InOrder packetListLength trace
  receivedAll : receivedBytes trace =
    frames (packet order pad) (deletions trace).length ++ incoming
  sentAll : sentBytes trace = frames (packet order pad) window.count ++ outgoing

/-- The two buffers between iterations. -/
structure Buffers (config : MeasureConfig) (order : ByteOrder) (pad : List UInt8)
    (state : MeasureState packetListLength) : Prop where
  torecvBounded : state.torecv ≤ config.size
  tosendBounded : state.tosend ≤ config.size
  rbufWhole : state.rbuf.length = config.size.toNat
  sbufWhole : state.sbuf.length = config.size.toNat
  unwritten : state.sbuf.drop 8 = pad
  filled : state.tosend ≠ 0 → state.sbuf = packet order pad state.sends.toNat

variable {order : ByteOrder} {pad incoming outgoing : List UInt8}
  {state : MeasureState packetListLength} {trace : List MeasureEvent} {window : Window UInt64}

theorem Session.fits (session : Session order pad incoming outgoing state trace window) :
    window.count ≤ 2 ^ 64 := by
  rw [session.counted]
  exact Nat.le_of_lt state.sends.toNat_lt

theorem Session.additions_length
    (session : Session order pad incoming outgoing state trace window) :
    (additions trace).length = window.count := by
  have lengths := congrArg List.length session.added
  rwa [List.length_map, List.length_map, List.length_range] at lengths

/-- Every packet counted was entered under its number. -/
theorem Session.exists_addition
    (session : Session order pad incoming outgoing state trace window) {number : Nat}
    (below : number < window.count) :
    ∃ sendTime, (additions trace)[number]? = some (UInt64.ofNat number, sendTime) := by
  have inside : number < (additions trace).length := session.additions_length ▸ below
  have listed := congrArg (fun ids => ids[number]?) session.added
  simp only [List.getElem?_map, List.getElem?_eq_getElem inside, List.getElem?_range below,
    Option.map_some, Option.some.injEq] at listed
  exact ⟨((additions trace)[number]).2, by rw [List.getElem?_eq_getElem inside, ← listed]⟩

/-- An event that neither deletes nor adds a packet only lengthens the
unfinished packets. -/
theorem Session.emit (session : Session order pad incoming outgoing state trace window)
    {event : MeasureEvent} (kept : deletions [event] = []) (same : additions [event] = []) :
    Session order pad (incoming ++ receivedBytes [event]) (outgoing ++ sentBytes [event]) state
      (trace ++ [event]) window := by
  have deleted : deletions (trace ++ [event]) = deletions trace := by
    rw [deletions_append, kept, List.append_nil]
  have added : additions (trace ++ [event]) = additions trace := by
    rw [additions_append, same, List.append_nil]
  refine ⟨session.represents, session.counted, session.identifier, added ▸ session.added,
    deleted ▸ session.answered, ?_, ⟨?_, ?_⟩, ?_, ?_⟩
  · rw [deleted, added]
    exact session.held
  · rw [deleted]
    exact session.inOrder.identifiers
  · apply session.inOrder.replied.concat
    intro packetId time deletion
    subst deletion
    cases kept
  · rw [receivedBytes_append, deleted, session.receivedAll, List.append_assoc]
  · rw [sentBytes_append, session.sentAll, List.append_assoc]

theorem Session.received (session : Session order pad incoming outgoing state trace window)
    (data : List UInt8) :
    Session order pad (incoming ++ data) outgoing state (trace ++ [.received data]) window := by
  simpa [receivedBytes, sentBytes] using
    session.emit (show deletions [.received data] = [] from rfl) rfl

theorem Session.sent (session : Session order pad incoming outgoing state trace window)
    (data : List UInt8) :
    Session order pad incoming (outgoing ++ data) state (trace ++ [.sent data]) window := by
  simpa [receivedBytes, sentBytes] using
    session.emit (show deletions [.sent data] = [] from rfl) rfl

theorem Session.sampled (session : Session order pad incoming outgoing state trace window)
    (sample : Sample) :
    Session order pad incoming outgoing state (trace ++ [.sampled sample]) window := by
  simpa [receivedBytes, sentBytes] using
    session.emit (show deletions [.sampled sample] = [] from rfl) rfl

/-- The packets answered are a final segment of those the window holds. -/
theorem Session.held_next
    (session : Session order pad incoming outgoing state trace window)
    (pending : (deletions trace).length < window.count) :
    (∃ sendTime newest,
      (additions trace)[(deletions trace).length]? =
          some (UInt64.ofNat (deletions trace).length, sendTime) ∧
        window.held (deletions trace).length = some sendTime ∧
        window.held (window.count - 1) = some newest) ∨
      (window.held (deletions trace).length = none ∧
        (deletions trace).length + packetListLength < window.count) := by
  rcases session.exists_addition pending with ⟨sendTime, added⟩
  rcases session.exists_addition (show window.count - 1 < window.count by omega) with
    ⟨newest, last⟩
  by_cases inside : window.count ≤ (deletions trace).length + packetListLength
  · refine Or.inl ⟨sendTime, newest, added, ?_, ?_⟩
    · exact (session.held _ _).mpr ⟨Nat.le_refl _, inside, added⟩
    · refine (session.held _ _).mpr ⟨by omega, ?_, last⟩
      have positive := state.table.length_pos
      omega
  · refine Or.inr ⟨?_, Nat.lt_of_not_le inside⟩
    cases found : window.held (deletions trace).length with
    | none => rfl
    | some time => exact False.elim (inside ((session.held _ _).mp found).2.1)

/-- A deletion of the next packet in order, whatever it returned. -/
private theorem Session.advance
    (session : Session order pad incoming outgoing state trace window)
    (pending : (deletions trace).length < window.count)
    (next : incoming = packet order pad (deletions trace).length)
    {table : PacketList packetListLength} {window' : Window UInt64}
    (represents : table.Represents window') (count : window'.count = window.count)
    (held : ∀ number time, window'.held number = some time ↔
      number ≠ (deletions trace).length ∧ window.held number = some time)
    {sendTime time : UInt64}
    (entered : (additions trace)[(deletions trace).length]? =
      some (UInt64.ofNat (deletions trace).length, sendTime))
    (matched : time = sendTime ∨
      (deletions trace).length + 1 + packetListLength ≤ window.count) :
    Session order pad [] outgoing { state with table := table }
      (trace ++ [.deleted (UInt64.ofNat (deletions trace).length) time]) window' := by
  have deleted : deletions (trace ++ [.deleted (UInt64.ofNat (deletions trace).length) time]) =
      deletions trace ++ [(UInt64.ofNat (deletions trace).length, time)] :=
    deletions_append _ _
  have added : additions (trace ++ [.deleted (UInt64.ofNat (deletions trace).length) time]) =
      additions trace := by
    rw [additions_append]
    exact List.append_nil _
  refine ⟨represents, count.trans session.counted, session.identifier,
    added ▸ count ▸ session.added, ?_, ?_, ⟨?_, session.inOrder.replied.concat ?_⟩, ?_, ?_⟩
  · rw [deleted, List.length_append, count]
    exact pending
  · intro number other
    rw [deleted, added, List.length_append, List.length_singleton, held, session.held, count]
    constructor
    · rintro ⟨different, later, inside, entry⟩
      exact ⟨by omega, inside, entry⟩
    · rintro ⟨later, inside, entry⟩
      exact ⟨by omega, by omega, inside, entry⟩
  · rw [deleted, List.map_append, session.inOrder.identifiers, List.length_append,
      List.length_singleton, List.range_succ, List.map_append]
    rfl
  · intro packetId other deletion
    cases deletion
    have bound : (deletions trace).length < 2 ^ 64 := Nat.lt_of_lt_of_le pending session.fits
    refine ⟨sendTime, ?_, ?_⟩
    · rw [UInt64.toNat_ofNat_of_lt' bound]
      exact entered
    · rw [UInt64.toNat_ofNat_of_lt' bound, session.additions_length]
      exact matched
  · rw [receivedBytes_append, deleted, List.length_append, List.length_singleton, frames, ← next,
      session.receivedAll, List.append_nil]
    exact List.append_nil _
  · rw [sentBytes_append, session.sentAll, count]
    exact List.append_nil _

/-- A complete reply is the next packet in order, and its deletion finds it
unless it has left the window. -/
theorem Session.answer (session : Session order pad incoming outgoing state trace window)
    (whole : incoming.length = 8 + pad.length) (part : outgoing.length < 8 + pad.length)
    (echoed : receivedBytes trace <+: sentBytes trace) :
    ∃ window', Session order pad [] outgoing
      { state with table := (state.table.packetListDel (ipReadPacket order incoming)).2 }
      (trace ++ [.deleted (ipReadPacket order incoming)
        (state.table.packetListDel (ipReadPacket order incoming)).1]) window' := by
  rw [session.receivedAll, session.sentAll] at echoed
  rcases frame_of_isPrefix (packet_length order pad) whole part echoed with ⟨pending, next⟩
  have identifier : ipReadPacket order incoming = UInt64.ofNat (deletions trace).length := by
    rw [next, packet, ipReadPacket_store]
  have number : (UInt64.ofNat (deletions trace).length).toNat = (deletions trace).length :=
    UInt64.toNat_ofNat_of_lt' (Nat.lt_of_lt_of_le pending session.fits)
  rw [identifier]
  rcases session.held_next pending with ⟨sendTime, newest, entered, held, last⟩ | ⟨gone, late⟩
  · rw [state.table.packetListDel_of_held session.represents session.fits last
      (number.symm ▸ held), number]
    refine ⟨window.take (deletions trace).length, session.advance pending next
      (state.table.clear_represents session.represents held) rfl ?_ entered (Or.inl rfl)⟩
    intro other time
    constructor
    · exact Window.take_held_eq_some
    · rintro ⟨different, remains⟩
      exact (window.take_held_of_ne different).trans remains
  · rw [state.table.packetListDel_of_not_held session.represents session.fits
      (number.symm ▸ gone)]
    rcases session.exists_addition pending with ⟨sendTime, entered⟩
    refine ⟨window, session.advance pending next session.represents rfl ?_ entered
      (Or.inr (by omega))⟩
    intro other time
    constructor
    · intro found
      refine ⟨?_, found⟩
      intro same
      rw [same, gone] at found
      cases found
    · exact And.right

/-- A completely sent packet is entered under the next number. -/
theorem Session.complete (session : Session order pad incoming outgoing state trace window)
    (running : state.now ≠ 0) {bound : UInt64} (predicted : state.sends < bound)
    (whole : outgoing = packet order pad state.sends.toNat) (drops : UInt64) :
    Session order pad incoming []
      { state with
        table := (state.table.packetListAdd state.sid state.now).2
        sid := state.sid + 1
        sends := state.sends + 1 }
      (trace ++ [.added state.sid state.now drops]) (window.push packetListLength state.now) := by
  have identifier : state.sid = UInt64.ofNat window.count := by
    rw [session.identifier, session.counted, UInt64.ofNat_toNat]
  have deleted : deletions (trace ++ [.added state.sid state.now drops]) = deletions trace := by
    rw [deletions_append]
    exact List.append_nil _
  have added : additions (trace ++ [.added state.sid state.now drops]) =
      additions trace ++ [(state.sid, state.now)] :=
    additions_append _ _
  refine ⟨?_, ?_, ?_, ?_, ?_, ?_, ⟨?_, ?_⟩, ?_, ?_⟩
  · exact identifier ▸ state.table.packetListAdd_represents session.represents running
  · rw [Window.push_count, session.counted, toNat_succ_of_lt predicted]
  · rw [session.identifier]
  · rw [added, List.map_append, session.added, Window.push_count, List.range_succ,
      List.map_append, identifier]
    rfl
  · rw [deleted, Window.push_count]
    exact Nat.le_succ_of_le session.answered
  · intro number time
    rw [deleted, added, Window.push_count]
    have length := session.additions_length
    have positive := state.table.length_pos
    have answered := session.answered
    constructor
    · intro found
      rcases Window.push_held_eq_some found with ⟨newest, same⟩ | ⟨newest, kept, old⟩
      · subst newest
        subst same
        refine ⟨answered, by omega, ?_⟩
        rw [← length, List.getElem?_concat_length, identifier, length]
      · have past := (session.held number time).mp old
        have inside := session.represents.bounded number time old
        refine ⟨past.1, by omega, ?_⟩
        rw [List.getElem?_append_left (by omega)]
        exact past.2.2
    · rintro ⟨later, inside, entry⟩
      by_cases newest : number = window.count
      · rw [newest, ← length, List.getElem?_concat_length, identifier, length] at entry
        rw [newest, window.push_held_count, (Prod.mk.inj (Option.some.inj entry)).2]
      · have older : number < window.count := by
          have range := (List.getElem?_eq_some_iff.mp entry).1
          rw [List.length_append, List.length_singleton, length] at range
          omega
        rw [List.getElem?_append_left (by omega)] at entry
        rw [window.push_held_of_lt _ older (by omega)]
        exact (session.held number time).mpr ⟨later, by omega, entry⟩
  · rw [deleted]
    exact session.inOrder.identifiers
  · apply session.inOrder.replied.concat
    intro packetId time impossible
    cases impossible
  · rw [receivedBytes_append, deleted, session.receivedAll]
    exact List.append_nil _
  · rw [sentBytes_append, session.sentAll, Window.push_count, frames, session.counted, ← whole,
      List.append_nil]
    exact List.append_nil _

/-! ## Iterations -/

variable {config : MeasureConfig}

/-- The part of the reply already in the buffer. -/
def incomingPart (config : MeasureConfig) (state : MeasureState packetListLength) : List UInt8 :=
  if state.torecv = 0 then [] else state.rbuf.take (config.size - state.torecv).toNat

/-- The part of the current packet already given away. -/
def outgoingPart (config : MeasureConfig) (state : MeasureState packetListLength) : List UInt8 :=
  if state.tosend = 0 then [] else state.sbuf.take (config.size - state.tosend).toNat

/-- The buffers and streams between two iterations. -/
structure Between (config : MeasureConfig) (order : ByteOrder) (pad : List UInt8)
    (state : MeasureState packetListLength) (trace : List MeasureEvent) : Prop where
  buffers : Buffers config order pad state
  session : ∃ window, Session order pad (incomingPart config state) (outgoingPart config state)
    state trace window

theorem Between.inOrder (between : Between config order pad state trace) :
    InOrder packetListLength trace :=
  between.session.choose_spec.inOrder

theorem Buffers.pad_length (buffers : Buffers config order pad state)
    (roomy : 8 ≤ config.size) : 8 + pad.length = config.size.toNat := by
  have room : 8 ≤ config.size.toNat := UInt64.le_iff_toNat_le.mp roomy
  rw [← buffers.unwritten, List.length_drop, buffers.sbufWhole]
  exact Nat.add_sub_cancel' room

theorem Buffers.outgoing_lt (buffers : Buffers config order pad state)
    (roomy : 8 ≤ config.size) : (outgoingPart config state).length < 8 + pad.length := by
  have room := UInt64.le_iff_toNat_le.mp roomy
  have bounded := UInt64.le_iff_toNat_le.mp buffers.tosendBounded
  rw [buffers.pad_length roomy, outgoingPart]
  split
  · exact Nat.lt_of_lt_of_le (by decide) room
  · rename_i pending
    have positive := UInt64.lt_iff_toNat_lt.mp (UInt64.pos_iff_ne_zero.mpr pending)
    rw [UInt64.toNat_zero] at positive
    rw [List.length_take, UInt64.toNat_sub_of_le _ _ buffers.tosendBounded, buffers.sbufWhole]
    omega

theorem take_complete {buffer : List UInt8} {size missing : UInt64}
    (whole : buffer.length = size.toNat) (complete : missing = 0) :
    buffer.take (size - missing).toNat = buffer := by
  rw [complete, UInt64.sub_zero, ← whole, List.take_length]

theorem take_untouched (buffer : List UInt8) (size : UInt64) :
    buffer.take (size - size).toNat = [] := by
  rw [UInt64.sub_self, UInt64.toNat_zero, List.take_zero]

/-- What a call of `receivePart` leaves: the reply has grown by the bytes
received and is not yet judged complete. -/
theorem Between.receivePart (between : Between config order pad state trace)
    {outcomes : List RecvOutcome}
    (fits : RecvsFit (beginReceive config state).torecv.toNat outcomes) :
    Buffers config order pad (receivePart config state outcomes).2.1 ∧
      ∃ window, Session order pad
        ((receivePart config state outcomes).2.1.rbuf.take
          (config.size - (receivePart config state outcomes).2.1.torecv).toNat)
        (outgoingPart config (receivePart config state outcomes).2.1)
        (receivePart config state outcomes).2.1
        (trace ++ [.received (receivePart config state outcomes).2.2]) window := by
  rcases between.session with ⟨window, session⟩
  have ready : Buffers config order pad (beginReceive config state) ∧
      Session order pad ((beginReceive config state).rbuf.take
          (config.size - (beginReceive config state).torecv).toNat)
        (outgoingPart config (beginReceive config state)) (beginReceive config state)
        trace window := by
    unfold beginReceive
    unfold incomingPart at session
    split
    · rename_i none
      rw [if_pos none] at session
      rw [take_untouched]
      exact ⟨{ between.buffers with torecvBounded := UInt64.le_refl _ }, { session with }⟩
    · rename_i some
      rw [if_neg some] at session
      exact ⟨between.buffers, session⟩
  have advances := recvLoop_advances config.size outcomes
    { torecv := (beginReceive config state).torecv
      rbuf := (beginReceive config state).rbuf, taken := [] }
    ready.1.torecvBounded ready.1.rbufWhole fits
  rcases advances.appended with ⟨data, taken, contents⟩
  have session' := ready.2.received data
  rw [← contents, ← List.nil_append data, ← taken] at session'
  exact ⟨{ ready.1 with torecvBounded := advances.bounded, rbufWhole := advances.whole },
    window, { session' with }⟩

/-- A complete reply is delivered and the buffer counts as empty again. -/
theorem Between.deliver (layer : config.layer = ipLayer order) (roomy : 8 ≤ config.size)
    (buffers : Buffers config order pad state)
    (session : Session order pad state.rbuf (outgoingPart config state) state trace window)
    (complete : state.torecv = 0) (echoed : receivedBytes trace <+: sentBytes trace) :
    Between config order pad (deliver config state).1 (trace ++ (deliver config state).2) := by
  have width := buffers.pad_length roomy
  rcases session.answer (buffers.rbufWhole.trans width.symm) (buffers.outgoing_lt roomy) echoed
    with ⟨window', answered⟩
  have reader : config.layer.readPacket state.rbuf = ipReadPacket order state.rbuf := by
    rw [layer]
    rfl
  unfold Latency.deliver
  dsimp only
  rw [reader]
  generalize ipReadPacket order state.rbuf = rid at *
  generalize state.table.packetListDel rid = found at *
  split
  · split
    · refine ⟨{ buffers with }, window', ?_⟩
      rw [incomingPart, if_pos complete, show ∀ first second : MeasureEvent,
        trace ++ [first, second] = trace ++ [first] ++ [second] by simp]
      exact { answered.sampled _ with }
    · refine ⟨{ buffers with }, window', ?_⟩
      rw [incomingPart, if_pos complete]
      exact { answered with }
  · refine ⟨{ buffers with }, window', ?_⟩
    rw [incomingPart, if_pos complete]
    exact { answered with }

/-- Filling the next packet starts a frame; otherwise the frame continues. -/
theorem Between.beginSend (layer : config.layer = ipLayer order) (roomy : 8 ≤ config.size)
    (between : Between config order pad state trace) :
    Buffers config order pad (beginSend config state) ∧
      (beginSend config state).sbuf = packet order pad (beginSend config state).sends.toNat ∧
      ∃ window, Session order pad (incomingPart config (beginSend config state))
        ((beginSend config state).sbuf.take
          (config.size - (beginSend config state).tosend).toNat)
        (beginSend config state) trace window := by
  rcases between.session with ⟨window, session⟩
  have buffers := between.buffers
  unfold Latency.beginSend
  unfold outgoingPart at session
  split
  · rename_i idle
    rw [if_pos idle] at session
    have filled : config.layer.fillPacket state.sbuf state.sid =
        packet order pad state.sends.toNat := by
      rw [layer, packet, session.identifier, UInt64.ofNat_toNat, ← buffers.unwritten]
      rfl
    have whole : (packet order pad state.sends.toNat).length = config.size.toNat := by
      rw [packet_length, buffers.pad_length roomy]
    refine ⟨?_, filled, window, ?_⟩
    · exact { buffers with
        tosendBounded := UInt64.le_refl _
        sbufWhole := filled ▸ whole
        unwritten := by
          rw [filled, packet, ← order.store_length (UInt64.ofNat state.sends.toNat),
            List.drop_left]
        filled := fun _ => filled }
    · rw [take_untouched]
      exact { session with }
  · rename_i busy
    rw [if_neg busy] at session
    exact ⟨buffers, buffers.filled busy, window, session⟩

theorem Between.sendPart (layer : config.layer = ipLayer order) (roomy : 8 ≤ config.size)
    (between : Between config order pad state trace) {outcomes : List SendOutcome}
    (fits : SendsFit (Latency.beginSend config state).tosend.toNat outcomes) :
    Buffers config order pad (sendPart config state outcomes).2.1 ∧
      (sendPart config state outcomes).2.1.sbuf =
        packet order pad (sendPart config state outcomes).2.1.sends.toNat ∧
      ∃ window, Session order pad (incomingPart config (sendPart config state outcomes).2.1)
        ((sendPart config state outcomes).2.1.sbuf.take
          (config.size - (sendPart config state outcomes).2.1.tosend).toNat)
        (sendPart config state outcomes).2.1
        (trace ++ [.sent (sendPart config state outcomes).2.2]) window := by
  rcases between.beginSend layer roomy with ⟨buffers, filled, window, session⟩
  have advances := sendLoop_advances config.size (Latency.beginSend config state).sbuf outcomes
    { tosend := (Latency.beginSend config state).tosend, given := [] } buffers.tosendBounded fits
  rcases advances.appended with ⟨data, given, contents⟩
  have session' := session.sent data
  rw [← contents, ← List.nil_append data, ← given] at session'
  exact ⟨{ buffers with tosendBounded := advances.bounded, filled := fun _ => filled },
    filled, window, { session' with }⟩

theorem Between.completeSend (buffers : Buffers config order pad state)
    (session : Session order pad (incomingPart config state) state.sbuf state trace window)
    (filled : state.sbuf = packet order pad state.sends.toNat) (complete : state.tosend = 0)
    (running : state.now ≠ 0) {bound : UInt64} (predicted : state.sends < bound) :
    Between config order pad (completeSend config state).1
      (trace ++ (completeSend config state).2) := by
  have completed := session.complete running predicted filled
    (state.table.packetListAdd state.sid state.now).1
  unfold Latency.completeSend
  dsimp only
  split
  · refine ⟨{ buffers with filled := fun busy => False.elim (busy complete) },
      window.push packetListLength state.now, ?_⟩
    rw [outgoingPart, if_pos complete]
    exact { completed with }
  · refine ⟨{ buffers with filled := fun busy => False.elim (busy complete) },
      window.push packetListLength state.now, ?_⟩
    rw [outgoingPart, if_pos complete]
    exact { completed with }

/-- Sending keeps the streams, whether or not it completes the packet. -/
theorem Between.transmit (layer : config.layer = ipLayer order) (roomy : 8 ≤ config.size)
    (between : Between config order pad state trace) (running : state.now ≠ 0)
    {outcomes : List SendOutcome}
    (fits : SendsFit (Latency.beginSend config state).tosend.toNat outcomes) :
    InOrder packetListLength (trace ++ (transmit config state outcomes).2.2) ∧
      ((transmit config state outcomes).1 = .left →
        Between config order pad (transmit config state outcomes).2.1
          (trace ++ (transmit config state outcomes).2.2)) := by
  unfold Latency.transmit
  split
  · rename_i predicted
    rcases between.sendPart layer roomy fits with ⟨buffers, filled, window, session⟩
    have frame := sendPart_frame config state outcomes
    generalize Latency.sendPart config state outcomes = part at *
    rcases part with ⟨exit, next, given⟩
    dsimp only at *
    split
    · rename_i completed
      rw [take_complete buffers.sbufWhole completed.2] at session
      have finished := Between.completeSend buffers session filled completed.2
        (frame.1 ▸ running) (frame.2 ▸ predicted)
      rw [List.append_assoc] at finished
      exact ⟨finished.inOrder, fun _ => finished⟩
    · rename_i unfinished
      refine ⟨session.inOrder, fun left => ⟨{ buffers with filled := fun _ => filled }, window, ?_⟩⟩
      rw [outgoingPart, if_neg (fun zero => unfinished ⟨left, zero⟩)]
      exact session
  · rw [List.append_nil]
    exact ⟨between.inOrder, fun _ => between⟩

/-- What the network does in one iteration.  The socket moves between one byte
and all the bytes asked for, and what was received so far is what was sent
first. -/
def EchoStep (config : MeasureConfig) (progress : Progress packetListLength)
    (trace : List MeasureEvent) (input : IterationInput) : Prop :=
  match progress with
  | .looping state =>
      RecvsFit (beginReceive config state).torecv.toNat input.recvs ∧
        SendsFit (beginSend config state).tosend.toNat input.sends ∧
        receivedBytes (trace ++ (iteration config state input).2) <+: sentBytes trace
  | _ => True

instance (config : MeasureConfig) (progress : Progress packetListLength)
    (trace : List MeasureEvent) (input : IterationInput) :
    Decidable (EchoStep config progress trace input) :=
  match progress with
  | .looping _ => inferInstanceAs (Decidable (_ ∧ _ ∧ _))
  | .waiting _ => .isTrue trivial
  | .failed => .isTrue trivial
  | .aborted => .isTrue trivial
  | .returned _ _ => .isTrue trivial

/-- What is known of a session and its trace, wherever the function is. -/
def ProgressInOrder (config : MeasureConfig) (order : ByteOrder) (pad : List UInt8)
    (progress : Progress packetListLength) (trace : List MeasureEvent) : Prop :=
  match progress with
  | .looping state => Between config order pad state trace
  | _ => InOrder packetListLength trace

theorem Between.tick (between : Between config order pad state trace) (now : UInt64) :
    Between config order pad { state with now := now } trace := by
  rcases between.session with ⟨window, session⟩
  exact ⟨{ between.buffers with }, window, { session with }⟩

theorem Between.beginCooldown (between : Between config order pad state trace) :
    Between config order pad (beginCooldown config state) trace := by
  rcases between.session with ⟨window, session⟩
  unfold Latency.beginCooldown
  split
  · exact ⟨{ between.buffers with }, window, { session with }⟩
  · exact between

theorem receivedBytes_deliver (config : MeasureConfig) (state : MeasureState packetListLength) :
    receivedBytes (deliver config state).2 = [] := by
  unfold deliver
  dsimp only
  split
  · split
    · rfl
    · rfl
  · rfl

theorem receivedBytes_transmit (config : MeasureConfig) (state : MeasureState packetListLength)
    (outcomes : List SendOutcome) : receivedBytes (transmit config state outcomes).2.2 = [] := by
  unfold transmit
  split
  · dsimp only
    split
    · unfold completeSend
      rfl
    · rfl
  · rfl

/-- What is left to send depends on nothing that receiving changes. -/
theorem beginSend_tosend (config : MeasureConfig) {first second : MeasureState packetListLength}
    (same : first.tosend = second.tosend) :
    (beginSend config first).tosend = (beginSend config second).tosend := by
  unfold beginSend
  rw [same]
  split
  · rfl
  · exact same

theorem receivePart_tosend (config : MeasureConfig) (state : MeasureState packetListLength)
    (outcomes : List RecvOutcome) :
    (receivePart config state outcomes).2.1.tosend = state.tosend := by
  unfold receivePart beginReceive
  split
  · rfl
  · rfl

/-- A reply that is complete after receiving is delivered; otherwise it waits
for the next iteration. -/
theorem Between.received (layer : config.layer = ipLayer order) (roomy : 8 ≤ config.size)
    (buffers : Buffers config order pad state)
    (session : Session order pad (state.rbuf.take (config.size - state.torecv).toNat)
      (outgoingPart config state) state trace window)
    (echoed : receivedBytes trace <+: sentBytes trace) :
    Between config order pad
      (if state.torecv = 0 then Latency.deliver config state else (state, [])).1
      (trace ++
        (if state.torecv = 0 then Latency.deliver config state else (state, [])).2) := by
  split
  · rename_i complete
    rw [take_complete buffers.rbufWhole complete] at session
    exact Between.deliver layer roomy buffers session complete echoed
  · rename_i partial_
    rw [List.append_nil]
    refine ⟨buffers, window, ?_⟩
    rw [incomingPart, if_neg partial_]
    exact session

/-- The body of the loop keeps the streams, however it ends. -/
theorem loopBody_between (layer : config.layer = ipLayer order) (roomy : 8 ≤ config.size)
    (between : Between config order pad state trace) (running : state.now ≠ 0)
    (input : IterationInput)
    (recvs : RecvsFit (beginReceive config (beginCooldown config state)).torecv.toNat input.recvs)
    (sends : SendsFit (beginSend config (beginCooldown config state)).tosend.toNat input.sends)
    (echoed : receivedBytes (trace ++ (loopBody config state input).2) <+: sentBytes trace) :
    ProgressInOrder config order pad (loopBody config state input).1
      (trace ++ (loopBody config state input).2) := by
  rcases between.beginCooldown.receivePart recvs with ⟨buffers, window, session⟩
  have frame := receivePart_frame config (beginCooldown config state) input.recvs
  have owed := receivePart_tosend config (beginCooldown config state) input.recvs
  have now : (receivePart config (beginCooldown config state) input.recvs).2.1.now ≠ 0 := by
    rw [frame.1, beginCooldown_now]
    exact running
  unfold loopBody at echoed ⊢
  generalize receivePart config (beginCooldown config state) input.recvs = part at *
  rcases part with ⟨exit, next, taken⟩
  cases exit with
  | failed => exact session.inOrder
  | asserted => exact session.inOrder
  | waiting => exact session.inOrder
  | left =>
      dsimp only at *
      have silent : receivedBytes
          (if next.torecv = 0 then deliver config next else (next, [])).2 = [] := by
        split
        · exact receivedBytes_deliver config next
        · rfl
      rcases delivered_frame config next with ⟨same, unsent⟩
      have returned : receivedBytes (trace ++ [.received taken]) <+:
          sentBytes (trace ++ [.received taken]) := by
        rw [show ∀ rest, MeasureEvent.received taken :: rest = [.received taken] ++ rest from
          fun _ => rfl, ← List.append_assoc, receivedBytes_append _ (_ ++ _),
          receivedBytes_append _ (transmit _ _ _).2.2, silent, receivedBytes_transmit,
          List.append_nil, List.append_nil] at echoed
        rw [sentBytes_append]
        exact echoed.trans (List.prefix_append _ _)
      have delivered := Between.received layer roomy buffers session returned
      generalize (if next.torecv = 0 then deliver config next else (next, [])) = result at *
      have final := delivered.transmit layer roomy (same ▸ now)
        (beginSend_tosend config (unsent.trans owed) ▸ sends)
      rw [List.append_assoc, List.append_assoc] at final
      generalize transmit config result.1 input.sends = sent at *
      rcases sent with ⟨exit, last, events⟩
      cases exit with
      | left => exact final.2 rfl
      | failed => exact final.1
      | asserted => exact final.1
      | waiting => exact final.1

theorem beginReceive_torecv (config : MeasureConfig)
    {first second : MeasureState packetListLength} (same : first.torecv = second.torecv) :
    (beginReceive config first).torecv = (beginReceive config second).torecv := by
  unfold beginReceive
  rw [same]
  split
  · rfl
  · exact same

theorem beginCooldown_torecv (config : MeasureConfig) (state : MeasureState packetListLength) :
    (beginCooldown config state).torecv = state.torecv := by
  unfold beginCooldown
  split
  · rfl
  · rfl

theorem beginCooldown_tosend (config : MeasureConfig) (state : MeasureState packetListLength) :
    (beginCooldown config state).tosend = state.tosend := by
  unfold beginCooldown
  split
  · rfl
  · rfl

/-- One iteration keeps the streams of an echoed session. -/
theorem iteration_inOrder (layer : config.layer = ipLayer order) (roomy : 8 ≤ config.size)
    (progress : Progress packetListLength) (trace : List MeasureEvent) (input : IterationInput)
    (kept : ProgressInOrder config order pad progress trace)
    (echo : EchoStep config progress trace input) :
    ProgressInOrder config order pad
      ((measureMachine config packetListLength).step progress input).1
      (trace ++ ((measureMachine config packetListLength).step progress input).2) := by
  cases progress with
  | looping state =>
      rcases echo with ⟨recvs, sends, echoed⟩
      have ticked := Between.tick kept input.now
      have asked : (beginReceive config
          (beginCooldown config { state with now := input.now })).torecv =
          (beginReceive config state).torecv :=
        beginReceive_torecv config (beginCooldown_torecv config _)
      have owed : (beginSend config
          (beginCooldown config { state with now := input.now })).tosend =
          (beginSend config state).tosend :=
        beginSend_tosend config (beginCooldown_tosend config _)
      change ProgressInOrder config order pad (iteration config state input).1
        (trace ++ (iteration config state input).2)
      unfold iteration at echoed ⊢
      split
      · rename_i running
        rw [if_pos running] at echoed
        exact loopBody_between layer roomy ticked running.1 input (asked ▸ recvs) (owed ▸ sends)
          echoed
      · rw [List.append_nil]
        unfold finish
        dsimp only
        split
        · exact kept.inOrder
        · exact kept.inOrder
  | waiting state => simpa [measureMachine] using kept
  | failed => simpa [measureMachine] using kept
  | aborted => simpa [measureMachine] using kept
  | returned state result => simpa [measureMachine] using kept

/-- A session over TCP, with the peer echoing the stream.  The replies are
delivered as packets `0, 1, 2, ...`, each after it was sent, and each yields its
own send time unless a whole table of packets was sent after it. -/
theorem tcpSession_inOrder (config : MeasureConfig) (order : ByteOrder)
    (layer : config.layer = ipLayer order) (roomy : 8 ≤ config.size)
    (positive : 0 < packetListLength) (sbuf rbuf : List UInt8)
    (sbufWhole : sbuf.length = config.size.toNat) (rbufWhole : rbuf.length = config.size.toNat)
    (inputs : List IterationInput)
    (echo : (measureMachine config packetListLength).Along (EchoStep config)
      (measureStart config (PacketList.zeroed packetListLength positive) (some sbuf) (some rbuf))
      [] inputs) :
    InOrder packetListLength
      (measureLatency config positive (some sbuf) (some rbuf) inputs).2 := by
  have start : ProgressInOrder config order (sbuf.drop 8)
      (measureStart config (PacketList.zeroed packetListLength positive) (some sbuf) (some rbuf))
      [] := by
    refine ⟨⟨UInt64.zero_le, UInt64.zero_le, rbufWhole, sbufWhole, rfl, ?_⟩, Window.empty,
      PacketList.represents_zeroed packetListLength positive, rfl, rfl, rfl, Nat.le_refl _, ?_,
      ⟨rfl, eachEvent_nil _⟩, rfl, rfl⟩
    · intro busy
      exact False.elim (busy rfl)
    · intro number time
      simp [Window.empty, additions]
  have reached := (measureMachine config packetListLength).run_invariant
    (iteration_inOrder layer roomy) start echo
  change ProgressInOrder config order (sbuf.drop 8)
    (measureLatency config positive (some sbuf) (some rbuf) inputs).1
    (measureLatency config positive (some sbuf) (some rbuf) inputs).2 at reached
  generalize measureLatency config positive (some sbuf) (some rbuf) inputs = run at reached ⊢
  rcases run with ⟨progress, trace⟩
  cases progress with
  | looping state => exact Between.inOrder reached
  | waiting state => exact reached
  | failed => exact reached
  | aborted => exact reached
  | returned state result => exact reached

/-- Packets of eight bytes, one due at every tick. -/
def eightByteConfig : MeasureConfig where
  layer := ipLayer .little
  tickRate :=
    { usecToTick := fun usec => usec
      tickToUsec := fun ticks => ticks
      predictedSends := fun _ _ elapsed => elapsed }
  samples := 2
  bps := 64000000
  size := 8
  warmup := 0
  cooldown := 1
  startTime := 10

/-- Packet zero goes out in two parts and comes back in two others. -/
def splitInputs : List IterationInput :=
  [{ now := 11, recvs := [.eagain], sends := [.sent 3, .eagain] },
    { now := 12, recvs := [.received [0, 0], .eagain], sends := [.sent 5] },
    { now := 13, recvs := [.received [0, 0, 0, 0, 0, 0]], sends := [.sent 8] },
    { now := 14, recvs := [.received [1, 0, 0, 0, 0, 0, 0, 0]], sends := [.eagain] }]

theorem tcpSession_inOrder_split :
    let run := measureLatency eightByteConfig (show 0 < 2 by decide)
      (some (List.replicate 8 7)) (some (List.replicate 8 9)) splitInputs
    InOrder 2 run.2 ∧ deletions run.2 = [(0, 12), (1, 13)] :=
  ⟨tcpSession_inOrder eightByteConfig .little rfl (by decide) (by decide) (List.replicate 8 7)
    (List.replicate 8 9) (by decide) (by decide) splitInputs (by decide), by decide⟩

end Latency
end Ipbench
