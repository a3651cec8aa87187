import Ipbench.Foundation.ByteOrder
import Ipbench.Foundation.Machine

namespace Ipbench
namespace Echo

open Foundation

/-!
# Frames and their echo

A raw client writes both addresses and the protocol at the front of a frame and
the identifier behind them.  The echo server has one buffer for all clients.
It swaps the addresses in place and always sends a whole buffer back, so that
each reply ends with bytes of earlier frames.  A client receives no more than
the size of its own frames and sees nothing of them.

The server sends until as many bytes have gone as have arrived, and swaps the
addresses each time.  A `sendto` that takes the whole buffer leaves nothing to
send again.

The network may lose, repeat and reorder frames: what arrives at the server is
any list of frames of any clients.
-/

def ethFrameLen : Nat :=
  1514

structure Mac where
  octets : List UInt8
  six : octets.length = 6

/-! ## The client -/

/-- The variables of `raw.c`, with the size of the packets and the order of bytes of the host. -/
structure RawClient where
  destMac : Mac
  srcMac : Mac
  protocol : UInt16
  size : Nat
  order : ByteOrder

def RawClient.header (client : RawClient) : List UInt8 :=
  client.destMac.octets ++ client.srcMac.octets ++
    [UInt8.ofNat (client.protocol.toNat / 256), UInt8.ofNat client.protocol.toNat]

/-- `raw_setup_packet` in a block of the size of a frame. -/
def rawSetupPacket (client : RawClient) (block : List UInt8) : Option (List UInt8) :=
  if ethFrameLen < client.size then none else some (client.header ++ block.drop 14)

def rawFillPacket (client : RawClient) (buf : List UInt8) (seq : UInt64) : List UInt8 :=
  buf.take 14 ++ client.order.store seq ++ buf.drop 22

def rawReadPacket (client : RawClient) (buf : List UInt8) : UInt64 :=
  client.order.load ((buf.drop 14).take 8)

def rawSendPacket (client : RawClient) (buf : List UInt8) : List UInt8 :=
  buf.take client.size

/-- `raw_recv_packet` into a buffer, which cuts a longer frame off. -/
def rawRecvPacket (client : RawClient) (buf frame : List UInt8) : List UInt8 :=
  frame.take client.size ++ buf.drop (frame.take client.size).length

/-! ## The server -/

/-- The loop of `memswap`; `none` leaves the buffer. -/
def memswap : (len : Nat) → (buf : List UInt8) → (a b : Nat) → Option (List UInt8)
  | 0, buf, _, _ => some buf
  | len + 1, buf, a, b =>
      match buf[a]?, buf[b]? with
      | some first, some second =>
          memswap len ((buf.set a second).set b first) (a + 1) (b + 1)
      | _, _ => none

/-- Where the server is.  `aborted` is a failed assertion; `waiting` is a call of `sendto` that
has not returned. -/
inductive Server where
  | serving (buffer : List UInt8)
  | waiting (buffer : List UInt8)
  | aborted
deriving DecidableEq, Repr

/-- What the calls of a turn return: the frame that `recvfrom` finds, unless it fails, and the
results of `sendto`. -/
structure Served where
  frame : Option (List UInt8)
  sent : List Int
deriving DecidableEq, Repr

/-- The inner loop, with the bytes that `sendto` has taken of each buffer. -/
def sendBack : (buffer : List UInt8) → (rcv : Int) → (sent : List Int) →
    Server × List (List UInt8)
  | buffer, rcv, [] => if 0 < rcv then (.waiting buffer, []) else (.serving buffer, [])
  | buffer, rcv, snd :: rest =>
      if 0 < rcv then
        match memswap 6 buffer 0 6 with
        | none => (.aborted, [])
        | some swapped =>
            if snd < 0 then (.aborted, [])
            else
              let later := sendBack swapped (rcv - snd) rest
              (later.1, (swapped.take ethFrameLen).take snd.toNat :: later.2)
      else (.serving buffer, [])

/-- A turn of the loop of the server, in whose buffer the frame overwrites the last one. -/
def echoTurn (server : Server) (served : Served) : Server × List (List UInt8) :=
  match server, served.frame with
  | .serving _, none => (.aborted, [])
  | .serving buffer, some frame =>
      let received := frame.take ethFrameLen
      sendBack (received ++ buffer.drop received.length) received.length served.sent
  | stopped, _ => (stopped, [])

def echoServer : Machine Server Served (List UInt8) where
  step := echoTurn

/-! ## Swapping -/

theorem memswap_apart (before behind : List UInt8) {first second : List UInt8}
    (between : List UInt8) (same : first.length = second.length) :
    memswap first.length (before ++ (first ++ (between ++ (second ++ behind)))) before.length
        (before.length + first.length + between.length) =
      some (before ++ (second ++ (between ++ (first ++ behind)))) := by
  induction first generalizing second before between with
  | nil =>
      rw [List.eq_nil_of_length_eq_zero same.symm]
      rfl
  | cons one first inductionHypothesis =>
      cases second with
      | nil => cases same
      | cons other second =>
          have later := inductionHypothesis (before ++ [other]) (between ++ [one])
            (Nat.succ.inj same)
          have front : (before ++ (one :: first ++ (between ++ (other :: second ++ behind))))[
              before.length]? = some one := by
            rw [List.getElem?_append_right (Nat.le_refl _), Nat.sub_self]
            rfl
          have place : before.length + (one :: first).length + between.length =
              (before ++ (one :: first ++ between)).length := by
            simp only [List.length_append, Nat.add_assoc]
          have whole : before ++ (one :: first ++ (between ++ (other :: second ++ behind))) =
              (before ++ (one :: first ++ between)) ++ (other :: second ++ behind) := by
            simp only [List.append_assoc]
          have back : (before ++ (one :: first ++ (between ++ (other :: second ++ behind))))[
              before.length + (one :: first).length + between.length]? = some other := by
            rw [place, whole, List.getElem?_append_right (Nat.le_refl _), Nat.sub_self]
            rfl
          have written : ((before ++ (one :: first ++ (between ++ (other :: second ++ behind)))).set
              before.length other).set (before.length + (one :: first).length + between.length)
                one =
              (before ++ [other]) ++ (first ++ ((between ++ [one]) ++ (second ++ behind))) := by
            have started : (before ++ (one :: first ++ (between ++ (other :: second ++ behind)))).set
                before.length other =
                before ++ other :: (first ++ (between ++ (other :: second ++ behind))) := by
              rw [List.set_append_right _ _ (Nat.le_refl _), Nat.sub_self]
              rfl
            have regroup : before ++ other :: (first ++ (between ++ (other :: second ++ behind))) =
                (before ++ (other :: (first ++ between))) ++ (other :: (second ++ behind)) := by
              simp only [List.append_assoc, List.cons_append]
            have length : before.length + (one :: first).length + between.length =
                (before ++ (other :: (first ++ between))).length := by
              simp only [List.length_append, List.length_cons]
              omega
            rw [started, regroup, length, List.set_append_right _ _ (Nat.le_refl _), Nat.sub_self,
              List.set_cons_zero]
            simp only [List.append_assoc, List.cons_append, List.nil_append]
          have counts : (before ++ [other]).length = before.length + 1 ∧
              (before ++ [other]).length + first.length + (between ++ [one]).length =
                before.length + (one :: first).length + between.length + 1 := by
            refine ⟨List.length_append, ?_⟩
            rw [List.length_append, List.length_append, List.length_singleton,
              List.length_singleton, List.length_cons]
            omega
          rw [List.length_cons, memswap, ← List.length_cons, front, back]
          dsimp only
          rw [written, ← counts.1, ← counts.2, later]
          simp only [List.append_assoc, List.cons_append, List.nil_append]

theorem memswap_addresses (dest source : Mac) (behind : List UInt8) :
    memswap 6 (dest.octets ++ (source.octets ++ behind)) 0 6 =
      some (source.octets ++ (dest.octets ++ behind)) := by
  have swapped := memswap_apart [] behind [] (dest.six.trans source.six.symm)
  rw [dest.six] at swapped
  exact swapped

/-! ## A frame -/

/-- A frame of a client, from the block of its buffer on. -/
structure Sent where
  client : RawClient
  block : List UInt8
  buf : List UInt8
  seq : UInt64
  whole : block.length = ethFrameLen
  setup : rawSetupPacket client block = some buf
  roomy : 22 ≤ client.size

def Sent.frame (sent : Sent) : List UInt8 :=
  rawSendPacket sent.client (rawFillPacket sent.client sent.buf sent.seq)

/-- What stands behind the addresses. -/
def Sent.payload (sent : Sent) : List UInt8 :=
  [UInt8.ofNat (sent.client.protocol.toNat / 256), UInt8.ofNat sent.client.protocol.toNat] ++
    (sent.client.order.store sent.seq ++ (sent.block.drop 22).take (sent.client.size - 22))

theorem Sent.size_le (sent : Sent) : sent.client.size ≤ ethFrameLen := by
  by_contra long
  have refused := sent.setup
  rw [rawSetupPacket, if_pos (Nat.lt_of_not_le long)] at refused
  cases refused

theorem RawClient.header_length (client : RawClient) : client.header.length = 14 := by
  rw [header, List.length_append, List.length_append, client.destMac.six, client.srcMac.six]
  rfl

theorem Sent.payload_length (sent : Sent) : sent.payload.length + 12 = sent.client.size := by
  have fits := sent.size_le
  have room := sent.roomy
  rw [payload, List.length_append, List.length_append, ByteOrder.store_length, List.length_take,
    List.length_drop, sent.whole, List.length_cons, List.length_singleton]
  omega

theorem Sent.frame_eq (sent : Sent) :
    sent.frame =
      sent.client.destMac.octets ++ (sent.client.srcMac.octets ++ sent.payload) := by
  have granted := sent.setup
  rw [rawSetupPacket, if_neg (Nat.not_lt.mpr sent.size_le)] at granted
  have buf := (Option.some.inj granted).symm
  have header := sent.client.header_length
  have front : sent.buf.take 14 = sent.client.header := by
    rw [buf, List.take_left' header]
  have back : sent.buf.drop 22 = sent.block.drop 22 := by
    rw [buf, List.drop_append, header, List.drop_eq_nil_of_le (by omega), List.drop_drop]
    rfl
  have length : (sent.client.header ++ sent.client.order.store sent.seq).length = 22 := by
    rw [List.length_append, header, ByteOrder.store_length]
  rw [frame, rawSendPacket, rawFillPacket, front, back, List.take_append, length,
    List.take_of_length_le (length ▸ sent.roomy), RawClient.header, payload]
  simp only [List.append_assoc]

/-- The frame with its addresses swapped. -/
def Sent.returned (sent : Sent) : List UInt8 :=
  sent.client.srcMac.octets ++ (sent.client.destMac.octets ++ sent.payload)

theorem Sent.returned_length (sent : Sent) : sent.returned.length = sent.client.size := by
  have length := sent.payload_length
  rw [returned, List.length_append, List.length_append, sent.client.srcMac.six,
    sent.client.destMac.six]
  omega

theorem Sent.frame_length (sent : Sent) : sent.frame.length = sent.client.size := by
  rw [← sent.returned_length, sent.frame_eq, returned, List.length_append, List.length_append,
    List.length_append, List.length_append, sent.client.srcMac.six, sent.client.destMac.six]

/-! ## A reply -/

/-- The reply to a frame goes to its sender, who receives the frame with its addresses swapped
and reads the identifier from it. -/
structure Answered (sent : Sent) (reply : List UInt8) : Prop where
  whole : reply.length = ethFrameLen
  addressed : reply.take 6 = sent.client.srcMac.octets
  returned : ∀ rbuf : List UInt8, rbuf.length = ethFrameLen →
    (rawRecvPacket sent.client rbuf reply).take sent.client.size = sent.returned ∧
      rawReadPacket sent.client (rawRecvPacket sent.client rbuf reply) = sent.seq

/-- A frame that arrives, with the results of `sendto`. -/
structure Arrived where
  sent : Sent
  results : List Int

def Arrived.served (arrived : Arrived) : Served where
  frame := some arrived.sent.frame
  sent := arrived.results

/-- What the server does with a frame that `sendto` takes whole. -/
theorem echoTurn_frame {buffer : List UInt8} (whole : buffer.length = ethFrameLen)
    {arrived : Arrived} (accepts : arrived.results.head? = some (ethFrameLen : Int)) :
    echoTurn (.serving buffer) arrived.served =
      (.serving (arrived.sent.returned ++ buffer.drop arrived.sent.client.size),
        [arrived.sent.returned ++ buffer.drop arrived.sent.client.size]) := by
  rcases arrived with ⟨sent, results⟩
  cases results with
  | nil => cases accepts
  | cons snd rest =>
      cases Option.some.inj accepts
      have room := sent.roomy
      have fits := sent.size_le
      have taken : sent.frame.take ethFrameLen = sent.frame :=
        List.take_of_length_le (sent.frame_length ▸ sent.size_le)
      have arrives : (0 : Int) < (sent.client.size : Int) := by omega
      have length : (sent.returned ++ buffer.drop sent.client.size).length = ethFrameLen := by
        rw [List.length_append, sent.returned_length, List.length_drop, whole]
        omega
      have swapped : memswap 6 (sent.frame ++ buffer.drop sent.client.size) 0 6 =
          .some (sent.returned ++ buffer.drop sent.client.size) := by
        rw [sent.frame_eq, List.append_assoc, List.append_assoc, memswap_addresses,
          Sent.returned, List.append_assoc, List.append_assoc]
      have whole_ : ((sent.returned ++ buffer.drop sent.client.size).take ethFrameLen).take
          (ethFrameLen : Int).toNat = sent.returned ++ buffer.drop sent.client.size := by
        rw [Int.toNat_natCast, List.take_take, Nat.min_self,
          List.take_of_length_le (Nat.le_of_eq length)]
      -- As many bytes have gone as a frame can have, so nothing is sent again.
      have done : ∀ final : List UInt8,
          sendBack final ((sent.client.size : Int) - (ethFrameLen : Int)) rest =
            (.serving final, []) := by
        intro final
        have nothing : ¬ (0 : Int) < (sent.client.size : Int) - (ethFrameLen : Int) := by omega
        cases rest with
        | nil => rw [sendBack, if_neg nothing]
        | cons _ _ => rw [sendBack, if_neg nothing]
      unfold echoTurn Arrived.served
      dsimp only
      rw [taken, sent.frame_length, sendBack, if_pos arrives, swapped]
      dsimp only
      rw [if_neg (by decide), done, whole_]

/-- A client reads its identifier from the first bytes of a reply. -/
theorem answered_returned (sent : Sent) {rest : List UInt8}
    (length : (sent.returned ++ rest).length = ethFrameLen) :
    Answered sent (sent.returned ++ rest) := by
  have received : ∀ rbuf : List UInt8, rawRecvPacket sent.client rbuf (sent.returned ++ rest) =
      sent.returned ++ rbuf.drop sent.client.size := fun rbuf => by
    rw [rawRecvPacket, List.take_left' sent.returned_length, sent.returned_length]
  refine ⟨length, ?_, fun rbuf _ => ⟨?_, ?_⟩⟩
  · rw [Sent.returned, List.append_assoc, List.take_left' sent.client.srcMac.six]
  · rw [received, List.take_left' sent.returned_length]
  · have front : (sent.client.srcMac.octets ++ (sent.client.destMac.octets ++
        [UInt8.ofNat (sent.client.protocol.toNat / 256),
          UInt8.ofNat sent.client.protocol.toNat])).length = 14 := by
      rw [List.length_append, List.length_append, sent.client.srcMac.six, sent.client.destMac.six]
      rfl
    have parts : sent.returned = (sent.client.srcMac.octets ++ (sent.client.destMac.octets ++
        [UInt8.ofNat (sent.client.protocol.toNat / 256),
          UInt8.ofNat sent.client.protocol.toNat])) ++
        (sent.client.order.store sent.seq ++
          (sent.block.drop 22).take (sent.client.size - 22)) := by
      rw [Sent.returned, Sent.payload]
      simp only [List.append_assoc]
    rw [received, rawReadPacket, parts, List.append_assoc, List.drop_left' front,
      List.append_assoc, List.take_left' (ByteOrder.store_length _ _), ByteOrder.load_store]

/-! ## Main result -/

/-- Whatever frames of whatever clients arrive, and whatever the buffer held: a server whose
frames are all sent whole sends one reply to each, in their order, each client finds its own frame
and identifier in it, and the server goes on. -/
theorem echoServer_answers {buffer : List UInt8} (whole : buffer.length = ethFrameLen)
    (arrived : List Arrived)
    (accepts : ∀ one ∈ arrived, one.results.head? = some (ethFrameLen : Int)) :
    let run := echoServer.run (.serving buffer) (arrived.map Arrived.served)
    List.Forall₂ (fun one reply => Answered one.sent reply) arrived run.2 ∧
      ∃ last, run.1 = .serving last ∧ last.length = ethFrameLen := by
  induction arrived generalizing buffer with
  | nil => exact ⟨.nil, buffer, rfl, whole⟩
  | cons first rest inductionHypothesis =>
      rcases List.forall_mem_cons.mp accepts with ⟨here, later⟩
      have length : (first.sent.returned ++ buffer.drop first.sent.client.size).length =
          ethFrameLen := by
        have fits := first.sent.size_le
        rw [List.length_append, first.sent.returned_length, List.length_drop, whole]
        omega
      rcases inductionHypothesis length later with ⟨answered, last, serving, size⟩
      rw [List.map_cons, Machine.run_cons_of_step (echoTurn_frame whole here)]
      exact ⟨.cons (answered_returned first.sent length) answered, last, serving, size⟩

/-- A client with addresses of one octet six times over, and a frame of it. -/
def plainClient (dest source : UInt8) (size : Nat) : RawClient where
  destMac := { octets := List.replicate 6 dest, six := List.length_replicate }
  srcMac := { octets := List.replicate 6 source, six := List.length_replicate }
  protocol := 0x6008
  size := size
  order := .little

def plainSent (dest source : UInt8) (size : Nat) (seq : UInt64) (roomy : 22 ≤ size)
    (fits : size ≤ ethFrameLen) : Sent where
  client := plainClient dest source size
  block := List.replicate ethFrameLen 0
  buf := (plainClient dest source size).header ++ List.replicate (ethFrameLen - 14) 0
  seq := seq
  whole := List.length_replicate
  setup := by
    have granted : ¬ ethFrameLen < (plainClient dest source size).size := Nat.not_lt.mpr fits
    rw [rawSetupPacket, if_neg granted, List.drop_replicate]
  roomy := roomy

/-- A long frame of one client, and a short one of another. -/
def longAndShort : List Arrived :=
  [{ sent := plainSent 1 2 1514 7 (by decide) (by decide), results := [1514] },
    { sent := plainSent 1 3 22 9 (by decide) (by decide), results := [1514] }]

theorem echoServer_answers_pair :
    let run := echoServer.run (.serving (List.replicate ethFrameLen 0))
      (longAndShort.map Arrived.served)
    List.Forall₂ (fun one reply => Answered one.sent reply) longAndShort run.2 ∧
      ∃ last, run.1 = .serving last ∧ last.length = ethFrameLen :=
  echoServer_answers List.length_replicate longAndShort (by
    intro one member
    simp only [longAndShort, List.mem_cons, List.not_mem_nil, or_false] at member
    rcases member with rfl | rfl
    · rfl
    · rfl)

end Echo
end Ipbench
