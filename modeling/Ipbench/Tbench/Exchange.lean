import Ipbench.Foundation.Block
import Ipbench.Foundation.CText
import Ipbench.Foundation.Transfer

namespace Ipbench
namespace Tbench

open Foundation

/-!
# Packets of a file server that serves nothing

A client of tbench sends requests of the sizes that a file server would get,
and its server answers each of them with as many bytes as the request asks
for.  Both ends have a buffer of 70000 bytes.  A request begins with two
words: what follows of it behind the first, and what follows of the answer
behind its first word.

The client waits for each answer, so the exchanges follow each other.  The
network cuts both directions at arbitrary points.  The last `recv` of the
client may discard what it receives, which is what `MSG_TRUNC` means to TCP,
or store it like any other.
-/

def bufSize : Nat :=
  70000

/-- Conversion to `unsigned long`. -/
def ulong (value : Int) : Nat :=
  (value % 0x10000000000000000).toNat

def toInt (word : Nat) : Int :=
  if word < 0x80000000 then word else word - 0x100000000

/-! ## The server -/

/-- How a turn of the loop of `server` ends.  `wild` is a call with a size
that is negative or leaves the buffer. -/
inductive ServerEnd where
  | answered
  | closed
  | overflow
  | wild
deriving DecidableEq, Repr

structure ServerTurn where
  ending : ServerEnd
  buf : List UInt8
  written : List UInt8
  stream : List UInt8
deriving DecidableEq, Repr

def serverTurn (buf : List UInt8) (socket : Socket) (counts : List Nat) : ServerTurn :=
  let header := socket.receiveAll 4 4
  if header.1.length ≠ 4 then { ending := .closed, buf := buf, written := [], stream := [] }
  else
    let n := toInt (ofNetWord header.1)
    if bufSize ≤ ulong (n + 4) then
      { ending := .overflow, buf := buf, written := [], stream := header.2.stream }
    else if n < 0 then { ending := .wild, buf := buf, written := [], stream := header.2.stream }
    else
      let body := header.2.receiveAll n.toNat n.toNat
      if body.1.length ≠ n.toNat then
        { ending := .closed, buf := buf, written := [], stream := [] }
      else
        let filled := header.1 ++ body.1 ++ buf.drop (4 + n.toNat)
        let answer := ofNetWord ((filled.drop 4).take 4)
        let named := netWord answer ++ filled.drop 4
        let size := toInt answer + 4
        if size < 0 ∨ (bufSize : Int) < size then
          { ending := .wild, buf := named, written := [], stream := body.2.stream }
        else
          let written := sendAll counts (named.take size.toNat)
          { ending := if written.length = size.toNat then .answered else .closed
            buf := named, written := written, stream := body.2.stream }

/-! ## The client -/

/-- What keeps a client from its next operation. -/
inductive Trouble where
  | overread
  | errorWriting
  | unanswered (ending : ServerEnd)
  | errorHeader
  | lostSync
  | overrun
  | errorReading
deriving DecidableEq, Repr

structure Link where
  client : List UInt8
  server : List UInt8
deriving DecidableEq, Repr

/-- What the network does to one exchange: how many bytes each `send` takes,
and where both streams are cut. -/
structure Network where
  requestCounts : List Nat
  requestCuts : List Nat
  answerCounts : List Nat
  answerCuts : List Nat
deriving DecidableEq, Repr

/-- `do_packets` from the first `read_sock` on.  The flag is the last message,
which does not end the program. -/
def readAnswer (discards : Bool) (buf answer : List UInt8) (cuts : List Nat) (recvSize : Nat) :
    Except Trouble (List UInt8 × Bool) :=
  let expected := ulong ((recvSize : Int) - 4)
  let socket : Socket := { stream := answer, cuts := cuts }
  let header := socket.receiveAll 4 4
  if header.1.length ≠ 4 then .error .errorHeader
  else
    let buf := header.1 ++ buf.drop 4
    if ofNetWord header.1 ≠ expected then .error .lostSync
    else
      -- MSG_WAITALL: the call ends early only where the stream does.
      let body := header.2.stream.take expected
      let stored := if discards then some buf else memcpy buf 0 body body.length
      match stored with
      | none => .error .overrun
      | some buf =>
          if body.length ≠ expected then .error .errorReading
          else .ok (buf, decide (ofNetWord (buf.take 4) ≠ expected))

/-- `do_packets` after a turn of the server. -/
def afterTurn (discards : Bool) (network : Network) (buf : List UInt8) (recvSize : Nat)
    (turn : ServerTurn) : Except Trouble (Link × Bool) :=
  match turn.ending with
  | .answered =>
      match readAnswer discards buf turn.written network.answerCuts recvSize with
      | .error trouble => .error trouble
      | .ok (client, complaint) => .ok ({ client := client, server := turn.buf }, complaint)
  | ending => .error (.unanswered ending)

/-- `do_packets` against a server that waits for a request. -/
def doPackets (discards : Bool) (network : Network) (link : Link) (sendSize recvSize : Nat) :
    Except Trouble (Link × Bool) :=
  let buf := netWord (ulong ((sendSize : Int) - 4)) ++ netWord (ulong ((recvSize : Int) - 4)) ++
    link.client.drop 8
  if link.client.length < sendSize then .error .overread
  else
    let sent := sendAll network.requestCounts (buf.take sendSize)
    if sent.length ≠ sendSize then .error .errorWriting
    else
      afterTurn discards network buf recvSize
        (serverTurn link.server { stream := sent, cuts := network.requestCuts }
          network.answerCounts)

/-! ## Operations -/

/-- The functions `nb_unlink` to `nb_deltree`, with the arguments that they read. -/
inductive Operation where
  | unlink (fname : CString)
  | rmdir
  | createx
  | writex (size : Int)
  | readx (size : Int)
  | close
  | rename (old new : CString)
  | qpathinfo (fname : CString)
  | qfileinfo
  | qfsinfo
  | findfirst (fname : CString)
  | flush
  | deltree

def strlen (text : CString) : Nat :=
  text.bytes.length

/-- The arguments of `do_packets`; `nb_deltree` does nothing. -/
def Operation.packets : Operation → Option (Nat × Nat)
  | unlink fname => some (ulong (39 + 2 + strlen fname * 2 + 2), 39)
  | rmdir => some (83, 39)
  | createx => some (111, 69)
  | writex size => some (ulong (39 + 24 + size), 39 + 12)
  | readx size => some (55, ulong (size + 39 + 24))
  | close => some (45, 39)
  | rename old new => some (ulong (41 + strlen old + strlen new), 39)
  | qpathinfo fname => some (ulong (41 + strlen fname), 80)
  | qfileinfo => some (41, 80)
  | qfsinfo => some (41, 80)
  | findfirst fname => some (ulong (41 + strlen fname), 200)
  | flush => some (41, 39)
  | deltree => none

/-- What `bytes_in` and `bytes_out` of the child grow by. -/
def Operation.counted : Operation → UInt64 × UInt64
  | writex size => (0, asUint64 size)
  | readx size => (asUint64 size, 0)
  | _ => (0, 0)

/-- A child between two operations, with the messages it has printed. -/
structure Child where
  link : Link
  bytesIn : UInt64
  bytesOut : UInt64
  complaints : Nat
deriving DecidableEq, Repr

def operate (discards : Bool) (child : Child) (item : Operation × Network) :
    Except Trouble Child :=
  let counted := { child with
    bytesIn := child.bytesIn + item.1.counted.1
    bytesOut := child.bytesOut + item.1.counted.2 }
  match item.1.packets with
  | none => .ok counted
  | some (sendSize, recvSize) =>
      match doPackets discards item.2 child.link sendSize recvSize with
      | .error trouble => .error trouble
      | .ok (link, complaint) =>
          .ok { counted with
            link := link
            complaints := child.complaints + if complaint then 1 else 0 }

/-- `nb_setup` after the connection has been made. -/
def nbSetup (discards : Bool) (network : Network) (link : Link) : Except Trouble Child :=
  match doPackets discards network link 8 8 with
  | .error trouble => .error trouble
  | .ok (link, complaint) =>
      .ok { link := link, bytesIn := 0, bytesOut := 0, complaints := if complaint then 1 else 0 }

/-- The operations of a child, in turn. -/
def operateAll (discards : Bool) (child : Child) (items : List (Operation × Network)) :
    Except Trouble Child :=
  items.foldlM (operate discards) child

/-! ## One exchange -/

structure Link.Whole (link : Link) : Prop where
  client : link.client.length = bufSize
  server : link.server.length = bufSize

/-- No `send` of either end fails. -/
structure Network.Sends (network : Network) : Prop where
  request : 0 ∉ network.requestCounts
  answer : 0 ∉ network.answerCounts

theorem ulong_sub {value : Nat} (some : 4 ≤ value) (small : value < 0x10000000000000000) :
    ulong ((value : Int) - 4) = value - 4 := by
  unfold ulong
  omega

theorem toInt_small {word : Nat} (small : word < 0x80000000) : toInt word = word :=
  if_pos small

section Server

variable {buf rest : List UInt8} {socket : Socket} {counts : List Nat} {sendSize recvSize : Nat}

/-- The request of a client, as the server finds it. -/
structure Requested (socket : Socket) (rest : List UInt8) (sendSize recvSize : Nat) : Prop where
  stream : socket.stream = netWord (sendSize - 4) ++ (netWord (recvSize - 4) ++ rest)
  length : rest.length + 8 = sendSize

/-- The server reads the first word of a request, and then what it names. -/
theorem Requested.header (requested : Requested socket rest sendSize recvSize) :
    (socket.receiveAll 4 4).1 = netWord (sendSize - 4) ∧
      (socket.receiveAll 4 4).2.stream = netWord (recvSize - 4) ++ rest := by
  rcases socket.receiveAll_eq (Nat.le_refl 4) with ⟨taken, left⟩
  rw [taken, left, requested.stream]
  exact ⟨List.take_left' (netWord_length _), List.drop_left' (netWord_length _)⟩

theorem Requested.body (requested : Requested socket rest sendSize recvSize) :
    ((socket.receiveAll 4 4).2.receiveAll (sendSize - 4) (sendSize - 4)).1 =
        netWord (recvSize - 4) ++ rest ∧
      ((socket.receiveAll 4 4).2.receiveAll (sendSize - 4) (sendSize - 4)).2.stream = [] := by
  rcases (socket.receiveAll 4 4).2.receiveAll_eq (Nat.le_refl (sendSize - 4)) with ⟨taken, left⟩
  have length : (netWord (recvSize - 4) ++ rest).length ≤ sendSize - 4 := by
    have := requested.length
    rw [List.length_append, netWord_length]
    omega
  rw [taken, left, requested.header.2]
  exact ⟨List.take_of_length_le length, List.drop_eq_nil_of_le length⟩

/-- What `server` does with a request: it refuses one that is too long, and runs out of its
buffer for one that asks too much. -/
theorem serverTurn_requested (requested : Requested socket rest sendSize recvSize)
    (whole : buf.length = bufSize) (fits : sendSize ≤ bufSize) (asks : 8 ≤ recvSize)
    (word : recvSize < 0x100000000) (fine : 0 ∉ counts) :
    (sendSize = bufSize → (serverTurn buf socket counts).ending = .overflow) ∧
    (sendSize < bufSize → bufSize < recvSize → (serverTurn buf socket counts).ending = .wild) ∧
    (sendSize < bufSize → recvSize ≤ bufSize →
      (serverTurn buf socket counts).ending = .answered ∧
      (serverTurn buf socket counts).buf.length = bufSize ∧
      (serverTurn buf socket counts).written =
        netWord (recvSize - 4) ++
          (netWord (recvSize - 4) ++ (rest ++ buf.drop sendSize)).take (recvSize - 4)) := by
  rcases requested.header with ⟨header, _⟩
  rcases requested.body with ⟨body, left⟩
  have length := requested.length
  have size : bufSize = 70000 := rfl
  have number : toInt (ofNetWord (netWord (sendSize - 4))) = ((sendSize - 4 : Nat) : Int) := by
    rw [ofNetWord_netWord (by omega), toInt_small (by omega)]
  have sum : ulong (((sendSize - 4 : Nat) : Int) + 4) = sendSize := by
    unfold ulong
    omega
  unfold serverTurn
  dsimp only
  rw [header, number, sum, Int.toNat_natCast, body, left, if_neg (not_not.mpr (netWord_length _))]
  refine ⟨fun full => ?_, fun less more => ?_, fun less fits => ?_⟩
  · rw [if_pos (by omega)]
  all_goals
    have filled : (netWord (sendSize - 4) ++ (netWord (recvSize - 4) ++ rest) ++
        buf.drop (4 + (sendSize - 4))).drop 4 =
        netWord (recvSize - 4) ++ (rest ++ buf.drop sendSize) := by
      rw [List.append_assoc, List.drop_left' (netWord_length _), List.append_assoc,
        show 4 + (sendSize - 4) = sendSize by omega]
    have asked : ofNetWord ((netWord (recvSize - 4) ++ (rest ++ buf.drop sendSize)).take 4) =
        recvSize - 4 := by
      rw [List.take_left' (netWord_length _), ofNetWord_netWord (by omega)]
    have bodyLength : (netWord (recvSize - 4) ++ rest).length = sendSize - 4 := by
      rw [List.length_append, netWord_length]
      omega
    rw [if_neg (by omega), if_neg (by omega), if_neg (not_not.mpr bodyLength), filled, asked]
  · rw [if_pos]
    unfold toInt
    split <;> omega
  · have answer : toInt (recvSize - 4) + 4 = (recvSize : Int) := by
      rw [toInt_small (by omega)]
      omega
    have named : (netWord (recvSize - 4) ++
        (netWord (recvSize - 4) ++ (rest ++ buf.drop sendSize))).length = bufSize := by
      rw [List.length_append, List.length_append, List.length_append, netWord_length,
        List.length_drop, whole]
      omega
    rw [answer, if_neg (by omega)]
    dsimp only
    rw [sendAll_eq fine, Int.toNat_natCast]
    refine ⟨if_pos ?_, named, ?_⟩
    · rw [List.length_take, named]
      omega
    · rw [List.take_append, netWord_length, List.take_of_length_le (by rw [netWord_length]; omega)]

end Server

/-- An answer of the size that was asked for is read without a complaint. -/
theorem readAnswer_ok (discards : Bool) (cuts : List Nat) {buf payload : List UInt8}
    {recvSize : Nat} (whole : buf.length = bufSize) (asks : 8 ≤ recvSize)
    (fits : recvSize ≤ bufSize) (length : payload.length + 4 = recvSize)
    (front : payload.take 4 = netWord (recvSize - 4)) :
    ∃ client, readAnswer discards buf (netWord (recvSize - 4) ++ payload) cuts recvSize =
      .ok (client, false) ∧ client.length = bufSize := by
  have size : bufSize = 70000 := rfl
  generalize socketEq : Socket.mk (netWord (recvSize - 4) ++ payload) cuts = socket
  have stream : socket.stream = netWord (recvSize - 4) ++ payload := by rw [← socketEq]
  rcases socket.receiveAll_eq (Nat.le_refl 4) with ⟨taken, left⟩
  rw [stream, List.take_left' (netWord_length _)] at taken
  rw [stream, List.drop_left' (netWord_length _)] at left
  have expected : ulong ((recvSize : Int) - 4) = recvSize - 4 := ulong_sub (by omega) (by omega)
  have word : ofNetWord (netWord (recvSize - 4)) = recvSize - 4 := ofNetWord_netWord (by omega)
  have body : payload.take (recvSize - 4) = payload := List.take_of_length_le (by omega)
  have kept : (netWord (recvSize - 4) ++ buf.drop 4).length = bufSize := by
    rw [List.length_append, netWord_length, List.length_drop, whole]
    omega
  unfold readAnswer
  dsimp only
  rw [socketEq, taken, left, expected, word, body, if_neg (not_not.mpr (netWord_length _)),
    if_neg (not_not.mpr rfl)]
  cases discards with
  | true =>
      refine ⟨netWord (recvSize - 4) ++ buf.drop 4, ?_, kept⟩
      rw [if_pos rfl]
      dsimp only
      rw [if_neg (by omega), List.take_left' (netWord_length _), word]
      simp
  | false =>
      have stored : memcpy (netWord (recvSize - 4) ++ buf.drop 4) 0 payload payload.length =
          some (payload ++ (netWord (recvSize - 4) ++ buf.drop 4).drop payload.length) := by
        unfold memcpy
        rw [if_pos ⟨Nat.le_refl _, by rw [kept]; omega⟩, Nat.zero_add, List.take_zero,
          List.nil_append, List.take_length]
      refine ⟨_, ?_, memcpy_length stored |>.trans kept⟩
      rw [if_neg Bool.false_ne_true, stored]
      dsimp only
      rw [if_neg (by omega), List.take_append_of_le_length (by omega), front, word]
      simp

section Packets

variable {discards : Bool} {network : Network} {link : Link} {sendSize recvSize : Nat}

/-- What `do_packets` comes to: an exchange within the buffers succeeds, and any other fails at
one of the two ends. -/
theorem doPackets_spec (discards : Bool) (sends : network.Sends) (whole : link.Whole)
    (writes : 8 ≤ sendSize) (asks : 8 ≤ recvSize) (word : recvSize < 0x100000000) :
    (sendSize < bufSize ∧ recvSize ≤ bufSize →
      ∃ next, doPackets discards network link sendSize recvSize = .ok (next, false) ∧
        next.Whole) ∧
    (¬ (sendSize < bufSize ∧ recvSize ≤ bufSize) →
      ∃ trouble, doPackets discards network link sendSize recvSize = .error trouble ∧
        (trouble = .overread ∨ trouble = .unanswered .overflow ∨ trouble = .unanswered .wild)) := by
  have size : bufSize = 70000 := rfl
  by_cases fits : sendSize ≤ bufSize
  · have sendWord : ulong ((sendSize : Int) - 4) = sendSize - 4 := ulong_sub (by omega) (by omega)
    have recvWord : ulong ((recvSize : Int) - 4) = recvSize - 4 := ulong_sub (by omega) (by omega)
    let rest := (link.client.drop 8).take (sendSize - 8)
    have buffer : (netWord (sendSize - 4) ++ netWord (recvSize - 4) ++ link.client.drop 8).take
        sendSize = netWord (sendSize - 4) ++ (netWord (recvSize - 4) ++ rest) := by
      have eight : (netWord (sendSize - 4) ++ netWord (recvSize - 4)).length = 8 := by
        rw [List.length_append, netWord_length, netWord_length]
      rw [List.take_append, List.take_of_length_le (by rw [eight]; exact writes), eight,
        List.append_assoc]
    have restLength : rest.length + 8 = sendSize := by
      change ((link.client.drop 8).take (sendSize - 8)).length + 8 = sendSize
      rw [List.length_take, List.length_drop, whole.client]
      omega
    have sentLength : (netWord (sendSize - 4) ++ (netWord (recvSize - 4) ++ rest)).length =
        sendSize := by
      rw [List.length_append, List.length_append, netWord_length, netWord_length]
      omega
    let socket : Socket :=
      { stream := netWord (sendSize - 4) ++ (netWord (recvSize - 4) ++ rest)
        cuts := network.requestCuts }
    have requested : Requested socket rest sendSize recvSize := ⟨rfl, restLength⟩
    obtain ⟨refuses, leaves, answers⟩ :=
      serverTurn_requested requested whole.server fits asks word sends.answer
    have packets : doPackets discards network link sendSize recvSize =
        afterTurn discards network
          (netWord (sendSize - 4) ++ netWord (recvSize - 4) ++ link.client.drop 8) recvSize
          (serverTurn link.server socket network.answerCounts) := by
      unfold doPackets
      dsimp only
      rw [sendWord, recvWord, buffer, sendAll_eq sends.request,
        if_neg (by rw [whole.client]; omega), if_neg (not_not.mpr sentLength)]
    rw [packets, afterTurn]
    constructor
    · rintro ⟨less, inside⟩
      rcases answers less inside with ⟨ending, server, written⟩
      have payload : ((netWord (recvSize - 4) ++ (rest ++ link.server.drop sendSize)).take
          (recvSize - 4)).length + 4 = recvSize := by
        rw [List.length_take, List.length_append, List.length_append, List.length_drop,
          netWord_length, whole.server]
        omega
      have clientLength : (netWord (sendSize - 4) ++ netWord (recvSize - 4) ++
          link.client.drop 8).length = bufSize := by
        rw [List.length_append, List.length_append, List.length_drop, netWord_length,
          netWord_length, whole.client]
        omega
      have front : ((netWord (recvSize - 4) ++ (rest ++ link.server.drop sendSize)).take
          (recvSize - 4)).take 4 = netWord (recvSize - 4) := by
        rw [List.take_take, Nat.min_eq_left (by omega), List.take_left' (netWord_length _)]
      obtain ⟨client, read, clientWhole⟩ :=
        readAnswer_ok discards network.answerCuts clientLength asks inside payload front
      rw [ending, written]
      dsimp only
      rw [read]
      exact ⟨_, rfl, clientWhole, server⟩
    · intro outside
      by_cases less : sendSize < bufSize
      · rw [leaves less (by omega)]
        exact ⟨_, rfl, Or.inr (Or.inr rfl)⟩
      · rw [refuses (by omega)]
        exact ⟨_, rfl, Or.inr (Or.inl rfl)⟩
  · refine ⟨fun inside => absurd inside.1.le fits, fun _ => ⟨.overread, ?_, Or.inl rfl⟩⟩
    unfold doPackets
    dsimp only
    rw [if_pos]
    rw [whole.client]
    omega

end Packets

/-! ## A whole run -/

/-- Sizes that are no negative `int`, and names of a length that memory can hold. -/
def Operation.Plain : Operation → Prop
  | writex size | readx size => 0 ≤ size ∧ size < 0x80000000
  | unlink fname | qpathinfo fname | findfirst fname => strlen fname < 0x80000000
  | rename old new => strlen old < 0x80000000 ∧ strlen new < 0x80000000
  | _ => True

instance : DecidablePred Operation.Plain
  | .writex _ | .readx _ => inferInstanceAs (Decidable (_ ∧ _))
  | .unlink _ | .qpathinfo _ | .findfirst _ => inferInstanceAs (Decidable (_ < _))
  | .rename _ _ => inferInstanceAs (Decidable (_ ∧ _))
  | .rmdir | .createx | .close | .qfileinfo | .qfsinfo | .flush | .deltree => .isTrue trivial

/-- The request is shorter than the buffers, and the answer no longer than them. -/
def Operation.Fits (operation : Operation) : Prop :=
  ∀ sendSize recvSize, operation.packets = some (sendSize, recvSize) →
    sendSize < bufSize ∧ recvSize ≤ bufSize

instance (operation : Operation) : Decidable operation.Fits :=
  match packets : operation.packets with
  | none => .isTrue fun _ _ same => by rw [packets] at same; cases same
  | some (sendSize, recvSize) =>
      decidable_of_iff (sendSize < bufSize ∧ recvSize ≤ bufSize) (by
        refine ⟨fun inside _ _ same => ?_, fun fits => fits _ _ packets⟩
        rw [packets] at same
        cases same
        exact inside)

/-- The trouble of a child is that a size leaves a buffer, never that the ends lose step. -/
def OutOfBuffer (trouble : Trouble) : Prop :=
  trouble = .overread ∨ trouble = .unanswered .overflow ∨ trouble = .unanswered .wild

/-- A plain operation has room for the two words of a request, and asks for an answer of at
least as many bytes. -/
theorem Operation.Plain.bounds {operation : Operation} (plain : operation.Plain)
    {sendSize recvSize : Nat} (packets : operation.packets = some (sendSize, recvSize)) :
    8 ≤ sendSize ∧ 8 ≤ recvSize ∧ recvSize < 0x100000000 := by
  cases operation with
  | deltree => cases packets
  | writex size =>
      cases packets
      have range : 0 ≤ size ∧ size < 0x80000000 := plain
      unfold ulong
      omega
  | readx size =>
      cases packets
      have range : 0 ≤ size ∧ size < 0x80000000 := plain
      unfold ulong
      omega
  | unlink fname =>
      cases packets
      have short : strlen fname < 0x80000000 := plain
      unfold ulong
      omega
  | qpathinfo fname =>
      cases packets
      have short : strlen fname < 0x80000000 := plain
      unfold ulong
      omega
  | findfirst fname =>
      cases packets
      have short : strlen fname < 0x80000000 := plain
      unfold ulong
      omega
  | rename old new =>
      cases packets
      have short : strlen old < 0x80000000 ∧ strlen new < 0x80000000 := plain
      unfold ulong
      omega
  | rmdir => cases packets; decide
  | createx => cases packets; decide
  | close => cases packets; decide
  | qfileinfo => cases packets; decide
  | qfsinfo => cases packets; decide
  | flush => cases packets; decide

theorem operate_spec (discards : Bool) {child : Child} (whole : child.link.Whole)
    {item : Operation × Network} (plain : item.1.Plain) (sends : item.2.Sends) :
    (item.1.Fits → ∃ next, operate discards child item = .ok next ∧ next.link.Whole ∧
      next.complaints = child.complaints ∧ next.bytesIn = child.bytesIn + item.1.counted.1 ∧
        next.bytesOut = child.bytesOut + item.1.counted.2) ∧
    (¬ item.1.Fits → ∃ trouble, operate discards child item = .error trouble ∧
      OutOfBuffer trouble) := by
  unfold operate
  cases packets : item.1.packets with
  | none =>
      refine ⟨fun _ => ⟨_, rfl, whole, rfl, rfl, rfl⟩, fun leaves => absurd ?_ leaves⟩
      intro sendSize recvSize impossible
      rw [packets] at impossible
      cases impossible
  | some sizes =>
      rcases sizes with ⟨sendSize, recvSize⟩
      rcases plain.bounds packets with ⟨writes, asks, word⟩
      rcases doPackets_spec discards sends whole writes asks word with ⟨succeeds, fails⟩
      have fits : item.1.Fits ↔ sendSize < bufSize ∧ recvSize ≤ bufSize := by
        constructor
        · exact fun fits => fits _ _ packets
        · intro inside other another same
          rw [packets] at same
          cases same
          exact inside
      dsimp only
      constructor
      · intro inside
        rcases succeeds (fits.mp inside) with ⟨next, done, nextWhole⟩
        rw [done]
        exact ⟨_, rfl, nextWhole, rfl, rfl, rfl⟩
      · intro outside
        rcases fails (outside ∘ fits.mpr) with ⟨trouble, failed, kind⟩
        rw [failed]
        exact ⟨_, rfl, kind⟩

def sumOf (counts : List UInt64) : UInt64 :=
  counts.foldr (fun count total => count + total) 0

theorem sumOf_cons (count : UInt64) (counts : List UInt64) :
    sumOf (count :: counts) = count + sumOf counts :=
  rfl

/-- What a child has at the end of its operations. -/
structure Completed (start last : Child) (operations : List Operation) : Prop where
  whole : last.link.Whole
  complaints : last.complaints = start.complaints
  bytesIn : last.bytesIn = start.bytesIn + sumOf (operations.map fun item => item.counted.1)
  bytesOut : last.bytesOut = start.bytesOut + sumOf (operations.map fun item => item.counted.2)

theorem operateAll_spec (discards : Bool) {child : Child} (whole : child.link.Whole)
    {items : List (Operation × Network)} (plain : ∀ item ∈ items, item.1.Plain)
    (sends : ∀ item ∈ items, item.2.Sends) :
    ((∀ item ∈ items, item.1.Fits) → ∃ last, operateAll discards child items = .ok last ∧
      Completed child last (items.map Prod.fst)) ∧
    ((¬ ∀ item ∈ items, item.1.Fits) → ∃ trouble,
      operateAll discards child items = .error trouble ∧ OutOfBuffer trouble) := by
  induction items generalizing child with
  | nil =>
      refine ⟨fun _ => ⟨child, rfl, whole, rfl, ?_, ?_⟩, fun leaves => absurd ?_ leaves⟩
      · exact (UInt64.add_zero _).symm
      · exact (UInt64.add_zero _).symm
      · exact fun _ member => absurd member List.not_mem_nil
  | cons item rest inductionHypothesis =>
      rcases List.forall_mem_cons.mp plain with ⟨plainHere, plainLater⟩
      rcases List.forall_mem_cons.mp sends with ⟨sendsHere, sendsLater⟩
      rcases operate_spec discards whole plainHere sendsHere with ⟨succeeds, fails⟩
      by_cases here : item.1.Fits
      · rcases succeeds here with ⟨next, stepped, nextWhole, complaints, bytesIn, bytesOut⟩
        have first : operateAll discards child (item :: rest) = operateAll discards next rest := by
          unfold operateAll
          rw [List.foldlM_cons, stepped]
          rfl
        rcases inductionHypothesis nextWhole plainLater sendsLater with ⟨completes, stops⟩
        rw [first, List.forall_mem_cons]
        constructor
        · rintro ⟨_, later⟩
          rcases completes later with ⟨last, ran, completed⟩
          refine ⟨last, ran, completed.whole, completed.complaints.trans complaints, ?_, ?_⟩
          · rw [completed.bytesIn, bytesIn, List.map_cons, List.map_cons, sumOf_cons,
              UInt64.add_assoc]
          · rw [completed.bytesOut, bytesOut, List.map_cons, List.map_cons, sumOf_cons,
              UInt64.add_assoc]
        · exact fun outside => stops fun later => outside ⟨here, later⟩
      · rcases fails here with ⟨trouble, failed, kind⟩
        refine ⟨fun all => absurd (all item List.mem_cons_self) here, fun _ => ⟨trouble, ?_, kind⟩⟩
        unfold operateAll
        rw [List.foldlM_cons, failed]
        rfl

/-! ## Main result -/

/-- A child from its connection to its last operation. -/
def session (discards : Bool) (network : Network) (link : Link)
    (items : List (Operation × Network)) : Except Trouble Child :=
  match nbSetup discards network link with
  | .error trouble => .error trouble
  | .ok child => operateAll discards child items

/-- However the network cuts the streams, and whether the last `recv` stores or discards: a
child completes its operations exactly if each stays within the buffers.  Then it has
counted the sizes of its reads and writes and has nothing to complain of; otherwise a size
has left a buffer, and the two ends have not lost step. -/
theorem session_lockstep (discards : Bool) {network : Network} {link : Link}
    {items : List (Operation × Network)} (whole : link.Whole) (connects : network.Sends)
    (plain : ∀ item ∈ items, item.1.Plain) (sends : ∀ item ∈ items, item.2.Sends) :
    ((∃ last, session discards network link items = .ok last) ↔
      ∀ item ∈ items, item.1.Fits) ∧
    (∀ last, session discards network link items = .ok last →
      last.complaints = 0 ∧
        last.bytesIn = sumOf (items.map fun item => item.1.counted.1) ∧
        last.bytesOut = sumOf (items.map fun item => item.1.counted.2)) ∧
    ∀ trouble, session discards network link items = .error trouble → OutOfBuffer trouble := by
  obtain ⟨connected, setup, nextWhole⟩ :=
    (doPackets_spec discards connects whole (Nat.le_refl 8) (Nat.le_refl 8) (by decide)).1
      ⟨by decide, by decide⟩
  let child : Child := { link := connected, bytesIn := 0, bytesOut := 0, complaints := 0 }
  have childWhole : child.link.Whole := nextWhole
  have begun : session discards network link items = operateAll discards child items := by
    unfold session nbSetup
    rw [setup]
    rfl
  rcases operateAll_spec discards childWhole plain sends with ⟨completes, stops⟩
  rw [begun]
  by_cases fits : ∀ item ∈ items, item.1.Fits
  · rcases completes fits with ⟨last, ran, completed⟩
    rw [ran]
    refine ⟨iff_of_true ⟨last, rfl⟩ fits, ?_, fun _ impossible => nomatch impossible⟩
    intro other same
    cases same
    refine ⟨completed.complaints, ?_, ?_⟩
    · rw [completed.bytesIn, List.map_map]
      exact UInt64.zero_add _
    · rw [completed.bytesOut, List.map_map]
      exact UInt64.zero_add _
  · rcases stops fits with ⟨trouble, failed, kind⟩
    rw [failed]
    refine ⟨iff_of_false ?_ fits, ?_, ?_⟩
    · rintro ⟨_, impossible⟩
      cases impossible
    · intro _ impossible
      cases impossible
    · intro other same
      cases same
      exact kind

/-- A network that cuts nothing, and one that cuts everywhere. -/
def calm : Network where
  requestCounts := []
  requestCuts := []
  answerCounts := []
  answerCuts := []

def rough : Network where
  requestCounts := [1, 2, 3]
  requestCuts := [1, 1, 1]
  answerCounts := [5]
  answerCuts := [2, 1]

def emptyLink : Link where
  client := List.replicate bufSize 0
  server := List.replicate bufSize 0

/-- A write that fits and a write of as many bytes as the buffers have. -/
theorem session_lockstep_writes :
    (∃ last, session true calm emptyLink [(.writex 65471, rough), (.readx 4096, calm)] = .ok last) ∧
      ¬ ∃ last, session true calm emptyLink [(.writex 70000, rough)] = .ok last := by
  have whole : emptyLink.Whole := ⟨List.length_replicate, List.length_replicate⟩
  have calmSends : calm.Sends := ⟨by decide, by decide⟩
  have roughSends : rough.Sends := ⟨by decide, by decide⟩
  constructor
  · refine (session_lockstep true whole calmSends ?_ ?_).1.mpr ?_
    · simp only [List.forall_mem_cons]
      exact ⟨⟨by decide, by decide⟩, ⟨by decide, by decide⟩, fun _ member => nomatch member⟩
    · simp only [List.forall_mem_cons]
      exact ⟨roughSends, calmSends, fun _ member => nomatch member⟩
    · simp only [List.forall_mem_cons]
      refine ⟨?_, ?_, fun _ member => nomatch member⟩
      · intro sendSize recvSize same
        cases same
        decide
      · intro sendSize recvSize same
        cases same
        decide
  · intro ran
    have plain : ∀ item ∈ [((.writex 70000, rough) : Operation × Network)], item.1.Plain := by
      simp only [List.forall_mem_cons]
      exact ⟨⟨by decide, by decide⟩, fun _ member => nomatch member⟩
    have sends : ∀ item ∈ [((.writex 70000, rough) : Operation × Network)], item.2.Sends := by
      simp only [List.forall_mem_cons]
      exact ⟨roughSends, fun _ member => nomatch member⟩
    have fits := (session_lockstep true whole calmSends plain sends).1.mp ran _ List.mem_cons_self
    exact absurd (fits _ _ rfl).1 (by decide)

end Tbench
end Ipbench
