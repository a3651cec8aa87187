import Ipbench.Nfs.Rpc

namespace Ipbench
namespace Nfs

open Foundation

/-!
# Synchronous calls and what they report

`rpc_call` waits for the reply to its request and then moves the cursor over the
reply headers.  It reports success on every path: a rejected call returns 0
like an accepted one, with the cursor somewhere behind the headers.  Its callers
assert that the result is 0 and decode from the cursor.

The buffer of a reply is zeroed before it is filled, and a zero word means
success.  So `mnt_mount` succeeds on the reply of a server that has refused the
call, as soon as the word after its headers is zero, and it succeeds on a reply
that ends before the mount status.
-/

variable {Func : Type} {callbackListLength : Nat}

def msgAccepted : UInt32 := 0

def success : UInt32 := 0

/-- `rpc_call` once it has been notified: parse the headers of the reply. -/
def rpcCallReply (order : ByteOrder) (rcv : Pbuf) : Except Fault (Int × Pbuf) := do
  let rcv := rcv.skip 8
  let (r, rcv) ← rcv.getWord order
  if r ≠ msgAccepted then
    let (r, rcv) ← rcv.getWord order
    if r = 1 then
      let (_, rcv) ← rcv.getWord order
      pure (0, rcv)
    else pure (0, rcv)
  else
    let (_, rcv) ← rcv.getfrombuf order 8 true
    let (r, rcv) ← rcv.getWord order
    if r ≠ success then pure (0, rcv)
    else pure (0, rcv)

/-- The loop of `rpc_call`: turns until the activation is notified, and the
datagram that notified it.  Without a notification it still waits, or the
process has ended. -/
def rpcCallLoop (client : Client Func callbackListLength) (call : Call) :
    List (Int × Received) → Option (Client Func callbackListLength × List UInt8)
  | [] => none
  | (sent, received) :: turns =>
      match (rpcCallTurn client call sent received).1 with
      | none => none
      | some next =>
          match next.calling with
          | none => some (next, received.data)
          | some call => rpcCallLoop next call turns

/-- Enter `rpc_call` with a request. -/
def Client.enter (client : Client Func callbackListLength) (snd : Pbuf) :
    Client Func callbackListLength :=
  { client with
    frames := client.frames + 1
    calling := some { frame := client.frames, snd := snd, tx := true } }

/-- The reply that an activation of `rpc_call` with this request waits for. -/
def awaitReply (client : Client Func callbackListLength) (snd : Pbuf)
    (turns : List (Int × Received)) : Option (Client Func callbackListLength × List UInt8) :=
  rpcCallLoop (client.enter snd) { frame := client.frames, snd := snd, tx := true } turns

def rpcCall (order : ByteOrder) (client : Client Func callbackListLength) (snd : Pbuf)
    (turns : List (Int × Received)) : Option (Except Fault (Int × Pbuf)) :=
  (awaitReply client snd turns).map fun result => rpcCallReply order (receivedPbuf result.2)

def assertCalled (result : Except Fault (Int × Pbuf)) : Except Fault Pbuf := do
  let (status, ret) ← result
  if status ≠ 0 then .error .assertion else pure ret

/-! ## The mount protocol -/

def mntNumber : UInt32 := 100005

def mntVersion : UInt32 := 1

def mntprocMnt : UInt32 := 1

def fhsize : Nat := 32

def mountRequest (order : ByteOrder) (txid : UInt32) (dir : List UInt8) : Except Fault Pbuf := do
  let pbuf ← initbuf order txid mntNumber mntVersion mntprocMnt
  pbuf.addstring order dir

/-- What `mnt_mount` decodes: the status it returns, and the file handle if it
fills one. -/
def mountReply (order : ByteOrder) (ret : Pbuf) :
    Except Fault (UInt32 × Option (List UInt8)) := do
  let (status, ret) ← ret.getWord order
  if status ≠ 0 then pure (status, none)
  else
    let (pfh, _) ← ret.getfrombuf order fhsize true
    pure (0, some pfh)

def mntMount (order : ByteOrder) (client : Client Func callbackListLength) (txid : UInt32)
    (dir : List UInt8) (turns : List (Int × Received)) :
    Option (Except Fault (UInt32 × Option (List UInt8))) :=
  match mountRequest order txid dir with
  | .error fault => some (.error fault)
  | .ok pbuf =>
      (rpcCall order client pbuf turns).map fun result =>
        assertCalled result >>= mountReply order

/-! ## The port mapper -/

def pmapNumber : UInt32 := 100000

def pmapVersion : UInt32 := 2

def pmapprocGetport : UInt32 := 3

/-- `mapping_t`. -/
structure Mapping where
  prog : UInt32
  vers : UInt32
  prot : UInt32
  port : UInt32
deriving DecidableEq, Repr

/-- The request of `map_getport`, whose port is zero. -/
def getportRequest (order : ByteOrder) (txid : UInt32) (pmap : Mapping) : Except Fault Pbuf := do
  let pbuf ← initbuf order txid pmapNumber pmapVersion pmapprocGetport
  pbuf.addWords order [pmap.prog, pmap.vers, pmap.prot, 0]

/-- What `map_getport` decodes: the status it returns, and the mapping with its
port. -/
def getportReply (order : ByteOrder) (pmap : Mapping) (ret : Pbuf) :
    Except Fault (UInt32 × Mapping) := do
  let (port, _) ← ret.getWord order
  pure (0, { pmap with port := port })

def mapGetport (order : ByteOrder) (client : Client Func callbackListLength) (txid : UInt32)
    (pmap : Mapping) (turns : List (Int × Received)) :
    Option (Except Fault (UInt32 × Mapping)) :=
  match getportRequest order txid pmap with
  | .error fault => some (.error fault)
  | .ok pbuf =>
      (rpcCall order client pbuf turns).map fun result =>
        assertCalled result >>= getportReply order pmap

/-! ## What a reply says -/

def paddedLength (length : Nat) : Nat :=
  length + (4 - length % 4) % 4

/-- Where the accept status of an accepted reply stands: behind the identifier,
the message type, the reply status, and the verifier with its body. -/
def acceptStatAt (data : List UInt8) : Nat :=
  20 + paddedLength (wordAt data 16).toNat

/-- A reply that has been accepted and executed. -/
structure Executed (data : List UInt8) : Prop where
  type : wordAt data 4 = msgReply
  stat : wordAt data 8 = msgAccepted
  whole : acceptStatAt data + 4 ≤ data.length
  executed : wordAt data (acceptStatAt data) = success

/-- A reply to a mount call that has been executed, with a mount status of
zero. -/
structure Mounted (data : List UInt8) : Prop extends Executed data where
  present : acceptStatAt data + 8 ≤ data.length
  status : wordAt data (acceptStatAt data + 4) = 0

instance (data : List UInt8) : Decidable (Executed data) :=
  decidable_of_iff
    (wordAt data 4 = msgReply ∧ wordAt data 8 = msgAccepted ∧
      acceptStatAt data + 4 ≤ data.length ∧ wordAt data (acceptStatAt data) = success)
    ⟨fun ⟨type, stat, whole, executed⟩ => ⟨type, stat, whole, executed⟩,
      fun ⟨type, stat, whole, executed⟩ => ⟨type, stat, whole, executed⟩⟩

instance (data : List UInt8) : Decidable (Mounted data) :=
  decidable_of_iff
    (Executed data ∧ acceptStatAt data + 8 ≤ data.length ∧
      wordAt data (acceptStatAt data + 4) = 0)
    ⟨fun ⟨executed, present, status⟩ => ⟨executed, present, status⟩,
      fun ⟨executed, present, status⟩ => ⟨executed, present, status⟩⟩

/-- For a datagram that notifies a call, none of the three functions reports
success unless the reply does. -/
structure FailureIsNotSuccess (Func : Type) (order : ByteOrder) (data : List UInt8) : Prop where
  call : ∀ {slots : Nat} (client next : Client Func slots) (snd : Pbuf)
    (turns : List (Int × Received)) (rcv : Pbuf),
    awaitReply client snd turns = some (next, data) →
      rpcCall order client snd turns = some (.ok (0, rcv)) → Executed data
  mount : ∀ {slots : Nat} (client next : Client Func slots) (txid : UInt32) (dir : List UInt8)
    (snd : Pbuf) (turns : List (Int × Received)) (pfh : Option (List UInt8)),
    mountRequest order txid dir = .ok snd → awaitReply client snd turns = some (next, data) →
      mntMount order client txid dir turns = some (.ok (0, pfh)) → Mounted data
  getport : ∀ {slots : Nat} (client next : Client Func slots) (txid : UInt32) (pmap : Mapping)
    (snd : Pbuf) (turns : List (Int × Received)) (mapped : Mapping),
    getportRequest order txid pmap = .ok snd → awaitReply client snd turns = some (next, data) →
      mapGetport order client txid pmap turns = some (.ok (0, mapped)) → Executed data

end Nfs
end Ipbench
