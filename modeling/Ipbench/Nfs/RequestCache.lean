import Ipbench.Nfs.PathLookup
import Ipbench.Nfs.Requests
import Ipbench.Nfs.Sampling

namespace Ipbench
namespace Nfs

open Foundation

/-!
# Timing cached requests

The benchmark builds one read and one write request and sends them over and over:
`generate_request` puts a new transaction into one of the two buffers, registers
its timestamp under it and sends the buffer.  `process_reply` receives one
datagram and returns the timestamp of the callback that it has invoked, if any.

Both buffers keep their contents but for the transaction, so that what is sent is
at any time the request that `nfs_read` or `nfs_write` would send.
-/

/-! ## The cache -/

/-- The callbacks of the cached requests: `read_callback` or `write_callback`, and
the timestamp of the request. -/
inductive TimedCallback where
  | readCallback (timestamp : UInt64)
  | writeCallback (timestamp : UInt64)
deriving DecidableEq, Repr

def TimedCallback.timestamp : TimedCallback → UInt64
  | readCallback timestamp => timestamp
  | writeCallback timestamp => timestamp

def readOffset : UInt32 := 0

def readSize : Nat := 1024

/-- `struct nfs_request`, less the data, which are not looked at again. -/
structure NfsRequest where
  callback : UInt64 → TimedCallback
  pbuf : Pbuf

def createReadRequest (order : ByteOrder) (txid : UInt32) (nfsFileHandle : Cookie) :
    Except Fault NfsRequest := do
  let pbuf ← initbuf order txid nfsNumber nfsVersion nfsprocRead
  let args : Readargs :=
    { file := nfsFileHandle
      offset := readOffset
      count := UInt32.ofNat readSize
      totalcount := 0 }
  let pbuf ← pbuf.addtobuf order (args.bytes order) true
  pure { callback := .readCallback, pbuf := pbuf }

/-- `create_write_request`.  The data are the low bytes of random numbers. -/
def createWriteRequest (order : ByteOrder) (txid : UInt32) (nfsFileHandle : Cookie)
    (random : Nat → UInt8) : Except Fault NfsRequest := do
  let data := (List.range readSize).map random
  let pbuf ← initbuf order txid nfsNumber nfsVersion nfsprocWrite
  let args : Writeargs :=
    { file := nfsFileHandle
      beginoffset := 0
      offset := readOffset
      totalcount := 0 }
  let pbuf ← pbuf.addtobuf order (args.bytes order) true
  let pbuf ← pbuf.adddata order data false
  pure { callback := .writeCallback, pbuf := pbuf }

variable {callbackListLength : Nat}

/-- The static variables behind the requests, once the file is open:
`nfs_cache[0]` and `nfs_cache[1]`, and `last_sample`. -/
structure Workload (callbackListLength : Nat) where
  transport : Transport (GlueCallback TimedCallback) callbackListLength
  nfsCache : Bool → NfsRequest
  lastSample : UInt64

def initialiseCache (order : ByteOrder)
    (transport : Transport (GlueCallback TimedCallback) callbackListLength)
    (nfsFileHandle : Cookie) (random : Nat → UInt8) :
    Except Fault (Workload callbackListLength) := do
  let reading ← createReadRequest order (transport.curXid + 1) nfsFileHandle
  let writing ← createWriteRequest order (transport.curXid + 1 + 1) nfsFileHandle random
  pure
    { transport := { transport with curXid := transport.curXid + 1 + 1 }
      nfsCache := fun index => if index then writing else reading
      lastSample := 0 }

/-! ## Requests and replies -/

/-- `reset_xid`, with the transaction that it has drawn. -/
def resetXid (pbuf : Pbuf) (txid : UInt32) : Pbuf where
  pos := pbuf.pos
  buf := store32 .big txid ++ pbuf.buf.drop 4
  whole := by
    rw [List.length_append, store32_length, List.length_drop, pbuf.whole]
    rfl

/-- `generate_request`, with the value of `random()` and the result of `send`, and
the bytes that are sent. -/
def generateRequest (workload : Workload callbackListLength) (random timestamp : UInt64)
    (sent : Int) : Option (Int × Workload callbackListLength × List UInt8) :=
  let index := random &&& 1 != 0
  let request := workload.nfsCache index
  let txid := workload.transport.curXid + 1
  let pbuf := resetXid request.pbuf txid
  let nfsCache := Function.update workload.nfsCache index { request with pbuf := pbuf }
  match rpcSend workload.transport.client pbuf
      (some (.func (.other (request.callback timestamp)))) sent with
  | none => none
  | some (r, client, _) =>
      some (r,
        { workload with
          transport := { client := client, curXid := txid }
          nfsCache := nfsCache },
        pbuf.buf.take pbuf.pos.toNat)

/-- `read_callback` or `write_callback`, with its assertion. -/
def timedCb (lastSample : UInt64) (c : TimedCallback) : Option UInt64 :=
  if lastSample ≠ 0 then none else some c.timestamp

/-- What an invoked callback makes of `last_sample`.  The others point to frames that
are gone, or assert that they are called once. -/
def invokeCallback (lastSample : UInt64) :
    Option (UInt32 × RpcCallback (GlueCallback TimedCallback)) → Option UInt64
  | none => some lastSample
  | some (_, .null) => some lastSample
  | some (_, .func (.other c)) => timedCb lastSample c
  | some (_, .func .dirCb) => none
  | some (_, .func .openCb) => none
  | some (_, .call _) => none

/-- `process_reply`, with what `recv` finds. -/
def processDatagram (workload : Workload callbackListLength) (received : Received) :
    Option (Option UInt64 × Workload callbackListLength) :=
  match rpcTake workload.transport.client received with
  | none => none
  | some result =>
      (invokeCallback 0 result.found).map fun lastSample =>
        (processReply lastSample,
          { workload with
            transport := { workload.transport with client := result.client }
            lastSample := lastSample })

/-- What the loop of the benchmark calls, in any order. -/
inductive WorkloadInput where
  | generateRequest (random timestamp : UInt64) (sent : Int)
  | processReply (received : Received)

/-- The results of the two functions, and what has been sent. -/
inductive WorkloadEvent where
  | requested (r : Int) (bytes : List UInt8)
  | replied (timestamp : Option UInt64)
deriving DecidableEq, Repr

/-- The benchmark as a machine; `none` is a process that has ended. -/
def workloadMachine (callbackListLength : Nat) :
    Machine (Option (Workload callbackListLength)) WorkloadInput WorkloadEvent where
  step := fun state input =>
    match state, input with
    | none, _ => (none, [])
    | some workload, .generateRequest random timestamp sent =>
        match generateRequest workload random timestamp sent with
        | none => (none, [])
        | some (r, next, bytes) => (some next, [.requested r bytes])
    | some workload, .processReply received =>
        match processDatagram workload received with
        | none => (none, [])
        | some (timestamp, next) => (some next, [.replied timestamp])

/-! ## The cached requests -/

/-- The callback of a request for a cache entry. -/
def timedRequest (index : Bool) (timestamp : UInt64) : TimedCallback :=
  if index then .writeCallback timestamp else .readCallback timestamp

/-- What is sent for a cache entry: the request of `nfs_read` or `nfs_write`. -/
def cachedCall (nfsFileHandle : Cookie) (random : Nat → UInt8) (index : Bool) : NfsCall :=
  if index then .write nfsFileHandle readOffset ((List.range readSize).map random)
  else .read nfsFileHandle readOffset (UInt32.ofNat readSize)

theorem NfsCall.request_eq (order : ByteOrder) (txid : UInt32) (call : NfsCall) :
    call.request order txid = store32 .big txid ++ (call.request order 0).drop 4 := by
  have cut : ∀ rest : List UInt8, (store32 .big 0 ++ rest).drop 4 = rest := fun rest =>
    List.drop_left' (store32_length .big 0)
  unfold NfsCall.request callHeader
  simp only [List.flatMap_cons, List.append_assoc]
  rw [cut]

/-- A new identifier makes another request of the same call. -/
theorem resetXid_written {order : ByteOrder} {call : NfsCall} {pbuf : Pbuf} {xid : UInt32}
    (written : pbuf.Written (call.request order xid)) (txid : UInt32) :
    (resetXid pbuf txid).Written (call.request order txid) := by
  have same : (call.request order txid).length = (call.request order xid).length := by
    rw [call.request_eq order txid, call.request_eq order xid, List.length_append,
      List.length_append, store32_length, store32_length]
  constructor
  · rw [same]
    exact written.cursor
  · rw [same, call.request_eq order txid]
    change store32 .big txid ++ pbuf.buf.drop 4 = _
    rw [written.content, call.request_eq order xid, List.append_assoc, List.append_assoc,
      List.drop_left' (store32_length .big xid)]

theorem createReadRequest_written (order : ByteOrder) (txid : UInt32) (nfsFileHandle : Cookie)
    (random : Nat → UInt8) :
    ∃ request, createReadRequest order txid nfsFileHandle = .ok request ∧
      request.callback = timedRequest false ∧
      request.pbuf.Written ((cachedCall nfsFileHandle random false).request order txid) := by
  have appends := appends_withHandle order nfsFileHandle
    [readOffset, UInt32.ofNat readSize, 0]
  rcases filled_written order txid nfsprocRead appends (by
    rw [List.length_append, bswap_length, flatMap_store32_length, nfsFileHandle.whole]
    decide) with ⟨header, filled, began, stepped, written⟩
  refine ⟨_, bind_eq_ok.mpr ⟨header, began, bind_eq_ok.mpr ⟨filled, stepped, rfl⟩⟩, ?_, written⟩
  funext timestamp
  rfl

theorem createWriteRequest_written (order : ByteOrder) (txid : UInt32) (nfsFileHandle : Cookie)
    (random : Nat → UInt8) :
    ∃ request, createWriteRequest order txid nfsFileHandle random = .ok request ∧
      request.callback = timedRequest true ∧
      request.pbuf.Written ((cachedCall nfsFileHandle random true).request order txid) := by
  have appends := (appends_withHandle order nfsFileHandle [0, readOffset, 0]).andThen
    (Pbuf.appends_adddata order ((List.range readSize).map random))
  rcases filled_written order txid nfsprocWrite appends (by
    rw [List.length_append, List.length_append, bswap_length, flatMap_store32_length,
      nfsFileHandle.whole, opaqueBytes_length, List.length_map, List.length_range]
    decide) with ⟨header, filled, began, stepped, written⟩
  rcases bind_eq_ok.mp stepped with ⟨handled, wroteArgs, wroteData⟩
  refine ⟨_, bind_eq_ok.mpr ⟨header, began, bind_eq_ok.mpr ⟨handled, wroteArgs,
    bind_eq_ok.mpr ⟨filled, wroteData, rfl⟩⟩⟩, ?_, written⟩
  funext timestamp
  rfl

end Nfs
end Ipbench
