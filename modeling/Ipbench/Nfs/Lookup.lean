import Ipbench.Nfs.Wire

namespace Ipbench
namespace Nfs

open Foundation

/-!
# Looking up a file

`nfs_lookup` sends a handle and a name, and `nfs_lookup_cb` decodes the answer
from the datagram that its transaction received: the headers by `check_errors`,
then a status, a handle and the attributes of the file.  A received buffer is
zero behind the datagram, so decoding it never leaves it.

A handle is opaque, but it is copied with its bytes swapped.  The host keeps it
as eight words of its own order, and it travels as it came.
-/

def nfsNumber : UInt32 := 100003

def nfsVersion : UInt32 := 2

def nfsprocLookup : UInt32 := 4

def nfsOk : UInt32 := 0

def errBadMsg : Int := -1

def errNotAccepted : Int := -2

def errFailure : Int := -3

/-! ## Attributes -/

/-- `timeval_t`. -/
@[ext] structure Timeval where
  seconds : UInt32
  useconds : UInt32
deriving DecidableEq, Repr

/-- `fattr_t`. -/
@[ext] structure Fattr where
  type : UInt32
  mode : UInt32
  nlink : UInt32
  uid : UInt32
  gid : UInt32
  size : UInt32
  blocksize : UInt32
  rdev : UInt32
  blocks : UInt32
  fsid : UInt32
  fileid : UInt32
  atime : Timeval
  mtime : Timeval
  ctime : Timeval
deriving DecidableEq, Repr

/-- `sizeof(fattr_t)`. -/
def fattrSize : Nat := 68

def loadWord (order : ByteOrder) (memory : List UInt8) (index : Nat) : UInt32 :=
  load32 order ((memory.drop (4 * index)).take 4)

/-- The words of the attributes, in the order of the structure. -/
def Fattr.words (attrs : Fattr) : List UInt32 :=
  [attrs.type, attrs.mode, attrs.nlink, attrs.uid, attrs.gid, attrs.size, attrs.blocksize,
    attrs.rdev, attrs.blocks, attrs.fsid, attrs.fileid, attrs.atime.seconds,
    attrs.atime.useconds, attrs.mtime.seconds, attrs.mtime.useconds, attrs.ctime.seconds,
    attrs.ctime.useconds]

/-- The structure whose memory holds these bytes. -/
def Fattr.load (order : ByteOrder) (memory : List UInt8) : Fattr where
  type := loadWord order memory 0
  mode := loadWord order memory 1
  nlink := loadWord order memory 2
  uid := loadWord order memory 3
  gid := loadWord order memory 4
  size := loadWord order memory 5
  blocksize := loadWord order memory 6
  rdev := loadWord order memory 7
  blocks := loadWord order memory 8
  fsid := loadWord order memory 9
  fileid := loadWord order memory 10
  atime := { seconds := loadWord order memory 11, useconds := loadWord order memory 12 }
  mtime := { seconds := loadWord order memory 13, useconds := loadWord order memory 14 }
  ctime := { seconds := loadWord order memory 15, useconds := loadWord order memory 16 }

theorem loadWord_words (order : ByteOrder) {words : List UInt32} {index : Nat} {word : UInt32}
    (found : words[index]? = some word) :
    loadWord order (words.flatMap (store32 order)) index = word := by
  induction words generalizing index with
  | nil => cases found
  | cons first rest inductionHypothesis =>
      cases index with
      | zero =>
          cases found
          have front : (store32 order word ++ rest.flatMap (store32 order)).take 4 =
              store32 order word := List.take_left' (store32_length order word)
          rw [loadWord, List.flatMap_cons, Nat.mul_zero, List.drop_zero, front, load32_store32]
      | succ index =>
          have behind : (store32 order first ++ rest.flatMap (store32 order)).drop
              (4 * (index + 1)) = (rest.flatMap (store32 order)).drop (4 * index) := by
            rw [Nat.mul_succ, Nat.add_comm, ← List.drop_drop,
              List.drop_left' (store32_length order first)]
          rw [loadWord, List.flatMap_cons, behind]
          exact inductionHypothesis found

theorem Fattr.load_words (order : ByteOrder) (attrs : Fattr) :
    Fattr.load order (attrs.words.flatMap (store32 order)) = attrs := by
  ext <;> exact congrArg UInt32.toNat (loadWord_words order rfl)

/-! ## Sending a request -/

/-- The static variables behind a request: the client, and `cur_xid`. -/
structure Transport (Func : Type) (callbackListLength : Nat) where
  client : Client Func callbackListLength
  curXid : UInt32

/-- The bytes that are handed to `send`, and the function that their reply is for. -/
structure Sent (Func : Type) where
  bytes : List UInt8
  func : Func
deriving DecidableEq, Repr

section Request

variable {Func : Type} {callbackListLength : Nat}

/-- `nfs_lookup`, with the result of `send`. -/
def nfsLookup (order : ByteOrder) (transport : Transport Func callbackListLength)
    (cwd name : List UInt8) (func : Func) (sent : Int) :
    Except Fault (Int × Transport Func callbackListLength × Sent Func) := do
  let txid := transport.curXid + 1
  let pbuf ← initbuf order txid nfsNumber nfsVersion nfsprocLookup
  let pbuf ← pbuf.addtobuf order cwd true
  let pbuf ← pbuf.addstring order name
  match rpcSend transport.client pbuf (some (.func func)) sent with
  | none => .error .assertion
  | some (r, client, _) =>
      pure (r, { client := client, curXid := txid },
        { bytes := pbuf.buf.take pbuf.pos.toNat, func := func })

/-- The header of a call, as it travels. -/
def callHeader (order : ByteOrder) (txid prognum vernum procnum : UInt32) : List UInt8 :=
  [txid, msgCall, srpcVersion, prognum, vernum, procnum, authUnix, 28, 37].flatMap
      (store32 .big) ++
    (opaqueBytes order nfsMachineName ++ [0, 0, 0, authNull, 0].flatMap (store32 .big))

/-- A lookup of a name in the directory of a handle, as it travels. -/
def lookupRequest (order : ByteOrder) (txid : UInt32) (file name : List UInt8) : List UInt8 :=
  callHeader order txid nfsNumber nfsVersion nfsprocLookup ++ file ++ opaqueBytes order name

/-- A request with this name fits into a buffer. -/
def NameFits (name : List UInt8) : Prop :=
  68 + fhsize + (4 + paddedLength name.length) ≤ pbufSize

instance (name : List UInt8) : Decidable (NameFits name) :=
  inferInstanceAs (Decidable (_ ≤ _))

theorem callHeader_length (order : ByteOrder) (txid prognum vernum procnum : UInt32) :
    (callHeader order txid prognum vernum procnum).length = 68 := by
  rw [callHeader, List.length_append, List.length_append, opaqueBytes_length]
  rfl

theorem initbuf_written (order : ByteOrder) (txid prognum vernum procnum : UInt32) :
    ∃ pbuf, initbuf order txid prognum vernum procnum = .ok pbuf ∧
      pbuf.Written (callHeader order txid prognum vernum procnum) := by
  rcases Pbuf.Written.start.addWords order [txid] rfl (by simp [pbufSize]) with
    ⟨pbuf, wroteXid, written⟩
  rcases written.addWords order [msgCall] (by simp) (by simp [pbufSize]) with
    ⟨pbuf, wroteType, written⟩
  rcases written.addWords order [srpcVersion, prognum, vernum, procnum] (by simp)
    (by simp [pbufSize]) with ⟨pbuf, wroteBody, written⟩
  rcases written.addWords order [authUnix, 28] (by simp) (by simp [pbufSize]) with
    ⟨pbuf, wroteCred, written⟩
  rcases written.addWords order [37] (by simp) (by simp [pbufSize]) with
    ⟨pbuf, wroteStamp, written⟩
  rcases written.adddata order nfsMachineName (by simp)
    (by rw [opaqueBytes_length]; simp [pbufSize, paddedLength, nfsMachineName]) with
    ⟨pbuf, wroteName, written⟩
  have name : (opaqueBytes order nfsMachineName).length = 12 := opaqueBytes_length order _
  rcases written.addWords order [0] (by simp [name]) (by simp [pbufSize, name]) with
    ⟨pbuf, wroteUid, written⟩
  rcases written.addWords order [0] (by simp [name]) (by simp [pbufSize, name]) with
    ⟨pbuf, wroteGid, written⟩
  rcases written.addWords order [0] (by simp [name]) (by simp [pbufSize, name]) with
    ⟨pbuf, wroteGids, written⟩
  rcases written.addWords order [authNull, 0] (by simp [name]) (by simp [pbufSize, name]) with
    ⟨pbuf, wroteVerf, written⟩
  refine ⟨pbuf, ?_, ?_⟩
  · have size : UInt32.ofNat (5 * 4 + (nfsMachineName.length + (4 - nfsMachineName.length % 4))) =
        28 := rfl
    unfold initbuf Pbuf.addstring
    dsimp only
    rw [if_pos (by decide), size]
    simp only [bind, Except.bind, wroteXid, wroteType, wroteBody, wroteCred, wroteStamp,
      wroteName, wroteUid, wroteGid, wroteGids]
    exact wroteVerf
  · have spelled : callHeader order txid prognum vernum procnum =
        [] ++ [txid].flatMap (store32 .big) ++ [msgCall].flatMap (store32 .big) ++
          [srpcVersion, prognum, vernum, procnum].flatMap (store32 .big) ++
          [authUnix, 28].flatMap (store32 .big) ++ [37].flatMap (store32 .big) ++
          opaqueBytes order nfsMachineName ++ [0].flatMap (store32 .big) ++
          [0].flatMap (store32 .big) ++ [0].flatMap (store32 .big) ++
          [authNull, 0].flatMap (store32 .big) := by
      simp [callHeader]
    rw [spelled]
    exact written

/-- The handle of a request stands behind the header as it came. -/
theorem handle_written (order : ByteOrder) (txid : UInt32) {file : List UInt8}
    (whole : file.length = fhsize) :
    ∃ header handled, initbuf order txid nfsNumber nfsVersion nfsprocLookup = .ok header ∧
      header.addtobuf order (bswap order file) true = .ok handled ∧
      handled.Written (callHeader order txid nfsNumber nfsVersion nfsprocLookup ++ file) ∧
      (callHeader order txid nfsNumber nfsVersion nfsprocLookup ++ file).length = 68 + fhsize := by
  have head := callHeader_length order txid nfsNumber nfsVersion nfsprocLookup
  rcases initbuf_written order txid nfsNumber nfsVersion nfsprocLookup with
    ⟨header, began, written⟩
  rcases written.addtobuf order (bswap order file) true
    (fun _ => ⟨by rw [head], by rw [bswap_length, whole]; rfl⟩)
    (by rw [bswap_length, head, whole]; decide) with ⟨handled, wroteHandle, written⟩
  rw [if_pos rfl, bswap_bswap] at written
  refine ⟨header, handled, began, wroteHandle, written, ?_⟩
  rw [List.length_append, head, whole]

/-- The request of a lookup carries the handle as it came, and its callback is
registered under the next transaction. -/
theorem nfsLookup_sends (order : ByteOrder) (transport : Transport Func callbackListLength)
    {file name : List UInt8} (whole : file.length = fhsize) (fits : NameFits name) (func : Func)
    (sent : Int) :
    nfsLookup order transport (bswap order file) name func sent =
      match transport.client.callbacks.callbackAdd (transport.curXid + 1) (.func func) with
      | none => .error .assertion
      | some callbacks => .ok (sent,
          { client := { transport.client with callbacks := callbacks },
            curXid := transport.curXid + 1 },
          { bytes := lookupRequest order (transport.curXid + 1) file name, func := func }) := by
  rw [NameFits, ← opaqueBytes_length order] at fits
  rcases handle_written order (transport.curXid + 1) whole with
    ⟨header, handled, began, wroteHandle, written, length⟩
  rcases written.adddata order name (by rw [length]; rfl) (by rw [length]; exact fits) with
    ⟨named, wroteName, written⟩
  have bytes : named.buf.take named.pos.toNat =
      lookupRequest order (transport.curXid + 1) file name := by
    rw [written.cursor, Int.toNat_natCast, written.content, List.take_left]
    rfl
  have xid : extractXid named.buf = transport.curXid + 1 := by
    have holds := written.holds
    rw [callHeader, List.flatMap_cons, List.append_assoc, List.append_assoc, List.append_assoc]
      at holds
    exact holds.left.wordAt
  have positive : named.pos ≠ 0 := by
    rw [written.cursor, List.length_append, length]
    omega
  have inside : ¬(named.pos < 0 ∨ (pbufSize : Int) < named.pos) := by
    have fits := written.fits
    rw [written.cursor]
    omega
  unfold nfsLookup Pbuf.addstring
  simp only [bind, Except.bind, began, wroteHandle, wroteName]
  unfold rpcSend
  rw [if_neg inside, if_neg positive]
  dsimp only
  rw [xid, bytes]
  cases transport.client.callbacks.callbackAdd (transport.curXid + 1) (.func func) with
  | none => rfl
  | some callbacks => rfl

/-- A name that does not fit is written beyond the buffer. -/
theorem nfsLookup_overlong (order : ByteOrder) (transport : Transport Func callbackListLength)
    {file name : List UInt8} (whole : file.length = fhsize) (long : ¬ NameFits name) (func : Func)
    (sent : Int) : nfsLookup order transport (bswap order file) name func sent =
      .error .outside := by
  have beyond : pbufSize < 68 + fhsize + 4 + name.length := by
    unfold NameFits paddedLength fhsize pbufSize at long
    unfold fhsize pbufSize
    omega
  rcases handle_written order (transport.curXid + 1) whole with
    ⟨header, handled, began, wroteHandle, written, length⟩
  have four : ((order.store (UInt64.ofNat name.length)).take 4).length = 4 := by
    rw [List.length_take, ByteOrder.store_length]
    rfl
  rcases written.addtobuf order ((order.store (UInt64.ofNat name.length)).take 4) true
    (fun _ => ⟨by rw [length]; rfl, by rw [four]⟩) (by rw [length, four]; decide) with
    ⟨counted, wroteSize, written⟩
  have outside := written.addtobuf_outside order name (by
    rw [List.length_append, length, if_pos rfl, bswap_length, four]
    exact beyond)
  unfold nfsLookup Pbuf.addstring Pbuf.adddata
  simp only [bind, Except.bind, began, wroteHandle, wroteSize, outside]

end Request

/-! ## Decoding an answer -/

/-- `check_errors`.  Its assertion on the flavour is about the address of a text,
so it never fails, and nothing looks at the body of the verifier. -/
def checkErrors (order : ByteOrder) (pbuf : Pbuf) : Except Fault (Int × Pbuf) := do
  let (_, pbuf) ← pbuf.getWord order
  let (ctype, pbuf) ← pbuf.getWord order
  if ctype ≠ msgReply then pure (errBadMsg, pbuf)
  else
    let (r, pbuf) ← pbuf.getWord order
    if r ≠ msgAccepted then
      let (r, pbuf) ← pbuf.getWord order
      if r = 1 then
        let (_, pbuf) ← pbuf.getWord order
        pure (errNotAccepted, pbuf)
      else pure (errNotAccepted, pbuf)
    else
      let (_, pbuf) ← pbuf.getfrombuf order 8 true
      let (r, pbuf) ← pbuf.getWord order
      if r = success then pure (0, pbuf)
      else pure (errFailure, pbuf)

/-- `nfs_lookup_cb` up to the call of the callback: the status, and the handle
and the attributes if they are filled. -/
def nfsLookupCb (order : ByteOrder) (pbuf : Pbuf) :
    Except Fault (Int × Option (List UInt8 × Fattr)) := do
  let (err, pbuf) ← checkErrors order pbuf
  if err = 0 then
    let (status, pbuf) ← pbuf.getWord order
    if status = nfsOk then
      let (newFh, pbuf) ← pbuf.getfrombuf order fhsize true
      let (pattrs, _) ← pbuf.getfrombuf order fattrSize true
      pure (asInt32 status, some (newFh, Fattr.load order pattrs))
    else pure (asInt32 status, none)
  else pure (-1, none)

/-! ## What a received buffer says -/

/-- What `check_errors` returns, by the words of the buffer. -/
def headerStatus (buf : List UInt8) : Int :=
  if wordAt buf 4 ≠ msgReply then errBadMsg
  else if wordAt buf 8 ≠ msgAccepted then errNotAccepted
  else if wordAt buf 20 = success then 0
  else errFailure

/-- The status that `nfs_lookup_cb` hands over, by the words of the buffer. -/
def lookupStatus (buf : List UInt8) : Int :=
  if headerStatus buf = 0 then asInt32 (wordAt buf 24) else -1

theorem headerStatus_eq_zero {buf : List UInt8} :
    headerStatus buf = 0 ↔
      wordAt buf 4 = msgReply ∧ wordAt buf 8 = msgAccepted ∧ wordAt buf 20 = success := by
  unfold headerStatus errBadMsg errNotAccepted errFailure
  split
  · simp_all
  · split
    · simp_all
    · split <;> simp_all

/-- The headers of every datagram are checked, and those of an executed call end
at the same place. -/
theorem checkErrors_received (order : ByteOrder) (data : List UInt8) :
    ∃ cursor, checkErrors order (receivedPbuf data) =
        .ok (headerStatus (receivedPbuf data).buf, (receivedPbuf data).at_ cursor) ∧
      (headerStatus (receivedPbuf data).buf = 0 → cursor = 24) := by
  have read : ∀ position : Nat, position % 4 = 0 → position + 4 ≤ pbufSize →
      ((receivedPbuf data).at_ position).getWord order =
        .ok (wordAt (receivedPbuf data).buf position, (receivedPbuf data).at_ (position + 4)) :=
    fun position aligned inside => (receivedPbuf data).getWord_at order aligned inside
  have start : receivedPbuf data = (receivedPbuf data).at_ 0 := rfl
  unfold checkErrors headerStatus
  rw [start]
  simp only [bind, Except.bind, read 0 rfl (by decide)]
  have later : ∀ position, ((receivedPbuf data).at_ position).buf = (receivedPbuf data).buf :=
    fun _ => rfl
  simp only [Nat.zero_add, read 4 rfl (by decide), later]
  by_cases type : wordAt (receivedPbuf data).buf 4 = msgReply
  · rw [if_neg (not_not.mpr type), if_neg (not_not.mpr type), read 8 rfl (by decide)]
    dsimp only
    by_cases accepted : wordAt (receivedPbuf data).buf 8 = msgAccepted
    · rw [if_neg (not_not.mpr accepted), if_neg (not_not.mpr accepted),
        Pbuf.getfrombuf_at order _ rfl rfl (by decide)]
      dsimp only
      rw [read 20 rfl (by decide)]
      dsimp only
      by_cases executed : wordAt (receivedPbuf data).buf 20 = success
      · rw [if_pos executed, if_pos executed]
        exact ⟨24, rfl, fun _ => rfl⟩
      · rw [if_neg executed, if_neg executed]
        exact ⟨24, rfl, fun _ => rfl⟩
    · rw [if_pos accepted, if_pos accepted, read 12 rfl (by decide)]
      dsimp only
      split
      · rw [read 16 rfl (by decide)]
        exact ⟨20, rfl, fun impossible => by cases impossible⟩
      · exact ⟨16, rfl, fun impossible => by cases impossible⟩
  · rw [if_pos type, if_pos type]
    exact ⟨8, rfl, fun impossible => by cases impossible⟩

/-- The handle that `nfs_lookup_cb` fills. -/
def handleAt (order : ByteOrder) (buf : List UInt8) : List UInt8 :=
  bswap order ((buf.drop 28).take fhsize)

def attributesAt (order : ByteOrder) (buf : List UInt8) : Fattr :=
  Fattr.load order (bswap order ((buf.drop 60).take fattrSize))

theorem asInt32_eq_nfsOk {word : UInt32} : asInt32 word = 0 ↔ word = nfsOk := by
  rw [asInt32, ← UInt32.toNat_inj]
  have bound := word.toNat_lt
  change _ ↔ word.toNat = 0
  split <;> omega

theorem nfsLookupCb_received (order : ByteOrder) (data : List UInt8) :
    nfsLookupCb order (receivedPbuf data) =
      .ok (lookupStatus (receivedPbuf data).buf,
        if lookupStatus (receivedPbuf data).buf = 0 then
          some (handleAt order (receivedPbuf data).buf,
            attributesAt order (receivedPbuf data).buf)
        else none) := by
  rcases checkErrors_received order data with ⟨cursor, checked, behind⟩
  unfold nfsLookupCb lookupStatus
  simp only [bind, Except.bind, checked]
  by_cases accepted : headerStatus (receivedPbuf data).buf = 0
  · simp only [if_pos accepted, behind accepted, asInt32_eq_nfsOk]
    rw [Pbuf.getWord_at order _ rfl (by decide)]
    dsimp only
    by_cases found : wordAt (receivedPbuf data).buf 24 = nfsOk
    · rw [if_pos found, if_pos found, Pbuf.getfrombuf_at order _ rfl rfl (by decide)]
      dsimp only
      rw [Pbuf.getfrombuf_at order _ rfl rfl (by decide)]
      rfl
    · rw [if_neg found, if_neg found]
      rfl
  · simp only [if_neg accepted]
    rfl

end Nfs
end Ipbench
