import Ipbench.Nfs.ReplyHeader

namespace Ipbench
namespace Nfs

open Foundation

/-!
# The replies to attribute, read, write and create requests

The callbacks check the headers, take a status, and behind `NFS_OK` the results of
their procedure.  Those of `nfs_getattr` and `nfs_write` take attributes; that of
`nfs_create` takes what a lookup takes.  `nfs_read_cb` hands over a length and a
pointer into the buffer: nothing is copied, and nothing compares the two.

A received buffer is zero behind the datagram, and all that the callbacks take
stands at fixed places, so no datagram makes them fail.
-/

/-! ## The callbacks -/

/-- A callback that takes attributes behind the status. -/
def attrstatCb (order : ByteOrder) (pbuf : Pbuf) : Except Fault (Int × Option Fattr) := do
  let (err, pbuf) ← checkErrors order pbuf
  if err = 0 then
    let (status, pbuf) ← pbuf.getWord order
    if status = nfsOk then
      let (pattrs, _) ← pbuf.getfrombuf order fattrSize true
      pure (asInt32 status, some (Fattr.load order pattrs))
    else pure (asInt32 status, none)
  else pure (-1, none)

/-- `nfs_getattr_cb` up to the call of the callback. -/
def nfsGetattrCb (order : ByteOrder) (pbuf : Pbuf) : Except Fault (Int × Option Fattr) :=
  attrstatCb order pbuf

/-- `nfs_write_cb` up to the call of the callback. -/
def nfsWriteCb (order : ByteOrder) (pbuf : Pbuf) : Except Fault (Int × Option Fattr) :=
  attrstatCb order pbuf

/-- `nfs_create_cb` up to the call of the callback. -/
def nfsCreateCb (order : ByteOrder) (pbuf : Pbuf) :
    Except Fault (Int × Option (List UInt8 × Fattr)) :=
  nfsLookupCb order pbuf

/-- What the caller's function receives from `nfs_read_cb`.  Without data the pointer
is `NULL`. -/
structure ReadResult where
  status : Int
  attributes : Option Fattr
  size : Int
  data : Option Int
deriving DecidableEq, Repr

/-- `nfs_read_cb` up to the call of the callback.  `getpointfrombuf` moves the cursor
over the whole file, but nothing is read behind it. -/
def nfsReadCb (order : ByteOrder) (pbuf : Pbuf) : Except Fault ReadResult := do
  let (err, pbuf) ← checkErrors order pbuf
  if err = 0 then
    let (status, pbuf) ← pbuf.getWord order
    if status = nfsOk then
      let (pattrs, pbuf) ← pbuf.getfrombuf order fattrSize true
      let (size, pbuf) ← pbuf.getWord order
      pure
        { status := asInt32 status
          attributes := some (Fattr.load order pattrs)
          size := asInt32 size
          data := some pbuf.pos }
    else pure { status := asInt32 status, attributes := none, size := 0, data := none }
  else pure { status := -1, attributes := none, size := 0, data := none }

/-! ## What a received buffer says -/

/-- The attributes behind the status. -/
def attrstatAt (order : ByteOrder) (buf : List UInt8) : Fattr :=
  Fattr.load order (bswap order ((buf.drop 28).take fattrSize))

section Received

variable (order : ByteOrder) (data : List UInt8)

theorem lookupStatus_accepted {buf : List UInt8} (accepted : headerStatus buf = 0) :
    lookupStatus buf = asInt32 (wordAt buf 24) :=
  if_pos accepted

theorem attrstatCb_received :
    attrstatCb order (receivedPbuf data) =
      .ok (lookupStatus (receivedPbuf data).buf,
        if lookupStatus (receivedPbuf data).buf = 0 then
          some (attrstatAt order (receivedPbuf data).buf)
        else none) := by
  rcases checkErrors_received order data with ⟨cursor, checked, behind⟩
  unfold attrstatCb
  simp only [bind, Except.bind, checked]
  by_cases accepted : headerStatus (receivedPbuf data).buf = 0
  · rw [if_pos accepted, behind accepted, lookupStatus_accepted accepted,
      Pbuf.getWord_at order _ rfl (by decide)]
    simp only [asInt32_eq_nfsOk]
    by_cases found : wordAt (receivedPbuf data).buf 24 = nfsOk
    · rw [if_pos found, if_pos found, Pbuf.getfrombuf_at order _ rfl rfl (by decide)]
      rfl
    · rw [if_neg found, if_neg found]
      rfl
  · have status : lookupStatus (receivedPbuf data).buf = -1 := if_neg accepted
    rw [if_neg accepted, status]
    rfl

theorem nfsReadCb_received :
    nfsReadCb order (receivedPbuf data) =
      .ok (if lookupStatus (receivedPbuf data).buf = 0 then
          { status := 0
            attributes := some (attrstatAt order (receivedPbuf data).buf)
            size := asInt32 (wordAt (receivedPbuf data).buf 96)
            data := some 100 }
        else
          { status := lookupStatus (receivedPbuf data).buf
            attributes := none
            size := 0
            data := none }) := by
  rcases checkErrors_received order data with ⟨cursor, checked, behind⟩
  unfold nfsReadCb
  simp only [bind, Except.bind, checked]
  by_cases accepted : headerStatus (receivedPbuf data).buf = 0
  · rw [if_pos accepted, behind accepted, lookupStatus_accepted accepted,
      Pbuf.getWord_at order _ rfl (by decide)]
    simp only [asInt32_eq_nfsOk]
    by_cases found : wordAt (receivedPbuf data).buf 24 = nfsOk
    · rw [if_pos found, if_pos found, Pbuf.getfrombuf_at order _ rfl rfl (by decide)]
      dsimp only
      rw [Pbuf.getWord_at order _ rfl (by decide), found]
      rfl
    · rw [if_neg found, if_neg found]
      rfl
  · have status : lookupStatus (receivedPbuf data).buf = -1 := if_neg accepted
    rw [if_neg accepted, status]
    rfl

end Received

/-! ## Replies of a server -/

/-- The reply to an executed call, with a verifier that has no body. -/
def successReply (xid flavour : UInt32) (results : List UInt8) : Reply where
  xid := xid
  body := .accepted { flavour := flavour, body := [] } (.success results)

/-- The results of a reply that fits stand behind its header. -/
theorem successReply_holds {xid flavour : UInt32} {results : List UInt8}
    (fits : (successReply xid flavour results).encoding.length ≤ pbufSize) :
    headerStatus (receivedPbuf (successReply xid flavour results).encoding).buf = 0 ∧
      (receivedPbuf (successReply xid flavour results).encoding).Holds 24 results := by
  have body : (successReply xid flavour results).body =
      .accepted { flavour := flavour, body := [] } (.success results) := rfl
  have word : load32 .big ((([] : List UInt8) ++ padding 0 ++ store32 .big success).take 4) =
      success := load32_store32 .big success
  have succeeded : (successReply xid flavour results).Succeeded := by
    rw [Reply.Succeeded, body]
    rfl
  have header : (successReply xid flavour results).header.length = 24 + paddedLength 0 :=
    Reply.header_length_accepted body succeeded
  have behind := (received_holds fits).right
  rw [header, show paddedLength 0 = 0 from rfl, Nat.zero_add] at behind
  exact ⟨(Reply.accepted fits body).mpr word, behind⟩

/-- `readres`: attributes and data, with what fills their last word. -/
structure Readres where
  attributes : Fattr
  data : List UInt8
  fill : List UInt8
  filled : fill.length = (4 - data.length % 4) % 4

def Readres.encoding (res : Readres) : List UInt8 :=
  store32 .big nfsOk ++ (res.attributes.words.flatMap (store32 .big) ++
    (store32 .big (UInt32.ofNat res.data.length) ++ res.data ++ res.fill))

/-- Attributes that stand behind the status are those that are filled. -/
theorem attrstatAt_holds {pbuf : Pbuf} (order : ByteOrder) {attributes : Fattr}
    (holds : pbuf.Holds 28 (attributes.words.flatMap (store32 .big))) :
    attrstatAt order pbuf.buf = attributes := by
  have bytes := holds.take_eq
  have size : (attributes.words.flatMap (store32 .big)).length = fattrSize := rfl
  rw [size] at bytes
  rw [attrstatAt, bytes, ← bswap_words order, bswap_bswap, Fattr.load_words]

/-- The callback of `nfs_read` receives the attributes and the length of the data that
the server sent, and a pointer to these data, which lie inside the buffer. -/
theorem nfsReadCb_decodes (order : ByteOrder) (xid flavour : UInt32) (res : Readres)
    (fits : (successReply xid flavour res.encoding).encoding.length ≤ pbufSize) :
    ∃ position : Nat,
      nfsReadCb order (receivedPbuf (successReply xid flavour res.encoding).encoding) =
          .ok
            { status := 0
              attributes := some res.attributes
              size := res.data.length
              data := some position } ∧
        (receivedPbuf (successReply xid flavour res.encoding).encoding).Holds position res.data ∧
        position + res.data.length ≤ pbufSize := by
  rcases successReply_holds fits with ⟨accepted, holds⟩
  have word := holds.left.wordAt
  have zero : asInt32 nfsOk = 0 := rfl
  have behind := holds.right
  rw [store32_length] at behind
  have size : (res.attributes.words.flatMap (store32 .big)).length = 68 := rfl
  have opaque_ := behind.right
  rw [size] at opaque_
  have inside := opaque_.opaque_inside res.filled (by decide)
  have length : wordAt _ 96 = UInt32.ofNat res.data.length := opaque_.left.left.wordAt
  have bytes := opaque_.left.right
  rw [store32_length] at bytes
  have small : res.data.length < 0x80000000 := by
    unfold paddedLength pbufSize at inside
    omega
  refine ⟨100, ?_, bytes, ?_⟩
  · rw [nfsReadCb_received, lookupStatus_accepted accepted, word, zero, if_pos rfl,
      attrstatAt_holds order behind.left, length, Pbuf.asInt32_ofNat small]
    rfl
  · unfold paddedLength at inside
    omega

def shortReadres : Readres where
  attributes := Fattr.load .big (List.replicate fattrSize 0)
  data := [104, 101, 108, 108, 111]
  fill := [0, 0, 0]
  filled := rfl

theorem nfsReadCb_decodes_short :
    ∃ position : Nat,
      nfsReadCb .little (receivedPbuf (successReply 101 0 shortReadres.encoding).encoding) =
          .ok
            { status := 0
              attributes := some shortReadres.attributes
              size := shortReadres.data.length
              data := some position } ∧
        (receivedPbuf (successReply 101 0 shortReadres.encoding).encoding).Holds position
          shortReadres.data ∧
        position + shortReadres.data.length ≤ pbufSize :=
  nfsReadCb_decodes .little 101 0 shortReadres (by decide)

end Nfs
end Ipbench
