import Ipbench.Nfs.Lookup

namespace Ipbench
namespace Nfs

open Foundation

/-!
# Reply headers and their verifier

A reply is a union within a union: it is accepted or denied, and an accepted one
carries a verifier, opaque data of any length, before it says whether the call
was executed.  `check_errors` moves over the flavour and the length of the
verifier and not over its body.  With a body it takes the first word of the body
for the accept status, and a body that begins with a zero word for success.
-/

/-! ## Replies -/

def progMismatch : UInt32 := 2

def msgDenied : UInt32 := 1

/-- `opaque_auth`, with its body. -/
structure OpaqueAuth where
  flavour : UInt32
  body : List UInt8
deriving DecidableEq, Repr

/-- The data of an accepted reply, by its accept status. -/
inductive ReplyData where
  | success (results : List UInt8)
  | progMismatch (low high : UInt32)
  | void (stat : UInt32) (default : stat ≠ Nfs.success ∧ stat ≠ Nfs.progMismatch)
deriving DecidableEq, Repr

/-- `reply_body`, by its reply status and the reason of a rejection. -/
inductive ReplyBody where
  | accepted (verf : OpaqueAuth) (data : ReplyData)
  | rpcMismatch (low high : UInt32)
  | authError (stat : UInt32)
deriving DecidableEq, Repr

structure Reply where
  xid : UInt32
  body : ReplyBody
deriving DecidableEq, Repr

/-! ## Encodings -/

def OpaqueAuth.encoding (auth : OpaqueAuth) : List UInt8 :=
  store32 .big auth.flavour ++ store32 .big (UInt32.ofNat auth.body.length) ++ auth.body ++
    padding auth.body.length

namespace ReplyData

/-- The procedure results of an executed call. -/
def results : ReplyData → Option (List UInt8)
  | success bytes => some bytes
  | _ => none

/-- Everything before the procedure results. -/
def header : ReplyData → List UInt8
  | success _ => store32 .big Nfs.success
  | progMismatch low high =>
      store32 .big Nfs.progMismatch ++ store32 .big low ++ store32 .big high
  | void stat _ => store32 .big stat

end ReplyData

namespace ReplyBody

def results : ReplyBody → Option (List UInt8)
  | accepted _ data => data.results
  | _ => none

def header : ReplyBody → List UInt8
  | accepted verf data => store32 .big msgAccepted ++ (verf.encoding ++ data.header)
  | rpcMismatch low high =>
      store32 .big msgDenied ++ (store32 .big 0 ++ store32 .big low ++ store32 .big high)
  | authError stat => store32 .big msgDenied ++ (store32 .big 1 ++ store32 .big stat)

end ReplyBody

namespace Reply

/-- Everything before the procedure results. -/
def header (reply : Reply) : List UInt8 :=
  store32 .big reply.xid ++ (store32 .big msgReply ++ reply.body.header)

def encoding (reply : Reply) : List UInt8 :=
  reply.header ++ reply.body.results.getD []

/-- The reply says that the call was accepted and executed. -/
def Succeeded (reply : Reply) : Prop :=
  reply.body.results.isSome

end Reply

inductive Diropres where
  | ok (file : List UInt8) (attributes : Fattr) (whole : file.length = fhsize)
  | error (status : UInt32) (default : status ≠ nfsOk)
deriving DecidableEq, Repr

namespace Diropres

def encoding : Diropres → List UInt8
  | ok file attributes _ =>
      store32 .big nfsOk ++ (file ++ attributes.words.flatMap (store32 .big))
  | error status _ => store32 .big status

/-- The status, handle and attributes as the host keeps them. -/
def decoded (order : ByteOrder) : Diropres → Int × Option (List UInt8 × Fattr)
  | ok file attributes _ => (0, some (bswap order file, attributes))
  | error status _ => (asInt32 status, none)

end Diropres

/-- The headers of a reply are decoded as what they are, and so is the result of
a lookup behind them. -/
structure HeaderDecoded (order : ByteOrder) (reply : Reply) : Prop where
  checked : ∃ status pbuf, checkErrors order (receivedPbuf reply.encoding) = .ok (status, pbuf) ∧
    (status = 0 ↔ reply.Succeeded) ∧
    (status = 0 → pbuf = (receivedPbuf reply.encoding).at_ reply.header.length)
  failed : ¬ reply.Succeeded →
    nfsLookupCb order (receivedPbuf reply.encoding) = .ok (-1, none)
  found : ∀ answer : Diropres, reply.body.results = some answer.encoding →
    nfsLookupCb order (receivedPbuf reply.encoding) = .ok (answer.decoded order)

/-- The verifier has no body, or the body does not begin with a zero word and the
call has failed anyhow. -/
def ReplyBody.Unambiguous : ReplyBody → Prop
  | accepted verf data =>
      verf.body = [] ∨ data.results = none ∧ ∃ byte ∈ verf.body.take 4, byte ≠ 0
  | _ => True

/-! ## The words of a reply -/

theorem received_holds {data : List UInt8} (fits : data.length ≤ pbufSize) :
    (receivedPbuf data).Holds 0 data := by
  have kept : data.take pbufSize = data := List.take_of_length_le fits
  change data <+: (data.take pbufSize ++ _).drop 0
  rw [List.drop_zero, kept]
  exact List.prefix_append _ _

/-- The word at a position is the first one of what stands there. -/
theorem Pbuf.Holds.wordAt_take {pbuf : Pbuf} {position : Nat} {bytes : List UInt8}
    (holds : pbuf.Holds position bytes) (long : 4 ≤ bytes.length) :
    Nfs.wordAt pbuf.buf position = load32 .big (bytes.take 4) := by
  rcases holds with ⟨rest, split⟩
  rw [Nfs.wordAt, ← split, List.take_append_of_le_length long]

section Words

variable {reply : Reply} (fits : reply.encoding.length ≤ pbufSize)

include fits

/-- The body stands behind the transaction and the type. -/
theorem Reply.holds_body :
    (receivedPbuf reply.encoding).Holds 4 (store32 .big msgReply) ∧
      (receivedPbuf reply.encoding).Holds 8
        (reply.body.header ++ reply.body.results.getD []) := by
  have whole := received_holds fits
  rw [Reply.encoding, Reply.header, List.append_assoc, List.append_assoc] at whole
  have type := whole.right
  rw [store32_length] at type
  have body := type.right
  rw [store32_length] at body
  exact ⟨type.left, body⟩

theorem Reply.type_eq : wordAt (receivedPbuf reply.encoding).buf 4 = msgReply :=
  (Reply.holds_body fits).1.wordAt

theorem Reply.denied {reasons : List UInt8}
    (body : reply.body.header = store32 .big msgDenied ++ reasons) :
    headerStatus (receivedPbuf reply.encoding).buf ≠ 0 := by
  have holds := (Reply.holds_body fits).2
  rw [body, List.append_assoc] at holds
  have stat : wordAt (receivedPbuf reply.encoding).buf 8 = msgDenied := holds.left.wordAt
  rw [Ne, headerStatus_eq_zero, stat]
  rintro ⟨_, impossible, _⟩
  cases impossible

/-- The word that `check_errors` takes for the accept status of an accepted reply
is the one behind the length of the verifier. -/
theorem Reply.accepted {verf : OpaqueAuth} {data : ReplyData}
    (body : reply.body = .accepted verf data) :
    headerStatus (receivedPbuf reply.encoding).buf = 0 ↔
      load32 .big ((verf.body ++ padding verf.body.length ++ data.header).take 4) =
        Nfs.success := by
  have holds := (Reply.holds_body fits).2
  rw [body, ReplyBody.header, OpaqueAuth.encoding] at holds
  simp only [List.append_assoc] at holds
  have stat : wordAt (receivedPbuf reply.encoding).buf 8 = msgAccepted := holds.left.wordAt
  have behind := holds.right.right.right
  simp only [store32_length, Nat.reduceAdd] at behind
  have long : 4 ≤ data.header.length := by
    cases data <;> simp [ReplyData.header]
  rw [← List.append_assoc, ← List.append_assoc] at behind
  rw [headerStatus_eq_zero, Reply.type_eq fits, stat, behind.left.wordAt_take (by simp; omega)]
  simp

end Words

/-- Data of one byte or more begins with a zero word when its first bytes are
zero. -/
theorem first_word_eq_zero {body : List UInt8} (nonempty : body ≠ []) (rest : List UInt8) :
    load32 .big ((body ++ padding body.length ++ rest).take 4) = 0 ↔
      ∀ byte ∈ body.take 4, byte = 0 := by
  have some_ : 0 < body.length := List.length_pos_iff.mpr nonempty
  have split : (body ++ padding body.length ++ rest).take 4 =
      body.take 4 ++ List.replicate (min (4 - body.length) ((4 - body.length % 4) % 4)) 0 := by
    rw [List.take_append_of_le_length (by simp; omega), List.take_append, padding,
      List.take_replicate]
  have whole : (body.take 4 ++ List.replicate
      (min (4 - body.length) ((4 - body.length % 4) % 4)) (0 : UInt8)).length = 4 := by
    rw [List.length_append, List.length_take, List.length_replicate]
    omega
  rw [split, load32_big_eq_zero whole]
  simp only [List.mem_append, List.mem_replicate]
  constructor
  · exact fun all byte member => all byte (Or.inl member)
  · rintro zero byte (member | padded)
    · exact zero byte member
    · exact padded.2

/-! ## What is decoded -/

/-- A failed call that is taken for one is decoded. -/
theorem HeaderDecoded.of_failed (order : ByteOrder) {reply : Reply}
    (status : headerStatus (receivedPbuf reply.encoding).buf ≠ 0)
    (failed : ¬ reply.Succeeded) : HeaderDecoded order reply := by
  constructor
  · rcases checkErrors_received order reply.encoding with ⟨cursor, checked, _⟩
    exact ⟨_, _, checked, iff_of_false status failed, fun zero => absurd zero status⟩
  · intro _
    have refused : lookupStatus (receivedPbuf reply.encoding).buf = -1 := if_neg status
    rw [nfsLookupCb_received, refused]
    rfl
  · intro answer carried
    rw [Reply.Succeeded, carried] at failed
    exact absurd rfl failed

/-- The result of a lookup that stands behind the headers is decoded. -/
theorem nfsLookupCb_holds (order : ByteOrder) {data : List UInt8} (answer : Diropres)
    (accepted : headerStatus (receivedPbuf data).buf = 0)
    (holds : (receivedPbuf data).Holds 24 answer.encoding) :
    nfsLookupCb order (receivedPbuf data) = .ok (answer.decoded order) := by
  have status : lookupStatus (receivedPbuf data).buf =
      asInt32 (wordAt (receivedPbuf data).buf 24) := if_pos accepted
  rw [nfsLookupCb_received, status]
  cases answer with
  | error code default =>
      have word : wordAt (receivedPbuf data).buf 24 = code := Pbuf.Holds.wordAt holds
      have nonzero : asInt32 code ≠ 0 := mt asInt32_eq_nfsOk.mp default
      rw [word, if_neg nonzero]
      rfl
  | ok file attributes whole =>
      have word : wordAt (receivedPbuf data).buf 24 = nfsOk := holds.left.wordAt
      have later := holds.right
      rw [store32_length] at later
      have handle := later.left.take_eq
      have attrs := later.right.take_eq
      have size : (attributes.words.flatMap (store32 .big)).length = fattrSize := rfl
      rw [whole] at handle attrs
      rw [size] at attrs
      change ((receivedPbuf data).buf.drop 60).take fattrSize = _ at attrs
      have zero : asInt32 nfsOk = 0 := rfl
      rw [word, zero, if_pos rfl, handleAt, attributesAt, handle, attrs, ← bswap_words order,
        bswap_bswap, Fattr.load_words]
      rfl

/-- An executed call without a body in its verifier is decoded. -/
theorem HeaderDecoded.of_success (order : ByteOrder) {reply : Reply}
    (fits : reply.encoding.length ≤ pbufSize)
    (status : headerStatus (receivedPbuf reply.encoding).buf = 0)
    (succeeded : reply.Succeeded) (results : reply.header.length = 24) :
    HeaderDecoded order reply := by
  constructor
  · rcases checkErrors_received order reply.encoding with ⟨cursor, checked, behind⟩
    refine ⟨_, _, checked, iff_of_true status succeeded, fun _ => ?_⟩
    rw [behind status, results]
  · exact fun failed => absurd succeeded failed
  · intro answer carried
    have whole := received_holds fits
    rw [Reply.encoding, carried] at whole
    have behind := whole.right
    rw [results, Nat.zero_add] at behind
    have spelled : reply.encoding = reply.header ++ answer.encoding := by
      rw [Reply.encoding, carried]
      rfl
    rw [spelled] at status ⊢
    exact nfsLookupCb_holds order answer status behind

/-- What is taken for a success must be one, and its results must begin at the
cursor. -/
theorem HeaderDecoded.of_status {order : ByteOrder} {reply : Reply}
    (decoded : HeaderDecoded order reply) :
    (headerStatus (receivedPbuf reply.encoding).buf = 0 ↔ reply.Succeeded) ∧
      (reply.Succeeded → reply.header.length = 24) := by
  rcases decoded.checked with ⟨status, pbuf, checked, iff, cursor⟩
  rcases checkErrors_received order reply.encoding with ⟨position, same, behind⟩
  rw [same] at checked
  cases checked
  refine ⟨iff, fun succeeded => ?_⟩
  have zero := iff.mpr succeeded
  have equal := congrArg Pbuf.pos (cursor zero)
  rw [behind zero] at equal
  exact (Int.ofNat.inj equal).symm

theorem Reply.header_length_accepted {reply : Reply} {verf : OpaqueAuth} {data : ReplyData}
    (body : reply.body = .accepted verf data) (succeeded : reply.Succeeded) :
    reply.header.length = 24 + paddedLength verf.body.length := by
  cases data with
  | success results =>
      rw [Reply.header, body, ReplyBody.header, OpaqueAuth.encoding, ReplyData.header]
      simp only [List.length_append, store32_length, padding_length, paddedLength]
      omega
  | progMismatch low high =>
      rw [Reply.Succeeded, body] at succeeded
      cases succeeded
  | void stat default =>
      rw [Reply.Succeeded, body] at succeeded
      cases succeeded

/-- The verifier of a reply does not come in between. -/
theorem HeaderDecoded.of_unambiguous (order : ByteOrder) {reply : Reply}
    (fits : reply.encoding.length ≤ pbufSize) (plain : reply.body.Unambiguous) :
    HeaderDecoded order reply := by
  cases body : reply.body with
  | rpcMismatch low high =>
      refine HeaderDecoded.of_failed order (Reply.denied fits (congrArg ReplyBody.header body)) ?_
      rw [Reply.Succeeded, body]
      exact Bool.false_ne_true
  | authError stat =>
      refine HeaderDecoded.of_failed order (Reply.denied fits (congrArg ReplyBody.header body)) ?_
      rw [Reply.Succeeded, body]
      exact Bool.false_ne_true
  | accepted verf data =>
      have word := Reply.accepted fits body
      have succeeded : reply.Succeeded ↔ data.results.isSome := by
        rw [Reply.Succeeded, body]
        rfl
      rw [body] at plain
      rcases plain with empty | ⟨failed, byte, member, nonzero⟩
      · have ends := Reply.header_length_accepted body
        rw [empty] at word ends
        by_cases executed : reply.Succeeded
        · refine HeaderDecoded.of_success order fits (word.mpr ?_) executed (ends executed)
          cases data with
          | success results => exact load32_store32 .big Nfs.success
          | progMismatch low high => exact absurd (succeeded.mp executed) Bool.false_ne_true
          | void stat default => exact absurd (succeeded.mp executed) Bool.false_ne_true
        · refine HeaderDecoded.of_failed order (mt word.mp ?_) executed
          cases data with
          | success results => exact absurd (succeeded.mpr rfl) executed
          | progMismatch low high =>
              have front : ([] ++ padding 0 ++ (ReplyData.progMismatch low high).header).take 4 =
                  store32 .big Nfs.progMismatch := rfl
              rw [List.length_nil, front, load32_store32]
              decide
          | void stat default =>
              have front : ([] ++ padding 0 ++ (ReplyData.void stat default).header).take 4 =
                  store32 .big stat := rfl
              rw [List.length_nil, front, load32_store32]
              exact default.1
      · have nonempty : verf.body ≠ [] := by
          intro empty
          rw [empty] at member
          cases member
        have zero := word.trans (first_word_eq_zero nonempty data.header)
        refine HeaderDecoded.of_failed order ?_ ?_
        · exact fun same => nonzero (zero.mp same byte member)
        · rw [succeeded, failed]
          exact Bool.false_ne_true

/-- A verifier with a body displaces the results, and one that begins with a zero
word makes a success of a failure. -/
theorem HeaderDecoded.unambiguous {order : ByteOrder} {reply : Reply}
    (fits : reply.encoding.length ≤ pbufSize) (decoded : HeaderDecoded order reply) :
    reply.body.Unambiguous := by
  cases body : reply.body with
  | rpcMismatch low high => trivial
  | authError stat => trivial
  | accepted verf data =>
      by_cases empty : verf.body = []
      · exact Or.inl empty
      · rcases decoded.of_status with ⟨iff, cursor⟩
        have failed : ¬ reply.Succeeded := by
          intro executed
          have ends := cursor executed
          have some_ := List.length_pos_iff.mpr empty
          rw [Reply.header_length_accepted body executed, paddedLength] at ends
          omega
        have succeeded : reply.Succeeded ↔ data.results.isSome := by
          rw [Reply.Succeeded, body]
          rfl
        have zero := (Reply.accepted fits body).trans (first_word_eq_zero empty data.header)
        refine Or.inr ⟨Option.not_isSome_iff_eq_none.mp (mt succeeded.mpr failed), ?_⟩
        have nonzero := mt zero.mpr (mt iff.mp failed)
        simpa only [not_forall, exists_prop] using nonzero

/-- A reply that fits into a buffer is decoded as what it is exactly when it is
denied, or its verifier has no body, or the call has failed and the body does
not begin with a zero word. -/
theorem headerDecoded_iff (order : ByteOrder) (reply : Reply)
    (fits : reply.encoding.length ≤ pbufSize) :
    HeaderDecoded order reply ↔ reply.body.Unambiguous :=
  ⟨HeaderDecoded.unambiguous fits, HeaderDecoded.of_unambiguous order fits⟩

/-- An executed lookup of a file that is absent, with a verifier of one zero
word. -/
def absentFile : Reply where
  xid := 101
  body := .accepted { flavour := 2, body := [0, 0, 0, 0] } (.success (store32 .big 2))

theorem headerDecoded_iff_absentFile :
    HeaderDecoded .little absentFile ↔ absentFile.body.Unambiguous :=
  headerDecoded_iff .little absentFile (by decide)

/-- The accept status is read from the verifier, and the lookup status from the
accept status: the file that is absent is found. -/
theorem absentFile_found :
    absentFile.encoding.length ≤ pbufSize ∧ ¬ HeaderDecoded .little absentFile ∧
      ∃ found, nfsLookupCb .little (receivedPbuf absentFile.encoding) = .ok (0, some found) := by
  have found : lookupStatus (receivedPbuf absentFile.encoding).buf = 0 := by decide
  refine ⟨by decide, ?_, ?_⟩
  · intro decoded
    have cursor := decoded.of_status.2 rfl
    revert cursor
    decide
  · rw [nfsLookupCb_received, found]
    exact ⟨_, rfl⟩

end Nfs
end Ipbench
