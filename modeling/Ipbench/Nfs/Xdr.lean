import Ipbench.Foundation.ByteOrder
import Mathlib.Data.List.Basic

namespace Ipbench
namespace Nfs

open Foundation

/-!
# Packet buffers

A packet buffer is a block of fixed size with a cursor.  The cursor is a C
integer that requests and replies move without looking, so every access may
fall outside the block; and the copies that swap bytes assert that they work on
whole, aligned words.  Both are faults.

Numbers travel most significant byte first.  A host that stores words in the
other order reverses the bytes of each word while it copies them, and then
loads the word in its own order, so a decoded number does not depend on the
host; the bytes of an opaque value copied that way do.
-/

def pbufSize : Nat := 1460

/-- A buffer and the position of its data. -/
@[ext] structure Pbuf where
  pos : Int
  buf : List UInt8
  whole : buf.length = pbufSize
deriving DecidableEq

/-- An access outside a block, or a failing assertion. -/
inductive Fault where
  | outside
  | assertion
deriving DecidableEq, Repr

theorem bind_eq_ok {α β ε : Type} {first : Except ε α} {next : α → Except ε β} {result : β} :
    (first >>= next) = .ok result ↔ ∃ value, first = .ok value ∧ next value = .ok result := by
  cases first with
  | error fault => exact iff_of_false (fun same => by cases same) fun ⟨_, same, _⟩ => by cases same
  | ok value =>
      constructor
      · exact fun same => ⟨value, rfl, same⟩
      · rintro ⟨_, ⟨rfl⟩, same⟩
        exact same

/-! ## Words of 32 bits -/

/-- The word whose four bytes stand in memory. -/
def load32 : ByteOrder → List UInt8 → UInt32
  | .little, bytes => UInt32.ofNat (ofLeBytes bytes)
  | .big, bytes => UInt32.ofNat (ofLeBytes bytes.reverse)

/-- The four bytes of a word in memory. -/
def store32 : ByteOrder → UInt32 → List UInt8
  | .little, word => leBytes 4 word.toNat
  | .big, word => (leBytes 4 word.toNat).reverse

def swapWords : List UInt8 → List UInt8
  | first :: second :: third :: fourth :: rest =>
      fourth :: third :: second :: first :: swapWords rest
  | rest => rest

/-- The copy loops of `bswap_memcpy`: `htonl` and `ntohl` are the same
function. -/
def bswap : ByteOrder → List UInt8 → List UInt8
  | .little, bytes => swapWords bytes
  | .big, bytes => bytes

/-- The number that travels in the four bytes at a position. -/
def wordAt (bytes : List UInt8) (position : Nat) : UInt32 :=
  load32 .big ((bytes.drop position).take 4)

@[simp] theorem store32_length (order : ByteOrder) (word : UInt32) :
    (store32 order word).length = 4 := by
  cases order with
  | little => exact leBytes_length 4 _
  | big => rw [store32, List.length_reverse, leBytes_length]

theorem swapWords_length (bytes : List UInt8) : (swapWords bytes).length = bytes.length := by
  induction bytes using swapWords.induct with
  | case1 first second third fourth rest inductionHypothesis =>
      rw [swapWords]
      simp [inductionHypothesis]
  | case2 rest short => rw [swapWords.eq_2 rest short]

@[simp] theorem bswap_length (order : ByteOrder) (bytes : List UInt8) :
    (bswap order bytes).length = bytes.length := by
  cases order with
  | little => exact swapWords_length bytes
  | big => rfl

@[simp] theorem load32_store32 (order : ByteOrder) (word : UInt32) :
    load32 order (store32 order word) = word := by
  have digits : UInt32.ofNat (ofLeBytes (leBytes 4 word.toNat)) = word := by
    have bound : word.toNat < 256 ^ 4 := word.toNat_lt
    rw [ofLeBytes_leBytes, Nat.mod_eq_of_lt bound, UInt32.ofNat_toNat]
  cases order with
  | little => exact digits
  | big => rw [load32, store32, List.reverse_reverse, digits]

/-- Swapping and loading in the order of the host gives the number that
travelled. -/
theorem load32_bswap (order : ByteOrder) {bytes : List UInt8} (whole : bytes.length = 4) :
    load32 order (bswap order bytes) = load32 .big bytes := by
  cases order with
  | big => rfl
  | little =>
      match bytes, whole with
      | [first, second, third, fourth], _ => rfl

/-- The number that a host stored travels in its bytes. -/
theorem load32_big_bswap (order : ByteOrder) (word : UInt32) :
    load32 .big (bswap order (store32 order word)) = word := by
  have whole : (bswap order (store32 order word)).length = 4 := by simp
  rw [← load32_bswap order whole]
  cases order with
  | big => exact load32_store32 .big word
  | little =>
      have twice : bswap .little (bswap .little (store32 .little word)) =
          store32 .little word := rfl
      rw [twice, load32_store32]

theorem load32_big_eq_zero {bytes : List UInt8} (whole : bytes.length = 4) :
    load32 .big bytes = 0 ↔ ∀ byte ∈ bytes, byte = 0 := by
  have bound := ofLeBytes_lt bytes.reverse
  rw [List.length_reverse, whole] at bound
  have number : load32 .big bytes = 0 ↔ ofLeBytes bytes.reverse = 0 := by
    rw [load32, ← UInt32.toNat_inj, UInt32.toNat_ofNat']
    change ofLeBytes bytes.reverse % 256 ^ 4 = 0 ↔ _
    rw [Nat.mod_eq_of_lt bound]
  rw [number, ofLeBytes_eq_zero]
  simp only [List.mem_reverse]

def asInt32 (word : UInt32) : Int :=
  if word.toNat < 0x80000000 then word.toNat else word.toNat - 0x100000000

/-- The next multiple of four, by a remainder with the sign of the number.  It is
a fault when the sum leaves the range of the integers. -/
def padSize (size : Int) : Except Fault Int :=
  if size.tmod 4 = 0 then .ok size
  else if 0x80000000 ≤ size + (4 - size.tmod 4) then .error .outside
  else .ok (size + (4 - size.tmod 4))

/-! ## Reading -/

namespace Pbuf

/-- Copy bytes out of the buffer and advance.  The alignment of the source is
that of the cursor. -/
def getfrombuf (order : ByteOrder) (pbuf : Pbuf) (len : Nat) (byteswap : Bool) :
    Except Fault (List UInt8 × Pbuf) :=
  let next : Pbuf := { pbuf with pos := pbuf.pos + len }
  if byteswap ∧ (pbuf.pos % 4 ≠ 0 ∨ len % 4 ≠ 0) then .error .assertion
  else if pbuf.pos < 0 ∨ pbufSize < pbuf.pos + len then .error .outside
  else
    let bytes := (pbuf.buf.drop pbuf.pos.toNat).take len
    .ok (if byteswap then bswap order bytes else bytes, next)

/-- `getfrombuf` into an integer variable, with its bytes swapped. -/
def getWord (order : ByteOrder) (pbuf : Pbuf) : Except Fault (UInt32 × Pbuf) :=
  (pbuf.getfrombuf order 4 true).map fun result => (load32 order result.1, result.2)

def skip (pbuf : Pbuf) (len : Int) : Pbuf :=
  { pbuf with pos := pbuf.pos + len }

/-- Move the cursor over a length and as many bytes, with their padding. -/
def skipstring (order : ByteOrder) (pbuf : Pbuf) : Except Fault Pbuf := do
  let (size, pbuf) ← pbuf.getWord order
  let padsize ← padSize (asInt32 size)
  pure (pbuf.skip padsize)

/-- Copy a length of bytes into the block of the caller, at most `len` of them,
and move the cursor behind all of them.  A length below zero becomes a very large
number of bytes to copy. -/
def getdata (order : ByteOrder) (pbuf : Pbuf) (data : List UInt8) (len : Int)
    (null byteswap : Bool) : Except Fault (Int × List UInt8 × Pbuf) :=
  if len ≤ 0 then .error .assertion
  else do
    let (word, pbuf) ← pbuf.getWord order
    let size := asInt32 word
    let len := if size < len then size else len
    let padsize ← padSize size
    let (bytes, pbuf) ← pbuf.getfrombuf order (len % 0x10000000000000000).toNat byteswap
    let pbuf := pbuf.skip (padsize - len)
    if data.length < bytes.length then .error .outside
    else
      let data := bytes ++ data.drop bytes.length
      if null then
        if bytes.length < data.length then pure (len, data.set bytes.length 0, pbuf)
        else .error .outside
      else pure (len, data, pbuf)

/-- `getdata` with a terminator and without swapping. -/
def getstring (order : ByteOrder) (pbuf : Pbuf) (data : List UInt8) (len : Int) :
    Except Fault (List UInt8 × Pbuf) := do
  let (_, data, pbuf) ← pbuf.getdata order data len true false
  pure (data, pbuf)

/-- A buffer whose cursor is at a position. -/
def at_ (pbuf : Pbuf) (position : Nat) : Pbuf :=
  { pbuf with pos := position }

theorem getfrombuf_at (order : ByteOrder) (pbuf : Pbuf) {position len : Nat}
    (aligned : position % 4 = 0) (words : len % 4 = 0) (inside : position + len ≤ pbufSize) :
    (pbuf.at_ position).getfrombuf order len true =
      .ok (bswap order ((pbuf.buf.drop position).take len), pbuf.at_ (position + len)) := by
  unfold getfrombuf at_
  dsimp only
  rw [if_neg (by omega), if_neg (by omega), Int.toNat_natCast, if_pos rfl, Nat.cast_add]

/-- Inside the buffer a word is read as it travelled. -/
theorem getWord_at (order : ByteOrder) (pbuf : Pbuf) {position : Nat}
    (aligned : position % 4 = 0) (inside : position + 4 ≤ pbufSize) :
    (pbuf.at_ position).getWord order =
      .ok (wordAt pbuf.buf position, pbuf.at_ (position + 4)) := by
  have length : ((pbuf.buf.drop position).take 4).length = 4 := by
    rw [List.length_take, List.length_drop, pbuf.whole]
    omega
  unfold getWord
  rw [pbuf.getfrombuf_at order aligned rfl inside]
  change Except.ok (load32 order (bswap order _), _) = _
  rw [load32_bswap order length, wordAt]

/-! ## Writing -/

/-- `memset` and a cursor at the start. -/
def zeroed : Pbuf where
  pos := 0
  buf := List.replicate pbufSize 0
  whole := List.length_replicate

/-- Copy bytes into the buffer and advance. -/
def addtobuf (order : ByteOrder) (pbuf : Pbuf) (data : List UInt8) (byteswap : Bool) :
    Except Fault Pbuf :=
  if byteswap ∧ (pbuf.pos % 4 ≠ 0 ∨ data.length % 4 ≠ 0) then .error .assertion
  else if inside : pbuf.pos < 0 ∨ pbufSize < pbuf.pos + data.length then .error .outside
  else
    let bytes := if byteswap then bswap order data else data
    .ok
      { pos := pbuf.pos + data.length
        buf := pbuf.buf.take pbuf.pos.toNat ++ bytes ++
          pbuf.buf.drop (pbuf.pos.toNat + data.length)
        whole := by
          have length : bytes.length = data.length := by
            dsimp only [bytes]
            split <;> simp
          have size := pbuf.whole
          simp only [List.length_append, List.length_take, List.length_drop, length, size]
          omega }

/-- `addtobuf` of integers, with their bytes swapped. -/
def addWords (order : ByteOrder) (pbuf : Pbuf) (words : List UInt32) : Except Fault Pbuf :=
  pbuf.addtobuf order (words.flatMap (store32 order)) true

/-- A length, the data, and zeros up to the next word.  What travels as the
length is the first four bytes of a variable of eight. -/
def adddata (order : ByteOrder) (pbuf : Pbuf) (data : List UInt8) (byteswap : Bool) :
    Except Fault Pbuf := do
  let size := order.store (UInt64.ofNat data.length)
  let pbuf ← pbuf.addtobuf order (size.take 4) true
  let pbuf ← pbuf.addtobuf order data byteswap
  if data.length % 4 ≠ 0 then
    pbuf.addtobuf order (List.replicate (4 - data.length % 4) 0) false
  else pure pbuf

def addstring (order : ByteOrder) (pbuf : Pbuf) (data : List UInt8) : Except Fault Pbuf :=
  pbuf.adddata order data false

theorem addtobuf_inside (order : ByteOrder) {pbuf : Pbuf} {position : Nat} (data : List UInt8)
    (byteswap : Bool) (cursor : pbuf.pos = position)
    (aligned : byteswap = true → position % 4 = 0 ∧ data.length % 4 = 0)
    (inside : position + data.length ≤ pbufSize) :
    ∃ next, pbuf.addtobuf order data byteswap = .ok next ∧
      next.pos = ↑(position + data.length) ∧
      next.buf = pbuf.buf.take position ++ (if byteswap then bswap order data else data) ++
        pbuf.buf.drop (position + data.length) := by
  have words : ¬(byteswap = true ∧ (pbuf.pos % 4 ≠ 0 ∨ data.length % 4 ≠ 0)) := by
    rintro ⟨swapped, bad⟩
    have := aligned swapped
    omega
  have within : ¬(pbuf.pos < 0 ∨ (pbufSize : Int) < pbuf.pos + data.length) := by omega
  cases written : pbuf.addtobuf order data byteswap with
  | error fault =>
      unfold Pbuf.addtobuf at written
      rw [if_neg words, dif_neg within] at written
      cases written
  | ok next =>
      unfold Pbuf.addtobuf at written
      rw [if_neg words, dif_neg within] at written
      cases written
      refine ⟨_, rfl, ?_, ?_⟩
      · dsimp only
        rw [cursor, Nat.cast_add]
      · dsimp only
        rw [cursor, Int.toNat_natCast]

/-- The first word of a buffer is written and the cursor is behind it. -/
structure Begun (xid : UInt32) (pbuf : Pbuf) (position : Nat) : Prop where
  cursor : pbuf.pos = position
  behind : 4 ≤ position
  first : wordAt pbuf.buf 0 = xid

theorem Begun.addtobuf {xid : UInt32} {pbuf : Pbuf} {position : Nat}
    (begun : Begun xid pbuf position) (order : ByteOrder) (data : List UInt8) (byteswap : Bool)
    (aligned : byteswap = true → position % 4 = 0 ∧ data.length % 4 = 0)
    (inside : position + data.length ≤ pbufSize) :
    ∃ next, pbuf.addtobuf order data byteswap = .ok next ∧
      Begun xid next (position + data.length) := by
  obtain ⟨next, written, cursor, bytes⟩ :=
    addtobuf_inside order data byteswap begun.cursor aligned inside
  have behind := begun.behind
  have kept : 4 ≤ (pbuf.buf.take position).length := by
    rw [List.length_take, pbuf.whole]
    omega
  refine ⟨next, written, cursor, Nat.le_add_right_of_le behind, ?_⟩
  unfold wordAt
  rw [bytes, List.drop_zero, List.append_assoc, List.take_append_of_le_length kept,
    List.take_take, Nat.min_eq_left behind]
  exact begun.first

theorem Begun.addWords {xid : UInt32} {pbuf : Pbuf} {position : Nat}
    (begun : Begun xid pbuf position) (order : ByteOrder) (words : List UInt32)
    (aligned : position % 4 = 0) (inside : position + 4 * words.length ≤ pbufSize) :
    ∃ next, pbuf.addWords order words = .ok next ∧
      Begun xid next (position + 4 * words.length) := by
  have length : (words.flatMap (store32 order)).length = 4 * words.length := by
    rw [List.length_flatMap]
    simp [Nat.mul_comm]
  rw [← length] at inside ⊢
  apply begun.addtobuf order _ true _ inside
  intro swapped
  rw [length]
  omega

/-- The data of a string and its padding fill whole words. -/
theorem Begun.addstring {xid : UInt32} {pbuf : Pbuf} {position : Nat}
    (begun : Begun xid pbuf position) (order : ByteOrder) (data : List UInt8)
    (aligned : position % 4 = 0)
    (inside : position + 4 + (data.length + (4 - data.length % 4) % 4) ≤ pbufSize) :
    ∃ next, pbuf.addstring order data = .ok next ∧
      Begun xid next (position + 4 + (data.length + (4 - data.length % 4) % 4)) := by
  have size : ((order.store (UInt64.ofNat data.length)).take 4).length = 4 := by
    rw [List.length_take, ByteOrder.store_length]
    rfl
  obtain ⟨counted, wroteSize, begun⟩ := begun.addtobuf order
    ((order.store (UInt64.ofNat data.length)).take 4) true
    (by rw [size]; omega) (by rw [size]; omega)
  rw [size] at begun
  obtain ⟨copied, wroteData, begun⟩ := begun.addtobuf order data false
    (by intro impossible; cases impossible) (by omega)
  unfold Pbuf.addstring adddata
  simp only [bind, Except.bind, wroteSize, wroteData]
  by_cases whole : data.length % 4 = 0
  · rw [if_neg (not_not.mpr whole)]
    refine ⟨copied, rfl, ?_⟩
    rw [whole]
    exact begun
  · rw [if_pos whole]
    obtain ⟨padded, wroteFill, begun⟩ := begun.addtobuf order
      (List.replicate (4 - data.length % 4) 0) false
      (by intro impossible; cases impossible) (by rw [List.length_replicate]; omega)
    refine ⟨padded, wroteFill, ?_⟩
    rw [List.length_replicate] at begun
    have fill : (4 - data.length % 4) % 4 = 4 - data.length % 4 := by omega
    rw [fill, ← Nat.add_assoc]
    exact begun

theorem zeroed_addWords (order : ByteOrder) (xid : UInt32) :
    ∃ next, zeroed.addWords order [xid] = .ok next ∧ Begun xid next 4 := by
  have length : ([xid].flatMap (store32 order)).length = 4 := by simp
  obtain ⟨next, written, cursor, bytes⟩ :=
    addtobuf_inside order ([xid].flatMap (store32 order)) true
      (show zeroed.pos = (0 : Nat) from rfl) (by rw [length]; omega) (by rw [length]; decide)
  rw [length] at cursor
  refine ⟨next, written, cursor, Nat.le_refl 4, ?_⟩
  have whole : (bswap order (store32 order xid)).length = 4 := by simp
  unfold wordAt
  rw [bytes, if_pos rfl, List.flatMap_singleton, List.take_zero, List.nil_append,
    List.drop_zero, List.take_append_of_le_length (Nat.le_of_eq whole.symm),
    List.take_of_length_le (Nat.le_of_eq whole), load32_big_bswap]

end Pbuf

/-- The name of the client in its credentials, `NFS_MACHINE_NAME`. -/
def nfsMachineName : List UInt8 := [98, 111, 103, 103, 111]

def msgCall : UInt32 := 0

def msgReply : UInt32 := 1

def srpcVersion : UInt32 := 2

def authNull : UInt32 := 0

def authUnix : UInt32 := 1

/-- The header of a call, with the identifier that `get_xid` has drawn. -/
def initbuf (order : ByteOrder) (txid prognum vernum procnum : UInt32) : Except Fault Pbuf := do
  let pbuf := Pbuf.zeroed
  let pbuf ← pbuf.addWords order [txid]
  let pbuf ← pbuf.addWords order [msgCall]
  let pbuf ← pbuf.addWords order [srpcVersion, prognum, vernum, procnum]
  let nsize := nfsMachineName.length
  let nsize := if nsize % 4 ≠ 0 then nsize + (4 - nsize % 4) else nsize
  let pbuf ← pbuf.addWords order [authUnix, UInt32.ofNat (5 * 4 + nsize)]
  let pbuf ← pbuf.addWords order [37]
  let pbuf ← pbuf.addstring order nfsMachineName
  let pbuf ← pbuf.addWords order [0]
  let pbuf ← pbuf.addWords order [0]
  let pbuf ← pbuf.addWords order [0]
  pbuf.addWords order [authNull, 0]

theorem initbuf_begun (order : ByteOrder) (txid prognum vernum procnum : UInt32) :
    ∃ pbuf, initbuf order txid prognum vernum procnum = .ok pbuf ∧ pbuf.Begun txid 68 := by
  obtain ⟨pbuf, wroteXid, begun⟩ := Pbuf.zeroed_addWords order txid
  obtain ⟨pbuf, wroteType, begun⟩ := begun.addWords order [msgCall] rfl (by decide)
  obtain ⟨pbuf, wroteBody, begun⟩ :=
    begun.addWords order [srpcVersion, prognum, vernum, procnum] rfl (by simp [pbufSize])
  have begun : pbuf.Begun txid 24 := begun
  obtain ⟨pbuf, wroteCred, begun⟩ := begun.addWords order [authUnix, 28] rfl (by decide)
  obtain ⟨pbuf, wroteStamp, begun⟩ := begun.addWords order [37] rfl (by decide)
  obtain ⟨pbuf, wroteName, begun⟩ := begun.addstring order nfsMachineName rfl (by decide)
  obtain ⟨pbuf, wroteUid, begun⟩ := begun.addWords order [0] rfl (by decide)
  obtain ⟨pbuf, wroteGid, begun⟩ := begun.addWords order [0] rfl (by decide)
  obtain ⟨pbuf, wroteGids, begun⟩ := begun.addWords order [0] rfl (by decide)
  obtain ⟨pbuf, wroteVerf, begun⟩ := begun.addWords order [authNull, 0] rfl (by decide)
  refine ⟨pbuf, ?_, begun⟩
  have size : UInt32.ofNat (5 * 4 + (nfsMachineName.length + (4 - nfsMachineName.length % 4))) =
      28 := rfl
  unfold initbuf
  dsimp only
  rw [if_pos (by decide), size]
  simp only [bind, Except.bind, wroteXid, wroteType, wroteBody, wroteCred, wroteStamp, wroteName,
    wroteUid, wroteGid, wroteGids]
  exact wroteVerf

/-- The transaction identifier at the start of a message. -/
def extractXid (data : List UInt8) : UInt32 :=
  wordAt data 0

end Nfs
end Ipbench
