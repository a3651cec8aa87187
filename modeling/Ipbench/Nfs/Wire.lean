import Ipbench.Nfs.Calls

namespace Ipbench
namespace Nfs

open Foundation

/-!
# The wire format in a packet buffer

A message is a sequence of words, most significant byte first, and of opaque
values: a length, the bytes, and zeros up to the next word.  Writing to a fresh
buffer appends, and reading at a position sees what stands ahead of it.  The
rules here are stated of the bytes, so a writer and a reader meet in them.
-/

/-! ## Encodings -/

/-- The zeros behind an opaque value. -/
def padding (length : Nat) : List UInt8 :=
  List.replicate ((4 - length % 4) % 4) 0

/-- The length that `adddata` writes: four bytes of a variable of eight. -/
def lengthBytes (order : ByteOrder) (length : Nat) : List UInt8 :=
  bswap order ((order.store (UInt64.ofNat length)).take 4)

/-- An opaque value as `adddata` writes it. -/
def opaqueBytes (order : ByteOrder) (data : List UInt8) : List UInt8 :=
  lengthBytes order data.length ++ data ++ padding data.length

@[simp] theorem padding_length (length : Nat) : (padding length).length = (4 - length % 4) % 4 :=
  List.length_replicate

@[simp] theorem lengthBytes_length (order : ByteOrder) (length : Nat) :
    (lengthBytes order length).length = 4 := by
  rw [lengthBytes, bswap_length, List.length_take, ByteOrder.store_length]
  rfl

theorem opaqueBytes_length (order : ByteOrder) (data : List UInt8) :
    (opaqueBytes order data).length = 4 + paddedLength data.length := by
  rw [opaqueBytes, List.length_append, List.length_append, lengthBytes_length, padding_length,
    paddedLength, Nat.add_assoc]

theorem paddedLength_mod (length : Nat) : paddedLength length % 4 = 0 := by
  unfold paddedLength
  omega

theorem lengthBytes_little {length : Nat} (small : length < 0x100000000) :
    lengthBytes .little length = store32 .big (UInt32.ofNat length) := by
  have digits : ∀ value : Nat, (leBytes 8 value).take 4 = leBytes 4 value := fun _ => rfl
  have word : (UInt64.ofNat length).toNat = (UInt32.ofNat length).toNat := by
    rw [UInt64.toNat_ofNat', UInt32.toNat_ofNat', Nat.mod_eq_of_lt small, Nat.mod_eq_of_lt]
    omega
  rw [lengthBytes, ByteOrder.store, digits, word]
  rfl

theorem bswap_store32 (order : ByteOrder) (word : UInt32) :
    bswap order (store32 order word) = store32 .big word := by
  cases order with
  | little => rfl
  | big => rfl

/-- Four bytes are those of the number that they hold. -/
theorem store32_load32 {bytes : List UInt8} (whole : bytes.length = 4) :
    store32 .big (load32 .big bytes) = bytes := by
  have length : bytes.reverse.length = 4 := by rw [List.length_reverse, whole]
  have bound : ofLeBytes bytes.reverse < 2 ^ 32 := by
    have := ofLeBytes_lt bytes.reverse
    rwa [length] at this
  have digits := leBytes_ofLeBytes bytes.reverse
  rw [length] at digits
  rw [load32, store32, UInt32.toNat_ofNat', Nat.mod_eq_of_lt bound, digits, List.reverse_reverse]

theorem bswap_append (order : ByteOrder) {first : List UInt8} (whole : first.length % 4 = 0)
    (second : List UInt8) :
    bswap order (first ++ second) = bswap order first ++ bswap order second := by
  cases order with
  | big => rfl
  | little =>
      change swapWords (first ++ second) = swapWords first ++ swapWords second
      induction first using swapWords.induct with
      | case1 one two three four rest inductionHypothesis =>
          simp only [List.length_cons] at whole
          simp only [List.cons_append, swapWords]
          rw [inductionHypothesis (by omega)]
      | case2 rest short =>
          rcases rest with _ | ⟨one, _ | ⟨two, _ | ⟨three, _ | ⟨four, rest⟩⟩⟩⟩
          · rfl
          · simp at whole
          · simp at whole
          · simp at whole
          · exact (short one two three four rest rfl).elim

/-- Words that are written in the order of the host travel in the other one. -/
theorem bswap_words (order : ByteOrder) (words : List UInt32) :
    bswap order (words.flatMap (store32 order)) = words.flatMap (store32 .big) := by
  induction words with
  | nil => cases order <;> rfl
  | cons word words inductionHypothesis =>
      rw [List.flatMap_cons, List.flatMap_cons, bswap_append order (by simp), bswap_store32,
        inductionHypothesis]

theorem bswap_bswap (order : ByteOrder) (bytes : List UInt8) :
    bswap order (bswap order bytes) = bytes := by
  cases order with
  | big => rfl
  | little =>
      change swapWords (swapWords bytes) = bytes
      induction bytes using swapWords.induct with
      | case1 one two three four rest inductionHypothesis =>
          simp only [swapWords]
          rw [inductionHypothesis]
      | case2 rest short => rw [swapWords.eq_2 rest short, swapWords.eq_2 rest short]

namespace Pbuf

/-! ## Writing -/

/-- A fresh buffer to which bytes have been added. -/
structure Written (pbuf : Pbuf) (bytes : List UInt8) : Prop where
  cursor : pbuf.pos = bytes.length
  content : pbuf.buf = bytes ++ List.replicate (pbufSize - bytes.length) 0

theorem Written.start : Written zeroed [] where
  cursor := rfl
  content := rfl

theorem Written.fits {pbuf : Pbuf} {bytes : List UInt8} (written : Written pbuf bytes) :
    bytes.length ≤ pbufSize := by
  have whole := pbuf.whole
  rw [written.content, List.length_append, List.length_replicate] at whole
  omega

theorem Written.addtobuf {pbuf : Pbuf} {bytes : List UInt8} (written : Written pbuf bytes)
    (order : ByteOrder) (data : List UInt8) (byteswap : Bool)
    (aligned : byteswap = true → bytes.length % 4 = 0 ∧ data.length % 4 = 0)
    (room : bytes.length + data.length ≤ pbufSize) :
    ∃ next, pbuf.addtobuf order data byteswap = .ok next ∧
      Written next (bytes ++ if byteswap then bswap order data else data) := by
  rcases addtobuf_inside order data byteswap written.cursor aligned room with
    ⟨next, added, cursor, content⟩
  have length : (if byteswap then bswap order data else data).length = data.length := by
    split
    · exact bswap_length order data
    · rfl
  refine ⟨next, added, ?_, ?_⟩
  · rw [cursor, List.length_append, length]
  · rw [content, written.content, List.take_left, List.drop_append,
      List.drop_of_length_le (by omega), List.nil_append, List.drop_replicate, List.length_append,
      length]
    congr 2
    omega

theorem Written.addtobuf_outside {pbuf : Pbuf} {bytes : List UInt8} (written : Written pbuf bytes)
    (order : ByteOrder) (data : List UInt8) (long : pbufSize < bytes.length + data.length) :
    pbuf.addtobuf order data false = .error .outside := by
  have beyond : pbuf.pos < 0 ∨ (pbufSize : Int) < pbuf.pos + data.length := by
    rw [written.cursor]
    omega
  unfold Pbuf.addtobuf
  rw [if_neg (by simp), dif_pos beyond]

theorem Written.addWords {pbuf : Pbuf} {bytes : List UInt8} (written : Written pbuf bytes)
    (order : ByteOrder) (words : List UInt32) (aligned : bytes.length % 4 = 0)
    (room : bytes.length + 4 * words.length ≤ pbufSize) :
    ∃ next, pbuf.addWords order words = .ok next ∧
      Written next (bytes ++ words.flatMap (store32 .big)) := by
  have length : (words.flatMap (store32 order)).length = 4 * words.length := by
    rw [List.length_flatMap]
    simp [Nat.mul_comm]
  have added := written.addtobuf order (words.flatMap (store32 order)) true
    (fun _ => ⟨aligned, by omega⟩) (by omega)
  rwa [if_pos rfl, bswap_words] at added

/-- An opaque value appears with its length and padding. -/
theorem Written.adddata {pbuf : Pbuf} {bytes : List UInt8} (written : Written pbuf bytes)
    (order : ByteOrder) (data : List UInt8) (aligned : bytes.length % 4 = 0)
    (room : bytes.length + (opaqueBytes order data).length ≤ pbufSize) :
    ∃ next, pbuf.adddata order data false = .ok next ∧
      Written next (bytes ++ opaqueBytes order data) := by
  rw [opaqueBytes_length, paddedLength] at room
  have four : ((order.store (UInt64.ofNat data.length)).take 4).length = 4 := by
    rw [List.length_take, ByteOrder.store_length]
    rfl
  rcases written.addtobuf order ((order.store (UInt64.ofNat data.length)).take 4) true
    (fun _ => ⟨aligned, by rw [four]⟩) (by omega) with ⟨counted, wroteSize, written⟩
  rw [if_pos rfl] at written
  change Written counted (bytes ++ lengthBytes order data.length) at written
  rcases written.addtobuf order data false (fun impossible => by cases impossible)
    (by rw [List.length_append, lengthBytes_length]; omega) with ⟨copied, wroteData, written⟩
  rw [if_neg (by decide)] at written
  unfold Pbuf.adddata
  simp only [bind, Except.bind, wroteSize, wroteData]
  by_cases whole : data.length % 4 = 0
  · rw [if_neg (not_not.mpr whole)]
    refine ⟨copied, rfl, ?_⟩
    have none_ : padding data.length = [] := by
      rw [padding, whole]
      rfl
    rw [opaqueBytes, none_, List.append_nil, ← List.append_assoc]
    exact written
  · rw [if_pos whole]
    rcases written.addtobuf order (List.replicate (4 - data.length % 4) 0) false
      (fun impossible => by cases impossible)
      (by
        rw [List.length_append, List.length_append, lengthBytes_length, List.length_replicate]
        omega) with ⟨padded, wroteFill, written⟩
    rw [if_neg (by decide)] at written
    refine ⟨padded, wroteFill, ?_⟩
    have fill : padding data.length = List.replicate (4 - data.length % 4) 0 := by
      rw [padding]
      congr 1
      omega
    rw [opaqueBytes, fill, ← List.append_assoc, ← List.append_assoc]
    exact written

/-! ## Reading -/

/-- What stands in the buffer from a position on. -/
def Holds (pbuf : Pbuf) (position : Nat) (bytes : List UInt8) : Prop :=
  bytes <+: pbuf.buf.drop position

theorem holds_append {pbuf : Pbuf} {position : Nat} {first second : List UInt8} :
    pbuf.Holds position (first ++ second) ↔
      pbuf.Holds position first ∧ pbuf.Holds (position + first.length) second := by
  unfold Holds
  constructor
  · rintro ⟨rest, split⟩
    rw [← List.drop_drop, ← split, List.append_assoc, List.drop_left]
    exact ⟨List.prefix_append _ _, List.prefix_append _ _⟩
  · rintro ⟨⟨rest, split⟩, later⟩
    rw [← List.drop_drop, ← split, List.drop_left] at later
    rw [← split]
    exact (List.prefix_append_right_inj first).mpr later

theorem Holds.left {pbuf : Pbuf} {position : Nat} {first second : List UInt8}
    (holds : pbuf.Holds position (first ++ second)) : pbuf.Holds position first :=
  (holds_append.mp holds).1

theorem Holds.right {pbuf : Pbuf} {position : Nat} {first second : List UInt8}
    (holds : pbuf.Holds position (first ++ second)) :
    pbuf.Holds (position + first.length) second :=
  (holds_append.mp holds).2

theorem Holds.take_eq {pbuf : Pbuf} {position : Nat} {bytes : List UInt8}
    (holds : pbuf.Holds position bytes) :
    (pbuf.buf.drop position).take bytes.length = bytes := by
  rcases holds with ⟨rest, split⟩
  rw [← split, List.take_left]

/-- Bytes that stand in the buffer do not reach beyond it. -/
theorem Holds.inside {pbuf : Pbuf} {position : Nat} {bytes : List UInt8}
    (holds : pbuf.Holds position bytes) (within : position ≤ pbufSize) :
    position + bytes.length ≤ pbufSize := by
  have length := holds.length_le
  rw [List.length_drop, pbuf.whole] at length
  omega

theorem holds_take {pbuf : Pbuf} {position len : Nat} :
    pbuf.Holds position ((pbuf.buf.drop position).take len) :=
  List.take_prefix _ _

theorem Written.holds {pbuf : Pbuf} {bytes : List UInt8} (written : Written pbuf bytes) :
    pbuf.Holds 0 bytes := by
  unfold Holds
  rw [List.drop_zero, written.content]
  exact List.prefix_append _ _

theorem holds_word {pbuf : Pbuf} {position : Nat} (inside : position + 4 ≤ pbufSize) :
    pbuf.Holds position (store32 .big (wordAt pbuf.buf position)) := by
  have whole : ((pbuf.buf.drop position).take 4).length = 4 := by
    rw [List.length_take, List.length_drop, pbuf.whole]
    omega
  rw [wordAt, store32_load32 whole]
  exact holds_take

section Read

variable {pbuf : Pbuf} {position : Nat}

theorem Holds.wordAt {word : UInt32} (holds : pbuf.Holds position (store32 .big word)) :
    wordAt pbuf.buf position = word := by
  have bytes := holds.take_eq
  rw [store32_length] at bytes
  rw [Nfs.wordAt, bytes, load32_store32]

theorem Holds.getWord {word : UInt32} (holds : pbuf.Holds position (store32 .big word))
    (order : ByteOrder) (aligned : position % 4 = 0) (within : position ≤ pbufSize) :
    (pbuf.at_ position).getWord order = .ok (word, pbuf.at_ (position + 4)) := by
  have inside := holds.inside within
  rw [store32_length] at inside
  rw [pbuf.getWord_at order aligned inside, holds.wordAt]

/-- A word that can be read lies inside the buffer. -/
theorem getWord_ok {order : ByteOrder} {word : UInt32} {next : Pbuf}
    (aligned : position % 4 = 0) (read : (pbuf.at_ position).getWord order = .ok (word, next)) :
    pbuf.Holds position (store32 .big word) ∧ next = pbuf.at_ (position + 4) := by
  by_cases inside : position + 4 ≤ pbufSize
  · rw [pbuf.getWord_at order aligned inside] at read
    cases read
    exact ⟨holds_word inside, rfl⟩
  · have refused : (pbuf.at_ position).getfrombuf order 4 true = .error .outside := by
      unfold Pbuf.getfrombuf at_
      dsimp only
      rw [if_neg (by omega), if_pos (by omega)]
    rw [Pbuf.getWord, refused] at read
    cases read

theorem Holds.getfrombuf {bytes : List UInt8} (holds : pbuf.Holds position bytes)
    (order : ByteOrder) (within : position ≤ pbufSize) :
    (pbuf.at_ position).getfrombuf order bytes.length false =
      .ok (bytes, pbuf.at_ (position + bytes.length)) := by
  have inside := holds.inside within
  unfold Pbuf.getfrombuf at_
  dsimp only
  rw [if_neg (by simp), if_neg (by omega), Int.toNat_natCast, holds.take_eq]
  simp

/-- Bytes that can be copied lie inside the buffer. -/
theorem getfrombuf_ok {order : ByteOrder} {len : Nat} {bytes : List UInt8} {next : Pbuf}
    (read : (pbuf.at_ position).getfrombuf order len false = .ok (bytes, next)) :
    pbuf.Holds position bytes ∧ bytes.length = len ∧ position + len ≤ pbufSize := by
  unfold Pbuf.getfrombuf at_ at read
  dsimp only at read
  rw [if_neg (by simp)] at read
  split at read
  · cases read
  · have inside : position + len ≤ pbufSize := by omega
    simp only [Except.ok.injEq, Prod.mk.injEq, Int.toNat_natCast] at read
    rcases read with ⟨rfl, _⟩
    refine ⟨holds_take, ?_, inside⟩
    simp only [Bool.false_eq_true, if_false, List.length_take, List.length_drop, pbuf.whole]
    omega

end Read

/-! ## Opaque values -/

theorem asInt32_ofNat {length : Nat} (small : length < 0x80000000) :
    asInt32 (UInt32.ofNat length) = length := by
  have number : (UInt32.ofNat length).toNat = length := by
    rw [UInt32.toNat_ofNat', Nat.mod_eq_of_lt]
    omega
  rw [asInt32, number, if_pos small]

theorem padSize_natCast {length : Nat} (small : length < 0x7FFFFFF0) :
    padSize length = .ok (paddedLength length : Nat) := by
  have remainder : (length : Int).tmod 4 = (length % 4 : Nat) := rfl
  unfold padSize paddedLength
  rw [remainder]
  split
  · congr 1
    omega
  · split
    · omega
    · congr 1
      omega

theorem skip_at (pbuf : Pbuf) (position len : Nat) :
    (pbuf.at_ position).skip len = pbuf.at_ (position + len) := by
  unfold skip at_
  rw [Nat.cast_add]

/-- What the caller's block holds after `data` has been copied into it. -/
def filled (data block : List UInt8) (null : Bool) : List UInt8 :=
  if null then data ++ 0 :: block.drop (data.length + 1) else data ++ block.drop data.length

section Opaque

variable {pbuf : Pbuf} {position : Nat} {data pad : List UInt8}

theorem Holds.opaque_inside
    (holds : pbuf.Holds position (store32 .big (UInt32.ofNat data.length) ++ data ++ pad))
    (padded : pad.length = (4 - data.length % 4) % 4) (within : position ≤ pbufSize) :
    position + 4 + paddedLength data.length ≤ pbufSize := by
  have inside := holds.inside within
  rw [List.length_append, List.length_append, store32_length, padded] at inside
  unfold paddedLength
  omega

theorem Holds.skipstring
    (holds : pbuf.Holds position (store32 .big (UInt32.ofNat data.length) ++ data ++ pad))
    (padded : pad.length = (4 - data.length % 4) % 4) (order : ByteOrder)
    (aligned : position % 4 = 0) (within : position ≤ pbufSize) :
    (pbuf.at_ position).skipstring order =
      .ok (pbuf.at_ (position + 4 + paddedLength data.length)) := by
  have inside := holds.opaque_inside padded within
  have small : data.length < 0x7FFFFFF0 := by
    unfold paddedLength pbufSize at inside
    omega
  unfold Pbuf.skipstring
  simp only [bind, Except.bind, holds.left.left.getWord order aligned within]
  rw [asInt32_ofNat (by omega), padSize_natCast small]
  simp only [pure, Except.pure, skip_at]

/-- A block with room for the bytes and a terminator receives them. -/
theorem Holds.getdata
    (holds : pbuf.Holds position (store32 .big (UInt32.ofNat data.length) ++ data ++ pad))
    (padded : pad.length = (4 - data.length % 4) % 4) (order : ByteOrder)
    (aligned : position % 4 = 0) (within : position ≤ pbufSize) {block : List UInt8} {len : Nat}
    (shorter : data.length < len) (room : data.length < block.length) (null : Bool) :
    (pbuf.at_ position).getdata order block len null false =
      .ok (data.length, filled data block null,
        pbuf.at_ (position + 4 + paddedLength data.length)) := by
  have inside := holds.opaque_inside padded within
  have small : data.length < 0x7FFFFFF0 := by
    unfold paddedLength pbufSize at inside
    omega
  have ahead := holds.left.right
  rw [store32_length] at ahead
  have number : ((data.length : Int) % 0x10000000000000000).toNat = data.length := by
    omega
  have after : (pbuf.at_ (position + 4 + data.length)).skip
      (((paddedLength data.length : Nat) : Int) - data.length) =
        pbuf.at_ (position + 4 + paddedLength data.length) := by
    unfold skip at_
    simp only [Pbuf.mk.injEq, and_true]
    omega
  unfold Pbuf.getdata
  rw [if_neg (by omega)]
  simp only [bind, Except.bind, holds.left.left.getWord order aligned within]
  rw [asInt32_ofNat (by omega), if_pos (by omega), padSize_natCast small]
  dsimp only
  rw [number, ahead.getfrombuf order (by unfold paddedLength at inside; omega)]
  dsimp only
  rw [after, if_neg (by omega)]
  cases null with
  | false => simp only [filled, Bool.false_eq_true, if_false, pure, Except.pure]
  | true =>
      have longer : data.length < (data ++ block.drop data.length).length := by
        rw [List.length_append, List.length_drop]
        omega
      rw [if_pos rfl, if_pos longer]
      have ended : (data ++ block.drop data.length).set data.length 0 =
          data ++ 0 :: block.drop (data.length + 1) := by
        rw [List.set_append_right _ _ (Nat.le_refl _), Nat.sub_self, List.drop_eq_getElem_cons room]
        rfl
      rw [ended]
      simp only [filled, if_true, pure, Except.pure]

end Opaque

end Pbuf

end Nfs
end Ipbench
