import Ipbench.Nfs.Wire

namespace Ipbench
namespace Nfs

open Foundation

/-!
# Reading back what was written

A message is written item by item to a fresh buffer and read from its start in
the same order.  Words are copied with their bytes swapped, strings without; a
reader copies a string into a block of its own or moves over it.
-/

/-! ## Messages -/

/-- What is written, and how it is read: a word, a string that is copied into a
block, with or without a terminator, or a string that is skipped. -/
inductive Item where
  | word (value : UInt32)
  | copied (bytes block : List UInt8) (null : Bool)
  | skipped (bytes : List UInt8)
deriving DecidableEq, Repr

/-- What a reader has: a word, a length and its block, or nothing. -/
inductive Got where
  | word (value : UInt32)
  | copied (len : Int) (block : List UInt8)
  | skipped
deriving DecidableEq, Repr

namespace Item

def write (order : ByteOrder) (pbuf : Pbuf) : Item → Except Fault Pbuf
  | word value => pbuf.addWords order [value]
  | copied bytes _ _ => pbuf.adddata order bytes false
  | skipped bytes => pbuf.adddata order bytes false

/-- Reading does not look at the values that were written. -/
def read (order : ByteOrder) (pbuf : Pbuf) : Item → Except Fault (Got × Pbuf)
  | word _ => (pbuf.getWord order).map fun (value, pbuf) => (.word value, pbuf)
  | copied _ block null =>
      (pbuf.getdata order block block.length null false).map fun (len, block, pbuf) =>
        (.copied len block, pbuf)
  | skipped _ => (pbuf.skipstring order).map fun pbuf => (.skipped, pbuf)

def got : Item → Got
  | word value => .word value
  | copied bytes block null => .copied bytes.length (Pbuf.filled bytes block null)
  | skipped _ => .skipped

/-- A block is longer than the string that is copied into it. -/
def Room : Item → Prop
  | copied bytes block _ => bytes.length < block.length
  | _ => True

/-- The number of bytes that an item occupies in a message. -/
def size : Item → Nat
  | word _ => 4
  | copied bytes _ _ => 4 + paddedLength bytes.length
  | skipped bytes => 4 + paddedLength bytes.length

/-- The bytes of an item in a message. -/
def encoding : Item → List UInt8
  | word value => store32 .big value
  | copied bytes _ _ => opaqueBytes .little bytes
  | skipped bytes => opaqueBytes .little bytes

end Item

/-- Write the items of a message, and note the cursor after each. -/
def writeAll (order : ByteOrder) : Pbuf → List Item → Except Fault (Pbuf × List Int)
  | pbuf, [] => pure (pbuf, [])
  | pbuf, item :: rest => do
      let next ← item.write order pbuf
      let (last, cursors) ← writeAll order next rest
      pure (last, next.pos :: cursors)

/-- Read the items of a message, and note the cursor after each. -/
def readAll (order : ByteOrder) : Pbuf → List Item → Except Fault (List Got × List Int)
  | _, [] => pure ([], [])
  | pbuf, item :: rest => do
      let (got, next) ← item.read order pbuf
      let (gots, cursors) ← readAll order next rest
      pure (got :: gots, next.pos :: cursors)

/-- The cursors after the items of a message that begins at a position. -/
def cursorsFrom : Nat → List Item → List Int
  | _, [] => []
  | position, item :: rest =>
      ((position + item.size : Nat) : Int) :: cursorsFrom (position + item.size) rest

/-! ## One item -/

namespace Item

variable (item : Item)

theorem encoding_length : item.encoding.length = item.size := by
  cases item with
  | word value => exact store32_length .big value
  | copied bytes block null => exact opaqueBytes_length .little bytes
  | skipped bytes => exact opaqueBytes_length .little bytes

theorem size_mod : item.size % 4 = 0 := by
  cases item with
  | word value => exact Nat.mod_self 4
  | copied bytes block null =>
      have whole := paddedLength_mod bytes.length
      change (4 + paddedLength bytes.length) % 4 = 0
      omega
  | skipped bytes =>
      have whole := paddedLength_mod bytes.length
      change (4 + paddedLength bytes.length) % 4 = 0
      omega

theorem write_written {pbuf : Pbuf} {before : List UInt8} (written : pbuf.Written before)
    (aligned : before.length % 4 = 0) (room : before.length + item.size ≤ pbufSize) :
    ∃ next, item.write .little pbuf = .ok next ∧ next.Written (before ++ item.encoding) := by
  cases item with
  | word value =>
      have added := written.addWords .little [value] aligned room
      rwa [List.flatMap_singleton] at added
  | copied bytes block null =>
      exact written.adddata .little bytes aligned (by rw [opaqueBytes_length]; exact room)
  | skipped bytes =>
      exact written.adddata .little bytes aligned (by rw [opaqueBytes_length]; exact room)

variable {item}

/-- Reading an item that stands ahead gives what was written. -/
theorem read_holds {pbuf : Pbuf} {position : Nat} (holds : pbuf.Holds position item.encoding)
    (aligned : position % 4 = 0) (within : position ≤ pbufSize) (room : item.Room) :
    item.read .little (pbuf.at_ position) =
      .ok (item.got, pbuf.at_ (position + item.size)) := by
  have inside := holds.inside within
  rw [item.encoding_length] at inside
  have spelled : ∀ bytes : List UInt8, 4 + paddedLength bytes.length ≤ pbufSize →
      opaqueBytes .little bytes =
        store32 .big (UInt32.ofNat bytes.length) ++ bytes ++ padding bytes.length := by
    intro bytes short
    unfold paddedLength pbufSize at short
    rw [opaqueBytes, lengthBytes_little (by omega)]
  cases item with
  | word value =>
      have read := Pbuf.Holds.getWord holds .little aligned within
      rw [Item.read, read]
      rfl
  | copied bytes block null =>
      have short : position + (4 + paddedLength bytes.length) ≤ pbufSize := inside
      rw [encoding, spelled bytes (by omega)] at holds
      have longer : bytes.length < block.length := room
      have read := holds.getdata (padding_length _) .little aligned within longer longer null
      rw [Item.read, read, got, size, ← Nat.add_assoc]
      rfl
  | skipped bytes =>
      have short : position + (4 + paddedLength bytes.length) ≤ pbufSize := inside
      rw [encoding, spelled bytes (by omega)] at holds
      have read := holds.skipstring (padding_length _) .little aligned within
      rw [Item.read, read, got, size, ← Nat.add_assoc]
      rfl

end Item

/-! ## A whole message -/

theorem cursorsFrom_mod {position : Nat} (aligned : position % 4 = 0) (items : List Item) :
    ∀ cursor ∈ cursorsFrom position items, cursor % 4 = 0 := by
  induction items generalizing position with
  | nil => exact fun cursor member => absurd member List.not_mem_nil
  | cons item rest inductionHypothesis =>
      have whole := item.size_mod
      have next : (position + item.size) % 4 = 0 := by omega
      refine List.forall_mem_cons.mpr ⟨by omega, inductionHypothesis next⟩

/-- Writing a message appends the encodings of its items. -/
theorem writeAll_written {items : List Item} {pbuf : Pbuf} {before : List UInt8}
    (written : pbuf.Written before) (aligned : before.length % 4 = 0)
    (room : before.length + (items.map Item.size).sum ≤ pbufSize) :
    ∃ last, writeAll .little pbuf items = .ok (last, cursorsFrom before.length items) ∧
      last.Written (before ++ items.flatMap Item.encoding) := by
  induction items generalizing pbuf before with
  | nil => exact ⟨pbuf, rfl, by rwa [List.flatMap_nil, List.append_nil]⟩
  | cons item rest inductionHypothesis =>
      rw [List.map_cons, List.sum_cons] at room
      have whole := item.size_mod
      have length : (before ++ item.encoding).length = before.length + item.size := by
        rw [List.length_append, item.encoding_length]
      rcases item.write_written written aligned (by omega) with ⟨next, wrote, after⟩
      rcases inductionHypothesis after (by omega) (by omega) with ⟨last, wroteRest, final⟩
      refine ⟨last, ?_, ?_⟩
      · rw [writeAll, wrote]
        simp only [bind, Except.bind, wroteRest, pure, Except.pure, cursorsFrom, after.cursor,
          length]
      · rwa [List.flatMap_cons, ← List.append_assoc]

/-- Reading a message that stands ahead gives its items. -/
theorem readAll_holds {items : List Item} {pbuf : Pbuf} {position : Nat}
    (holds : pbuf.Holds position (items.flatMap Item.encoding)) (aligned : position % 4 = 0)
    (within : position ≤ pbufSize) (room : ∀ item ∈ items, item.Room) :
    readAll .little (pbuf.at_ position) items =
      .ok (items.map Item.got, cursorsFrom position items) := by
  induction items generalizing position with
  | nil => rfl
  | cons item rest inductionHypothesis =>
      rw [List.flatMap_cons] at holds
      have whole := item.size_mod
      have inside := holds.left.inside within
      have later := holds.right
      rw [item.encoding_length] at inside later
      have here := Item.read_holds holds.left aligned within (room item List.mem_cons_self)
      have others := inductionHypothesis later (by omega) inside
        (fun other member => room other (List.mem_cons_of_mem _ member))
      rw [readAll, here]
      simp only [bind, Except.bind, others, pure, Except.pure, List.map_cons, cursorsFrom]
      rfl

/-- On a little-endian host, a message that fits into a buffer is read back item
by item, with the cursors that its writer had, all at whole words. -/
theorem xdr_roundTrip (items : List Item)
    (fits : (items.map Item.size).sum ≤ pbufSize) (room : ∀ item ∈ items, item.Room) :
    ∃ last cursors, writeAll .little Pbuf.zeroed items = .ok (last, cursors) ∧
      readAll .little (last.at_ 0) items = .ok (items.map Item.got, cursors) ∧
      ∀ cursor ∈ cursors, cursor % 4 = 0 := by
  rcases writeAll_written Pbuf.Written.start rfl (by rwa [List.length_nil, Nat.zero_add]) with
    ⟨last, wrote, written⟩
  rw [List.nil_append] at written
  exact ⟨last, _, wrote, readAll_holds written.holds rfl (Nat.zero_le _) room,
    cursorsFrom_mod rfl items⟩

theorem xdr_roundTrip_three :
    ∃ last cursors,
      writeAll .little Pbuf.zeroed
          [.copied [98, 111, 103, 103, 111] (List.replicate 8 0) true, .word 37, .skipped [97]] =
        .ok (last, cursors) ∧
      readAll .little (last.at_ 0)
          [.copied [98, 111, 103, 103, 111] (List.replicate 8 0) true, .word 37, .skipped [97]] =
        .ok ([.copied 5 [98, 111, 103, 103, 111, 0, 0, 0], .word 37, .skipped], cursors) ∧
      ∀ cursor ∈ cursors, cursor % 4 = 0 :=
  xdr_roundTrip [.copied [98, 111, 103, 103, 111] (List.replicate 8 0) true, .word 37,
    .skipped [97]] (by decide) (by simp [Item.Room])

end Nfs
end Ipbench
