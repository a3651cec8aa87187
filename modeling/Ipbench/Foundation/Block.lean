import Mathlib.Data.List.Basic
import Mathlib.Tactic.Common

namespace Ipbench
namespace Foundation

/-!
# Blocks of memory

A pointer is null or points to a block, which is a list of bytes.  What does
not stay inside its block is `none`: copying more bytes than the source has or
than the target has room for, and reading a string that no zero byte ends.  A
memory refuses a request or answers it with a block of the requested size,
whose bytes may be any.
-/

/-- The answers of `malloc`. -/
structure Allocator where
  malloc : Nat → Option (List UInt8)
  size : ∀ {request : Nat} {block : List UInt8}, malloc request = some block →
    block.length = request

/-- A memory that grants every request that is chosen, with zero bytes. -/
def Allocator.zeros (chosen : Nat → Bool) : Allocator where
  malloc := fun request =>
    if chosen request then some (List.replicate request 0) else none
  size := by
    intro request block granted
    split at granted
    · cases granted
      exact List.length_replicate
    · cases granted

/-- Copy the first bytes of a source to an offset of a target. -/
def memcpy (target : List UInt8) (offset : Nat) (source : List UInt8) (count : Nat) :
    Option (List UInt8) :=
  if count ≤ source.length ∧ offset + count ≤ target.length then
    some (target.take offset ++ source.take count ++ target.drop (offset + count))
  else none

def bzero (block : List UInt8) (count : Nat) : Option (List UInt8) :=
  memcpy block 0 (List.replicate count 0) count

/-- A new block with a copy of a string; a refused request is not noticed. -/
def copyString (memory : Allocator) (text : List UInt8) : Option (List UInt8) := do
  let block ← memory.malloc (text.length + 1)
  memcpy block 0 (text ++ [0]) (text.length + 1)

/-- The bytes of a string, without the zero byte that ends it. -/
def readString (block : List UInt8) : Option (List UInt8) :=
  if 0 ∈ block then some (block.takeWhile fun byte => byte != 0) else none

theorem memcpy_isSome {target source : List UInt8} {offset count : Nat} :
    (memcpy target offset source count).isSome = true ↔
      count ≤ source.length ∧ offset + count ≤ target.length := by
  unfold memcpy
  split
  · next inside => simp [inside]
  · next outside => simp [outside]

/-- A copy changes the bytes of its target and not their number. -/
theorem memcpy_length {target source result : List UInt8} {offset count : Nat}
    (copied : memcpy target offset source count = some result) :
    result.length = target.length := by
  unfold memcpy at copied
  split at copied
  · next inside =>
      cases copied
      simp only [List.length_append, List.length_take, List.length_drop]
      omega
  · cases copied

/-- A block of the size of the source is filled by it. -/
theorem memcpy_fill {target source : List UInt8} (same : target.length = source.length) :
    memcpy target 0 source source.length = some source := by
  unfold memcpy
  rw [if_pos ⟨Nat.le_refl _, Nat.le_of_eq (by rw [Nat.zero_add, same])⟩, Nat.zero_add, ← same,
    List.drop_length, same, List.take_length, List.take_zero, List.nil_append, List.append_nil]

/-- Two copies, one behind the other, fill a block with both sources. -/
theorem memcpy_both {target first second : List UInt8}
    (whole : target.length = first.length + second.length) :
    (memcpy target 0 first first.length).bind
        (fun kept => memcpy kept first.length second second.length) =
      some (first ++ second) := by
  have room : first.length ≤ first.length ∧ 0 + first.length ≤ target.length := by omega
  have kept : memcpy target 0 first first.length = some (first ++ target.drop first.length) := by
    unfold memcpy
    rw [if_pos room, Nat.zero_add, List.take_length, List.take_zero, List.nil_append]
  have rest : (first ++ target.drop first.length).length = first.length + second.length := by
    rw [memcpy_length kept, whole]
  rw [kept, Option.bind_some, memcpy, if_pos ⟨Nat.le_refl _, Nat.le_of_eq rest.symm⟩,
    List.take_length, List.take_left, ← rest, List.drop_length, List.append_nil]

theorem bzero_fill {block : List UInt8} {count : Nat} (whole : block.length = count) :
    bzero block count = some (List.replicate count 0) := by
  have same : block.length = (List.replicate count (0 : UInt8)).length := by simp [whole]
  have filled := memcpy_fill same
  rwa [List.length_replicate] at filled

theorem copyString_isSome {memory : Allocator} {text : List UInt8} :
    (copyString memory text).isSome = true ↔ (memory.malloc (text.length + 1)).isSome = true := by
  unfold copyString
  cases granted : memory.malloc (text.length + 1) with
  | none => simp
  | some block =>
      have same : block.length = (text ++ [0]).length := by simp [memory.size granted]
      have filled := memcpy_fill same
      rw [List.length_append] at filled
      simp [show memcpy block 0 (text ++ [0]) (text.length + 1) = some (text ++ [0]) from filled]

theorem readString_isSome {block : List UInt8} :
    (readString block).isSome = true ↔ 0 ∈ block := by
  unfold readString
  split
  · next ended => simp [ended]
  · next endless => simp [endless]

end Foundation
end Ipbench
