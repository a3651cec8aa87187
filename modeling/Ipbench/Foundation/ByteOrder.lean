import Mathlib.Data.Nat.ModEq
import Mathlib.Tactic.Ring

namespace Ipbench
namespace Foundation

/-!
# Words in memory

A 64-bit word occupies eight bytes, least significant byte first on a
little-endian host and last on a big-endian one.  `load` reads such a word
back; it is the inverse of `store` for each order.
-/

/-- The `width` lowest base-256 digits, least significant first. -/
def leBytes : (width value : Nat) → List UInt8
  | 0, _ => []
  | width + 1, value => UInt8.ofNat value :: leBytes width (value / 256)

/-- The number with the given base-256 digits, least significant first. -/
def ofLeBytes : List UInt8 → Nat
  | [] => 0
  | byte :: rest => byte.toNat + 256 * ofLeBytes rest

@[simp] theorem leBytes_length (width value : Nat) : (leBytes width value).length = width := by
  induction width generalizing value with
  | zero => rfl
  | succ width inductionHypothesis =>
      rw [leBytes, List.length_cons, inductionHypothesis]

theorem ofLeBytes_leBytes (width value : Nat) :
    ofLeBytes (leBytes width value) = value % 256 ^ width := by
  induction width generalizing value with
  | zero => rw [Nat.pow_zero, Nat.mod_one]; rfl
  | succ width inductionHypothesis =>
      calc
        ofLeBytes (leBytes (width + 1) value) =
            value % 256 + 256 * (value / 256 % 256 ^ width) := by
          rw [leBytes, ofLeBytes, inductionHypothesis, UInt8.toNat_ofNat']
        _ = value % (256 * 256 ^ width) := (Nat.mod_mul).symm
        _ = value % 256 ^ (width + 1) := by rw [Nat.pow_succ, Nat.mul_comm]

theorem leBytes_ofLeBytes (bytes : List UInt8) :
    leBytes bytes.length (ofLeBytes bytes) = bytes := by
  induction bytes with
  | nil => rfl
  | cons byte rest inductionHypothesis =>
      have digit := byte.toNat_lt
      have low : UInt8.ofNat (byte.toNat + 256 * ofLeBytes rest) = byte := by
        rw [← UInt8.toNat_inj, UInt8.toNat_ofNat']
        omega
      have high : (byte.toNat + 256 * ofLeBytes rest) / 256 = ofLeBytes rest := by omega
      rw [List.length_cons, ofLeBytes, leBytes, low, high, inductionHypothesis]

theorem ofLeBytes_lt (bytes : List UInt8) : ofLeBytes bytes < 256 ^ bytes.length := by
  induction bytes with
  | nil => exact Nat.one_pos
  | cons byte rest inductionHypothesis =>
      have digit := byte.toNat_lt
      rw [ofLeBytes, List.length_cons, Nat.pow_succ]
      omega

theorem ofLeBytes_eq_zero {bytes : List UInt8} :
    ofLeBytes bytes = 0 ↔ ∀ byte ∈ bytes, byte = 0 := by
  induction bytes with
  | nil => exact iff_of_true rfl fun byte member => absurd member List.not_mem_nil
  | cons byte rest inductionHypothesis =>
      have digit : byte.toNat = 0 ↔ byte = 0 := UInt8.toNat_inj (b := 0)
      rw [ofLeBytes, List.forall_mem_cons, ← inductionHypothesis, ← digit]
      omega

/-- The order in which a host stores the bytes of a word. -/
inductive ByteOrder where
  | little
  | big
deriving DecidableEq, Repr

namespace ByteOrder

/-- The eight bytes of a word in memory. -/
def store : ByteOrder → UInt64 → List UInt8
  | little, word => leBytes 8 word.toNat
  | big, word => (leBytes 8 word.toNat).reverse

/-- The word whose bytes stand in memory. -/
def load : ByteOrder → List UInt8 → UInt64
  | little, bytes => UInt64.ofNat (ofLeBytes bytes)
  | big, bytes => UInt64.ofNat (ofLeBytes bytes.reverse)

@[simp] theorem store_length (order : ByteOrder) (word : UInt64) :
    (order.store word).length = 8 := by
  cases order with
  | little => exact leBytes_length 8 _
  | big => rw [store, List.length_reverse, leBytes_length]

@[simp] theorem load_store (order : ByteOrder) (word : UInt64) :
    order.load (order.store word) = word := by
  have digits : UInt64.ofNat (ofLeBytes (leBytes 8 word.toNat)) = word := by
    have bound : word.toNat < 256 ^ 8 := word.toNat_lt
    rw [ofLeBytes_leBytes, Nat.mod_eq_of_lt bound, UInt64.ofNat_toNat]
  cases order with
  | little => exact digits
  | big => rw [load, store, List.reverse_reverse, digits]

end ByteOrder

end Foundation
end Ipbench
