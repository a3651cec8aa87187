import Mathlib.Data.List.Basic

namespace Ipbench
namespace Foundation

/-!
# Unsigned 64-bit arithmetic

A computation on 64-bit words is read as one on natural numbers where it does
not wrap: an increment below a bound and a difference of words in order do not.
-/

theorem toNat_succ_of_lt {first second : UInt64} (below : first < second) :
    (first + 1).toNat = first.toNat + 1 := by
  have order := UInt64.lt_iff_toNat_lt.mp below
  have bound := second.toNat_lt
  rw [UInt64.toNat_add, UInt64.toNat_one]
  exact Nat.mod_eq_of_lt (by omega)

/-- A difference of two words in order is one of numbers. -/
theorem toNat_sub_add {first second : UInt64} (order : first ≤ second) :
    (second - first).toNat + first.toNat = second.toNat := by
  have below := UInt64.le_iff_toNat_le.mp order
  rw [UInt64.toNat_sub_of_le _ _ order]
  exact Nat.sub_add_cancel below

end Foundation
end Ipbench
