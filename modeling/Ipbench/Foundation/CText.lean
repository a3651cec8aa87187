import Mathlib.Data.List.Basic
import Mathlib.Data.List.TakeWhile
import Mathlib.Tactic.Common
import Mathlib.Logic.Function.Defs

namespace Ipbench
namespace Foundation

/-!
# Strings and numbers of C

A string is a list of bytes without a zero byte.  `strtoll` skips white space,
takes a sign and the decimal digits after it, and stays within its range.  The
product of two signed integers is `none` where it leaves the range, since its
overflow is undefined.  A text of numbers, each on a line of its own, determines
the numbers.
-/

/-- A string, without the zero byte that ends it. -/
structure CString where
  bytes : List UInt8
  ended : 0 ∉ bytes

/-- The bytes of a literal of ASCII characters. -/
def literal (text : String) : List UInt8 :=
  text.toList.map fun char => UInt8.ofNat char.toNat

/-- The function `isspace`. -/
def isSpaceByte (byte : UInt8) : Bool :=
  byte == 32 || (9 ≤ byte && byte ≤ 13)

def isDigitByte (byte : UInt8) : Bool :=
  48 ≤ byte && byte ≤ 57

/-- The number that the digits at the front of a text stand for. -/
def leadingNumber (text : List UInt8) : Nat :=
  (text.takeWhile isDigitByte).foldl (fun value digit => 10 * value + (digit.toNat - 48)) 0

/-- The range of `long long`. -/
def InInt64 (value : Int) : Prop :=
  -0x8000000000000000 ≤ value ∧ value < 0x8000000000000000

instance (value : Int) : Decidable (InInt64 value) :=
  inferInstanceAs (Decidable (_ ∧ _))

/-- The value of the range that is nearest to a number. -/
def saturateInt64 (value : Int) : Int :=
  max (-0x8000000000000000) (min value 0x7FFFFFFFFFFFFFFF)

/-- `strtoll` with base ten. -/
def strtoll (text : List UInt8) : Int :=
  match text.dropWhile isSpaceByte with
  | 45 :: digits => saturateInt64 (-leadingNumber digits)
  | 43 :: digits => saturateInt64 (leadingNumber digits)
  | digits => saturateInt64 (leadingNumber digits)

/-- A product of two `long long`. -/
def mulInt64 (left right : Int) : Option Int :=
  if InInt64 (left * right) then some (left * right) else none

/-- Conversion to `uint64_t`. -/
def asUint64 (value : Int) : UInt64 :=
  UInt64.ofNat (value % 0x10000000000000000).toNat

theorem toNat_asUint64 {value : Nat} (small : value < 0x10000000000000000) :
    (asUint64 value).toNat = value := by
  unfold asUint64
  rw [UInt64.toNat_ofNat']
  omega

/-- What stands before the first byte of a kind, and what stands after it. -/
def splitAtByte (separator : UInt8) (text : List UInt8) : List UInt8 × Option (List UInt8) :=
  (text.takeWhile fun byte => byte != separator,
    match text.dropWhile fun byte => byte != separator with
    | [] => none
    | _ :: rest => some rest)

theorem splitAtByte_of_not_mem {separator : UInt8} {text : List UInt8}
    (absent : separator ∉ text) : splitAtByte separator text = (text, none) := by
  have other : ∀ byte ∈ text, (byte != separator) = true := fun byte member => by
    simpa using fun same : byte = separator => absent (same ▸ member)
  rw [splitAtByte, List.takeWhile_eq_self_iff.mpr other, List.dropWhile_eq_nil_iff.mpr other]

theorem splitAtByte_append {separator : UInt8} {front : List UInt8} (absent : separator ∉ front)
    (rest : List UInt8) :
    splitAtByte separator (front ++ separator :: rest) = (front, some rest) := by
  have other : ∀ byte ∈ front, (byte != separator) = true := fun byte member => by
    simpa using fun same : byte = separator => absent (same ▸ member)
  rw [splitAtByte, List.takeWhile_append_of_pos other, List.dropWhile_append_of_pos other]
  simp

example : strtoll (literal " -12x") = -12 ∧ strtoll (literal "x") = 0 := by decide

/-! ## Printed numbers -/

def decimalDigits (value : Nat) : List UInt8 :=
  (Nat.toDigits 10 value).map fun char => UInt8.ofNat char.toNat

/-- What `printf` writes for `%d`. -/
def decimal (value : Int) : List UInt8 :=
  if value < 0 then 45 :: decimalDigits value.natAbs else decimalDigits value.natAbs

def numberLines (values : List Int) : List UInt8 :=
  values.flatMap fun value => decimal value ++ [10]

theorem toNat_digit {char : Char} (digit : char.isDigit = true) :
    (UInt8.ofNat char.toNat).toNat = char.toNat ∧ 48 ≤ char.toNat ∧ char.toNat ≤ 57 := by
  rw [Char.isDigit_iff_toNat] at digit
  have bounds : 48 ≤ char.toNat ∧ char.toNat ≤ 57 := digit
  exact ⟨UInt8.toNat_ofNat_of_lt' (Nat.lt_of_le_of_lt bounds.2 (by decide)), bounds⟩

theorem digit_of_mem_decimalDigits {value : Nat} {byte : UInt8}
    (member : byte ∈ decimalDigits value) : 48 ≤ byte.toNat ∧ byte.toNat ≤ 57 := by
  rcases List.mem_map.mp member with ⟨char, among, rfl⟩
  have digit : char.isDigit = true := Nat.isDigit_of_mem_toDigits (by decide) (by decide) among
  rw [(toNat_digit digit).1]
  exact (toNat_digit digit).2

theorem leadingNumber_decimalDigits (value : Nat) :
    leadingNumber (decimalDigits value) = value := by
  have digits : ∀ char ∈ Nat.toDigits 10 value, char.isDigit = true :=
    fun char => Nat.isDigit_of_mem_toDigits (by decide) (by decide)
  have whole : (decimalDigits value).takeWhile isDigitByte = decimalDigits value := by
    rw [List.takeWhile_eq_self_iff]
    intro byte member
    have bounds := digit_of_mem_decimalDigits member
    simp [isDigitByte, UInt8.le_iff_toNat_le, bounds]
  have folded : ∀ (chars : List Char) (start : Nat), (∀ char ∈ chars, char.isDigit = true) →
      (chars.map fun char => UInt8.ofNat char.toNat).foldl
        (fun value digit => 10 * value + (digit.toNat - 48)) start =
          Nat.ofDigitChars 10 chars start := by
    intro chars
    induction chars with
    | nil => exact fun start _ => rfl
    | cons char rest inductionHypothesis =>
        intro start all
        rw [List.map_cons, List.foldl_cons, (toNat_digit (all char List.mem_cons_self)).1,
          inductionHypothesis _ fun other member => all other (List.mem_cons_of_mem _ member),
          Nat.ofDigitChars_cons]
        rfl
  rw [leadingNumber, whole, decimalDigits, folded _ _ digits, Nat.ofDigitChars_ten_toDigits]

theorem decimal_injective : Function.Injective decimal := by
  have digits : ∀ {first second : Nat}, decimalDigits first = decimalDigits second →
      first = second := by
    intro first second same
    rw [← leadingNumber_decimalDigits first, same, leadingNumber_decimalDigits]
  have unsigned : ∀ {first second : Nat}, 45 :: decimalDigits first ≠ decimalDigits second := by
    intro first second same
    have bounds := digit_of_mem_decimalDigits (same ▸ List.mem_cons_self)
    exact absurd bounds.1 (by decide)
  intro first second same
  unfold decimal at same
  split at same
  · split at same
    · have equal := digits (List.cons.inj same).2
      omega
    · exact absurd same unsigned
  · split at same
    · exact absurd same.symm unsigned
    · have equal := digits same
      omega

theorem newline_not_mem_decimal (value : Int) : 10 ∉ decimal value := by
  have digits : 10 ∉ decimalDigits value.natAbs := fun member =>
    absurd (digit_of_mem_decimalDigits member).1 (by decide)
  unfold decimal
  split
  · exact List.not_mem_cons_of_ne_of_not_mem (by decide) digits
  · exact digits

theorem append_newline {first second rest others : List UInt8} (one : 10 ∉ first)
    (other : 10 ∉ second) (same : first ++ 10 :: rest = second ++ 10 :: others) :
    first = second ∧ rest = others := by
  induction first generalizing second with
  | nil =>
      cases second with
      | nil => exact ⟨rfl, (List.cons.inj same).2⟩
      | cons byte second =>
          rw [(List.cons.inj same).1] at other
          exact absurd List.mem_cons_self other
  | cons byte first inductionHypothesis =>
      cases second with
      | nil =>
          rw [(List.cons.inj same).1] at one
          exact absurd List.mem_cons_self one
      | cons byte' second =>
          rw [List.cons_append, List.cons_append, List.cons.injEq] at same
          have later := inductionHypothesis (fun member => one (List.mem_cons_of_mem _ member))
            (fun member => other (List.mem_cons_of_mem _ member)) same.2
          exact ⟨by rw [same.1, later.1], later.2⟩

theorem numberLines_cons (value : Int) (values : List Int) :
    numberLines (value :: values) = decimal value ++ 10 :: numberLines values := by
  rw [numberLines, List.flatMap_cons, List.append_assoc]
  rfl

theorem numberLines_injective : Function.Injective numberLines := by
  intro first
  induction first with
  | nil =>
      intro second same
      cases second with
      | nil => rfl
      | cons value rest =>
          rw [numberLines_cons] at same
          exact absurd same.symm (List.append_ne_nil_of_right_ne_nil _ (List.cons_ne_nil _ _))
  | cons value rest inductionHypothesis =>
      intro second same
      cases second with
      | nil =>
          rw [numberLines_cons] at same
          exact absurd same (List.append_ne_nil_of_right_ne_nil _ (List.cons_ne_nil _ _))
      | cons other others =>
          rw [numberLines_cons, numberLines_cons] at same
          have parts := append_newline (newline_not_mem_decimal value)
            (newline_not_mem_decimal other) same
          rw [decimal_injective parts.1, inductionHypothesis parts.2]

end Foundation
end Ipbench
