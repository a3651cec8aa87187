import Ipbench.Foundation.CText
import Mathlib.Data.List.Forall2

namespace Ipbench
namespace Latency

open Foundation

/-!
# The address of a raw socket

`raw_setup_socket` takes the name of the host for a MAC address.  It stores every
number before it looks at their count, and `strtok` and `sscanf` read more than six
numbers between single colons: empty fields are skipped, a field need not be a number
to its end, and one that is none leaves the number before it.

The number that the variable has at the beginning is a parameter, since nothing
initialises it.  So is the result of `sscanf` for a number outside of its type.
-/

/-! ## Hexadecimal numbers -/

/-- `isxdigit`. -/
def isHexByte (byte : UInt8) : Bool :=
  isDigitByte byte || (65 ≤ byte && byte ≤ 70) || (97 ≤ byte && byte ≤ 102)

def hexValue (byte : UInt8) : Nat :=
  if isDigitByte byte then byte.toNat - 48
  else if byte ≤ 70 then byte.toNat - 55
  else byte.toNat - 87

def hexNumber (digits : List UInt8) : Nat :=
  digits.foldl (fun value digit => 16 * value + hexValue digit) 0

/-- The digits of a number with or without the prefix `0x`. -/
def hexDigits (text : List UInt8) : List UInt8 :=
  match text with
  | 48 :: 120 :: rest => rest.takeWhile isHexByte
  | 48 :: 88 :: rest => rest.takeWhile isHexByte
  | _ => text.takeWhile isHexByte

/-- What `sscanf` stores for a number that an `unsigned int` cannot hold. -/
abbrev OutOfRange :=
  (negative : Bool) → Nat → UInt32

def scanDigits (outOfRange : OutOfRange) (negative : Bool) (text : List UInt8) : Option UInt32 :=
  let digits := hexDigits text
  if digits = [] then none
  else if (negative ∧ hexNumber digits ≠ 0) ∨ 0x100000000 ≤ hexNumber digits then
    some (outOfRange negative (hexNumber digits))
  else some (UInt32.ofNat (hexNumber digits))

/-- `sscanf` with the format `%x`.  Without a number it stores nothing. -/
def scanHex (outOfRange : OutOfRange) (text : List UInt8) : Option UInt32 :=
  match text.dropWhile isSpaceByte with
  | 45 :: rest => scanDigits outOfRange true rest
  | 43 :: rest => scanDigits outOfRange false rest
  | rest => scanDigits outOfRange false rest

/-! ## The code -/

/-- What repeated calls of `strtok` return for the separator `:`. -/
def strtokColon (text : List UInt8) : List (List UInt8) :=
  (text.splitOn 58).filter (· ≠ [])

/-- The loop of `raw_setup_socket`: the stores in `dest_mac`, and the count behind the
loop if it is not left before. -/
def parseOctets (outOfRange : OutOfRange) :
    (num : UInt32) → (i : Nat) → List (List UInt8) → List (Nat × UInt8) × Option Nat
  | _, i, [] => ([], some i)
  | num, i, next :: rest =>
      let num := (scanHex outOfRange next).getD num
      if 0xff < num then ([], none)
      else
        let store := (i, num.toUInt8)
        if 6 < i then ([store], none)
        else
          let later := parseOctets outOfRange num (i + 1) rest
          (store :: later.1, later.2)

/-- The stores in `dest_mac` for a host name. -/
def macStores (outOfRange : OutOfRange) (num : UInt32) (hostname : CString) :
    List (Nat × UInt8) :=
  (parseOctets outOfRange num 0 (strtokColon hostname.bytes)).1

def macAccepted (outOfRange : OutOfRange) (num : UInt32) (hostname : CString) : Prop :=
  (parseOctets outOfRange num 0 (strtokColon hostname.bytes)).2 = some 6

/-- An array after stores inside of it. -/
def storeOctets (mac : List UInt8) (stores : List (Nat × UInt8)) : List UInt8 :=
  stores.foldl (fun mac store => mac.set store.1 store.2) mac

/-! ## The purpose -/

/-- A field is a hexadecimal number without anything else, which is an octet. -/
structure HexField (field : List UInt8) (octet : UInt8) : Prop where
  nonempty : field ≠ []
  digits : ∀ byte ∈ field, isHexByte byte = true
  number : hexNumber field = octet.toNat

/-- The text is six hexadecimal octets between single colons. -/
structure MacText (text octets : List UInt8) : Prop where
  six : octets.length = 6
  fields : ∃ fields, List.Forall₂ HexField fields octets ∧ text = [58].intercalate fields

/-- An address is accepted exactly if it is one, it is the one that is stored, and
nothing is stored elsewhere. -/
structure ParsesMac (outOfRange : OutOfRange) (num : UInt32) (hostname : CString) : Prop where
  accepts : macAccepted outOfRange num hostname ↔ ∃ octets, MacText hostname.bytes octets
  octets : ∀ octets mac, MacText hostname.bytes octets → mac.length = 6 →
    storeOctets mac (macStores outOfRange num hostname) = octets
  inside : ∀ store ∈ macStores outOfRange num hostname, store.1 < 6

def carriedNumbers (outOfRange : OutOfRange) : (num : UInt32) → List (List UInt8) → List UInt32
  | _, [] => []
  | num, next :: rest =>
      let num := (scanHex outOfRange next).getD num
      num :: carriedNumbers outOfRange num rest

/-- One of the first seven fields is no octet. -/
def LargeField (outOfRange : OutOfRange) (num : UInt32) (hostname : CString) : Prop :=
  ∃ value ∈ (carriedNumbers outOfRange num (strtokColon hostname.bytes)).take 7, 0xff < value

/-! ## The loop -/

section Loop

variable (outOfRange : OutOfRange)

theorem length_carriedNumbers (num : UInt32) (fields : List (List UInt8)) :
    (carriedNumbers outOfRange num fields).length = fields.length := by
  induction fields generalizing num with
  | nil => rfl
  | cons next rest inductionHypothesis =>
      rw [carriedNumbers, List.length_cons, List.length_cons, inductionHypothesis]

theorem parseOctets_six (num : UInt32) (i : Nat) (fields : List (List UInt8)) :
    (parseOctets outOfRange num i fields).2 = some 6 ↔
      i + fields.length = 6 ∧ ∀ value ∈ carriedNumbers outOfRange num fields, value ≤ 0xff := by
  induction fields generalizing num i with
  | nil =>
      rw [parseOctets, carriedNumbers, Option.some_inj, List.length_nil, Nat.add_zero]
      exact (and_iff_left fun value impossible => absurd impossible List.not_mem_nil).symm
  | cons next rest inductionHypothesis =>
      rw [parseOctets, carriedNumbers, List.forall_mem_cons, List.length_cons]
      generalize (scanHex outOfRange next).getD num = num
      by_cases large : 0xff < num
      · rw [if_pos large]
        refine iff_of_false (fun impossible => by cases impossible) ?_
        exact fun octets => absurd octets.2.1 (UInt32.not_le.mpr large)
      · rw [if_neg large]
        by_cases many : 6 < i
        · rw [if_pos many]
          exact iff_of_false (fun impossible => by cases impossible) fun octets => by omega
        · rw [if_neg many]
          dsimp only
          rw [inductionHypothesis]
          constructor
          · rintro ⟨count, octets⟩
            exact ⟨by omega, UInt32.not_lt.mp large, octets⟩
          · rintro ⟨count, _, octets⟩
            exact ⟨by omega, octets⟩

/-- The stores are inside for at most six octets, or when the loop is left in time. -/
theorem parseOctets_inside (num : UInt32) {i : Nat} (start : i ≤ 6)
    (fields : List (List UInt8)) :
    (∀ store ∈ (parseOctets outOfRange num i fields).1, store.1 < 6) ↔
      i + fields.length ≤ 6 ∨
        ∃ value ∈ (carriedNumbers outOfRange num fields).take (7 - i), 0xff < value := by
  induction fields generalizing num i with
  | nil =>
      exact iff_of_true (fun store impossible => absurd impossible List.not_mem_nil)
        (Or.inl start)
  | cons next rest inductionHypothesis =>
      rw [parseOctets, carriedNumbers, List.length_cons]
      generalize (scanHex outOfRange next).getD num = num
      have room : 7 - i = (6 - i) + 1 := by omega
      rw [room, List.take_succ_cons]
      by_cases large : 0xff < num
      · rw [if_pos large]
        exact iff_of_true (fun store impossible => absurd impossible List.not_mem_nil)
          (Or.inr ⟨num, List.mem_cons_self, large⟩)
      · rw [if_neg large, if_neg (Nat.not_lt.mpr start)]
        dsimp only
        rw [List.forall_mem_cons, List.exists_mem_cons_iff]
        by_cases last : i = 6
        · subst last
          refine iff_of_false (fun inside => Nat.lt_irrefl 6 inside.1) ?_
          rintro (few | large' | ⟨value, impossible, _⟩)
          · omega
          · exact large large'
          · exact List.not_mem_nil impossible
        · rw [inductionHypothesis _ (show i + 1 ≤ 6 by omega)]
          have width : 7 - (i + 1) = 6 - i := by omega
          rw [width]
          constructor
          · rintro ⟨_, few | later⟩
            · exact Or.inl (by omega)
            · exact Or.inr (Or.inr later)
          · rintro (few | large' | later)
            · exact ⟨by omega, Or.inl (by omega)⟩
            · exact absurd large' large
            · exact ⟨by omega, Or.inr later⟩

theorem parseOctets_stores {num : UInt32} {i : Nat} {fields : List (List UInt8)}
    (few : i + fields.length ≤ 7)
    (octets : ∀ value ∈ carriedNumbers outOfRange num fields, value ≤ 0xff) :
    (parseOctets outOfRange num i fields).1 =
      (((carriedNumbers outOfRange num fields).map UInt32.toUInt8).zipIdx i).map
        Prod.swap := by
  induction fields generalizing num i with
  | nil => rfl
  | cons next rest inductionHypothesis =>
      rw [carriedNumbers, List.forall_mem_cons] at octets
      rw [List.length_cons] at few
      rw [parseOctets, carriedNumbers]
      dsimp only at octets ⊢
      rw [if_neg (UInt32.not_lt.mpr octets.1), if_neg (by omega),
        inductionHypothesis (by omega) octets.2]
      rfl

end Loop

/-! ## Addresses -/

theorem hexByte_ne {byte other : UInt8} (hex : isHexByte byte = true)
    (none : isHexByte other = false) : byte ≠ other := by
  rintro rfl
  rw [hex] at none
  cases none

theorem not_space_of_hexByte {byte : UInt8} (hex : isHexByte byte = true) :
    isSpaceByte byte = false := by
  rw [isHexByte, isDigitByte, Bool.or_eq_true, Bool.or_eq_true] at hex
  simp only [Bool.and_eq_true, decide_eq_true_eq, UInt8.le_iff_toNat_le] at hex
  rw [isSpaceByte, Bool.or_eq_false_iff, beq_eq_false_iff_ne]
  constructor
  · rintro rfl
    revert hex
    decide
  · rw [Bool.and_eq_false_imp]
    intro _
    rw [decide_eq_false_iff_not, UInt8.le_iff_toNat_le]
    have limits : (48 : UInt8).toNat = 48 ∧ (65 : UInt8).toNat = 65 ∧
        (97 : UInt8).toNat = 97 ∧ (13 : UInt8).toNat = 13 := ⟨rfl, rfl, rfl, rfl⟩
    omega

/-- All of a field are digits, so that it has no prefix. -/
theorem hexDigits_field {field : List UInt8} (digits : ∀ byte ∈ field, isHexByte byte = true) :
    hexDigits field = field := by
  have all : field.takeWhile isHexByte = field := List.takeWhile_eq_self_iff.mpr digits
  rw [hexDigits.eq_def]
  split
  · exact absurd rfl
      (hexByte_ne (digits 120 (List.mem_cons_of_mem _ List.mem_cons_self)) (by decide))
  · exact absurd rfl
      (hexByte_ne (digits 88 (List.mem_cons_of_mem _ List.mem_cons_self)) (by decide))
  · exact all

theorem scanHex_field (outOfRange : OutOfRange) {field : List UInt8} {octet : UInt8}
    (hex : HexField field octet) : scanHex outOfRange field = some octet.toUInt32 := by
  have number : scanDigits outOfRange false field = some octet.toUInt32 := by
    rw [scanDigits, hexDigits_field hex.digits, hex.number]
    have small : octet.toNat < 256 := octet.toNat_lt
    rw [if_neg hex.nonempty, if_neg]
    · rw [UInt32.ofNat_uInt8ToNat]
    · rintro (⟨impossible, _⟩ | large)
      · cases impossible
      · omega
  rw [← number, scanHex.eq_def]
  obtain ⟨first, rest, rfl⟩ := List.exists_cons_of_ne_nil hex.nonempty
  have first_hex := hex.digits first List.mem_cons_self
  rw [List.dropWhile_cons_of_neg (by rw [not_space_of_hexByte first_hex]; decide)]
  split
  · rename_i start
    exact absurd (List.cons.inj start).1 (hexByte_ne first_hex (by decide))
  · rename_i start
    exact absurd (List.cons.inj start).1 (hexByte_ne first_hex (by decide))
  · rfl

theorem hexField_of_mem {fields : List (List UInt8)} {octets : List UInt8}
    (hex : List.Forall₂ HexField fields octets) {field : List UInt8} (member : field ∈ fields) :
    ∃ octet, HexField field octet := by
  induction hex with
  | nil => cases member
  | cons first_hex _ inductionHypothesis =>
      rcases List.mem_cons.mp member with rfl | later
      · exact ⟨_, first_hex⟩
      · exact inductionHypothesis later

/-- The fields between the colons are those that `strtok` returns. -/
theorem strtokColon_intercalate {fields : List (List UInt8)} {octets : List UInt8}
    (hex : List.Forall₂ HexField fields octets) :
    strtokColon ([58].intercalate fields) = fields := by
  cases fields with
  | nil => rfl
  | cons field others =>
      rw [strtokColon, List.splitOn_intercalate _ _ (List.cons_ne_nil field others)]
      · apply List.filter_eq_self.mpr
        intro field member
        obtain ⟨octet, octet_hex⟩ := hexField_of_mem hex member
        exact decide_eq_true octet_hex.nonempty
      · intro field member colon
        obtain ⟨octet, octet_hex⟩ := hexField_of_mem hex member
        exact hexByte_ne (octet_hex.digits 58 colon) (by decide) rfl

theorem carriedNumbers_fields (outOfRange : OutOfRange) {fields : List (List UInt8)}
    {octets : List UInt8} (hex : List.Forall₂ HexField fields octets) (num : UInt32) :
    carriedNumbers outOfRange num fields = octets.map UInt8.toUInt32 := by
  induction hex generalizing num with
  | nil => rfl
  | cons octet_hex _ inductionHypothesis =>
      rw [carriedNumbers, scanHex_field outOfRange octet_hex]
      exact congrArg _ (inductionHypothesis _)

/-- An array with as many elements as there are octets holds these afterwards. -/
theorem storeOctets_zipIdx (stored : List UInt8) {mac octets : List UInt8}
    (same : mac.length = octets.length) :
    storeOctets (stored ++ mac) ((octets.zipIdx stored.length).map Prod.swap) =
      stored ++ octets := by
  induction octets generalizing stored mac with
  | nil =>
      rw [List.eq_nil_of_length_eq_zero same]
      rfl
  | cons octet octets inductionHypothesis =>
      obtain ⟨first, rest, rfl⟩ := List.exists_cons_of_length_eq_add_one same
      have shorter : rest.length = octets.length := Nat.succ.inj same
      have count : stored.length + 1 = (stored ++ [octet]).length := by
        rw [List.length_append, List.length_singleton]
      calc storeOctets (stored ++ first :: rest)
              (((octet :: octets).zipIdx stored.length).map Prod.swap)
          = storeOctets ((stored ++ first :: rest).set stored.length octet)
              ((octets.zipIdx (stored.length + 1)).map Prod.swap) := rfl
        _ = storeOctets ((stored ++ [octet]) ++ rest)
              ((octets.zipIdx (stored ++ [octet]).length).map Prod.swap) := by
            rw [List.set_append_right _ _ (Nat.le_refl _), Nat.sub_self, List.set_cons_zero,
              count, List.append_assoc, List.singleton_append]
        _ = stored ++ octet :: octets := by
            rw [inductionHypothesis (stored ++ [octet]) shorter, List.append_assoc,
              List.singleton_append]

section Address

variable {outOfRange : OutOfRange} {num : UInt32} {hostname : CString}

theorem strtokColon_mac {octets : List UInt8} (mac : MacText hostname.bytes octets) :
    List.Forall₂ HexField (strtokColon hostname.bytes) octets := by
  obtain ⟨fields, hex, text⟩ := mac.fields
  rw [text, strtokColon_intercalate hex]
  exact hex

theorem toUInt32_le {octets : List UInt8} :
    ∀ value ∈ octets.map UInt8.toUInt32, value ≤ 0xff := by
  intro value member
  obtain ⟨octet, _, rfl⟩ := List.mem_map.mp member
  have small : octet.toNat < 256 := octet.toNat_lt
  rw [UInt32.le_iff_toNat_le, UInt8.toNat_toUInt32]
  exact Nat.le_of_lt_succ small

theorem macAccepted_of_mac {octets : List UInt8} (mac : MacText hostname.bytes octets) :
    macAccepted outOfRange num hostname := by
  apply (parseOctets_six outOfRange num 0 _).mpr
  rw [carriedNumbers_fields outOfRange (strtokColon_mac mac), (strtokColon_mac mac).length_eq,
    mac.six]
  exact ⟨rfl, toUInt32_le⟩

theorem macStores_mac {octets : List UInt8} (mac : MacText hostname.bytes octets) :
    macStores outOfRange num hostname = (octets.zipIdx 0).map Prod.swap := by
  have values := carriedNumbers_fields outOfRange (strtokColon_mac mac) num
  have count : (strtokColon hostname.bytes).length = 6 := by
    rw [(strtokColon_mac mac).length_eq, mac.six]
  rw [macStores, parseOctets_stores outOfRange (by omega) (by rw [values]; exact toUInt32_le),
    values, List.map_map]
  have round_trip : UInt32.toUInt8 ∘ UInt8.toUInt32 = id := funext UInt8.toUInt8_toUInt32
  rw [round_trip, List.map_id]

/-- Every string with fewer fields, and with a number that is too large, is refused. -/
theorem not_macAccepted
    (refused : (strtokColon hostname.bytes).length < 6 ∨ LargeField outOfRange num hostname) :
    ¬ macAccepted outOfRange num hostname := by
  intro accepted
  obtain ⟨count, octets⟩ := (parseOctets_six outOfRange num 0 _).mp accepted
  rcases refused with few | ⟨value, member, large⟩
  · omega
  · exact absurd large (UInt32.not_lt.mpr (octets value (List.mem_of_mem_take member)))

theorem macStores_inside :
    (∀ store ∈ macStores outOfRange num hostname, store.1 < 6) ↔
      (strtokColon hostname.bytes).length ≤ 6 ∨ LargeField outOfRange num hostname := by
  have inside := parseOctets_inside outOfRange num (Nat.zero_le 6)
    (strtokColon hostname.bytes)
  rwa [Nat.zero_add] at inside

/-- Six fields are an accepted address, or the number of one is too large. -/
theorem macAccepted_or_large (six : (strtokColon hostname.bytes).length = 6) :
    macAccepted outOfRange num hostname ∨ LargeField outOfRange num hostname := by
  by_cases octets :
    ∀ value ∈ carriedNumbers outOfRange num (strtokColon hostname.bytes), value ≤ 0xff
  · left
    exact (parseOctets_six outOfRange num 0 _).mpr ⟨by rw [six], octets⟩
  · right
    push Not at octets
    obtain ⟨value, member, large⟩ := octets
    refine ⟨value, ?_, UInt32.not_le.mp large⟩
    rw [List.take_of_length_le (by rw [length_carriedNumbers, six]; omega)]
    exact member

end Address

/-! ## Main result -/

/-- The parsing does what it is for on an address, and on what it refuses: fewer than six
fields, or a number that is too large before the eighth field. -/
theorem parsesMac_iff (outOfRange : OutOfRange) (num : UInt32) (hostname : CString) :
    ParsesMac outOfRange num hostname ↔
      (∃ octets, MacText hostname.bytes octets) ∨ (strtokColon hostname.bytes).length < 6 ∨
        LargeField outOfRange num hostname := by
  constructor
  · intro parses
    rcases macStores_inside.mp parses.inside with few | large
    · rcases Nat.lt_or_eq_of_le few with fewer | six
      · exact Or.inr (Or.inl fewer)
      · rcases macAccepted_or_large six with accepted | large
        · exact Or.inl (parses.accepts.mp accepted)
        · exact Or.inr (Or.inr large)
    · exact Or.inr (Or.inr large)
  · rintro (⟨octets, mac⟩ | refused)
    · have count : (strtokColon hostname.bytes).length = 6 := by
        rw [(strtokColon_mac mac).length_eq, mac.six]
      refine ⟨iff_of_true (macAccepted_of_mac mac) ⟨octets, mac⟩, ?_,
        macStores_inside.mpr (Or.inl (Nat.le_of_eq count))⟩
      intro octets' dest_mac mac' room
      rw [macStores_mac mac']
      exact storeOctets_zipIdx [] (room.trans mac'.six.symm)
    · have not_mac : ∀ octets, ¬ MacText hostname.bytes octets := fun octets mac =>
        not_macAccepted refused (macAccepted_of_mac mac)
      refine ⟨iff_of_false (not_macAccepted refused) fun ⟨octets, mac⟩ => not_mac octets mac,
        fun octets dest_mac mac => absurd mac (not_mac octets), macStores_inside.mpr ?_⟩
      exact refused.imp Nat.le_of_lt id

/-- The seventh octet is stored behind the array. -/
def sevenOctets : CString where
  bytes := literal "1:2:3:4:5:6:7"
  ended := by decide

/-- It is stored there although the address is refused. -/
theorem sevenOctets_stored_outside :
    (6, 7) ∈ macStores (fun _ _ => 0) 0 sevenOctets ∧
      ¬ ParsesMac (fun _ _ => 0) 0 sevenOctets ∧
      ¬ ∀ (outOfRange : OutOfRange) (num : UInt32) (hostname : CString),
        ParsesMac outOfRange num hostname := by
  have outside : (6, 7) ∈ macStores (fun _ _ => 0) 0 sevenOctets := by decide
  have fails : ¬ ParsesMac (fun _ _ => 0) 0 sevenOctets := fun parses =>
    Nat.lt_irrefl 6 (parses.inside (6, 7) outside)
  exact ⟨outside, fails, fun every => fails (every (fun _ _ => 0) 0 sevenOctets)⟩

/-- An empty field and one that is no number do not keep an address from being accepted. -/
example : (parseOctets (fun _ _ => 0) 0 0 (strtokColon (literal "1::2:3:4:5z:z"))).2 = some 6 := by
  decide

end Latency
end Ipbench
