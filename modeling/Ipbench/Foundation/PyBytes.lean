import Ipbench.Foundation.PyText
import Mathlib.Tactic.Common

namespace Ipbench
namespace Foundation

/-!
# Bytes and text

Text is encoded as UTF-8 and decoded as UTF-8 or as ASCII with
`errors='ignore'`.  A decoder that ignores errors drops the longest part of a
malformed sequence that could still have begun a character and goes on with
the byte that spoilt it.  On ASCII characters both decoders are inverse to the
encoder, whatever bytes follow.
-/

/-- `text.encode('utf-8')`. -/
def encode (text : Text) : List UInt8 :=
  text.flatMap String.utf8EncodeChar

/-- `bytes.decode('ascii', errors='ignore')`. -/
def decodeAscii (bytes : List UInt8) : Text :=
  (bytes.filter fun byte => byte < 128).map fun byte => Char.ofNat byte.toNat

/-- An unfinished character: how many bytes are missing, the range of the next
one, and the bits so far. -/
structure Unfinished where
  missing : Nat
  low : Nat
  high : Nat
  bits : Nat
deriving DecidableEq, Repr

/-- What a byte begins: a character, an unfinished one, or nothing. -/
def leadByte (byte : Nat) : Option Char × Option Unfinished :=
  if byte < 0x80 then (some (Char.ofNat byte), none)
  else if 0xC2 ≤ byte ∧ byte ≤ 0xDF then (none, some ⟨1, 0x80, 0xBF, byte % 0x20⟩)
  else if byte = 0xE0 then (none, some ⟨2, 0xA0, 0xBF, 0⟩)
  else if byte = 0xED then (none, some ⟨2, 0x80, 0x9F, 0xD⟩)
  else if 0xE1 ≤ byte ∧ byte ≤ 0xEF then (none, some ⟨2, 0x80, 0xBF, byte % 0x10⟩)
  else if byte = 0xF0 then (none, some ⟨3, 0x90, 0xBF, 0⟩)
  else if 0xF1 ≤ byte ∧ byte ≤ 0xF3 then (none, some ⟨3, 0x80, 0xBF, byte % 8⟩)
  else if byte = 0xF4 then (none, some ⟨3, 0x80, 0x8F, 4⟩)
  else (none, none)

/-- One byte after what the bytes before it left unfinished. -/
def decodeByte (pending : Option Unfinished) (byte : Nat) : Option Char × Option Unfinished :=
  match pending with
  | none => leadByte byte
  | some unfinished =>
      if unfinished.low ≤ byte ∧ byte ≤ unfinished.high then
        let bits := unfinished.bits * 0x40 + byte % 0x40
        if unfinished.missing = 1 then (some (Char.ofNat bits), none)
        else (none, some ⟨unfinished.missing - 1, 0x80, 0xBF, bits⟩)
      else leadByte byte

def decodeFrom (pending : Option Unfinished) : List UInt8 → Text
  | [] => []
  | byte :: rest =>
      let decoded := decodeByte pending byte.toNat
      decoded.1.toList ++ decodeFrom decoded.2 rest

/-- `bytes.decode('utf-8', errors='ignore')`. -/
def decodeUtf8 (bytes : List UInt8) : Text :=
  decodeFrom none bytes

/-- `bytes.decode('utf-8')`; `none` is the exception. -/
def decodeStrict (bytes : List UInt8) : Option Text :=
  bytes.toByteArray.utf8Decode?.map Array.toList

/-- `readline()`: the bytes up to the first newline, which belongs to the line. -/
def readline (stream : List UInt8) : List UInt8 :=
  stream.takeWhile (fun byte => byte != 10) ++
    (stream.dropWhile fun byte => byte != 10).take 1

/-- What a C function finds of a text: a zero byte ends it. -/
def cString (text : Text) : List UInt8 :=
  (encode text).takeWhile fun byte => byte != 0

/-! ## ASCII -/

def Ascii (text : Text) : Prop :=
  ∀ char ∈ text, char.toNat < 128

theorem ascii_iff_all {text : Text} :
    (text.all fun char => decide (char.toNat < 128)) = true ↔ Ascii text := by
  unfold Ascii
  rw [List.all_eq_true]
  simp only [decide_eq_true_eq]

instance (text : Text) : Decidable (Ascii text) :=
  decidable_of_iff _ ascii_iff_all

theorem Ascii.append {first second : Text} (left : Ascii first) (right : Ascii second) :
    Ascii (first ++ second) :=
  fun char member => (List.mem_append.mp member).elim (left char) (right char)

theorem Ascii.of_isPrefix {first second : Text} (whole : Ascii second)
    (initial : first <+: second) : Ascii first :=
  fun char member => whole char (initial.subset member)

theorem encode_append (first second : Text) :
    encode (first ++ second) = encode first ++ encode second :=
  List.flatMap_append

theorem utf8EncodeChar_ascii {char : Char} (ascii : char.toNat < 128) :
    String.utf8EncodeChar char = [UInt8.ofNat char.toNat] :=
  if_pos (Nat.le_of_lt_succ ascii)

theorem toNat_ofNat_ascii {char : Char} (ascii : char.toNat < 128) :
    (UInt8.ofNat char.toNat).toNat = char.toNat := by
  rw [UInt8.toNat_ofNat', Nat.mod_eq_of_lt (Nat.lt_trans ascii (by decide))]

theorem encode_ascii {text : Text} (ascii : Ascii text) :
    encode text = text.map fun char => UInt8.ofNat char.toNat := by
  induction text with
  | nil => rfl
  | cons char rest inductionHypothesis =>
      have first := utf8EncodeChar_ascii (ascii char List.mem_cons_self)
      have later := inductionHypothesis fun other member =>
        ascii other (List.mem_cons_of_mem _ member)
      unfold encode at later ⊢
      rw [List.flatMap_cons, first, later]
      rfl

theorem decodeUtf8_append {text : Text} (ascii : Ascii text) (bytes : List UInt8) :
    decodeUtf8 (encode text ++ bytes) = text ++ decodeUtf8 bytes := by
  rw [encode_ascii ascii]
  unfold decodeUtf8
  induction text with
  | nil => rfl
  | cons char rest inductionHypothesis =>
      have here : char.toNat < 128 := ascii char List.mem_cons_self
      have later := inductionHypothesis fun other member =>
        ascii other (List.mem_cons_of_mem _ member)
      rw [List.map_cons, List.cons_append, decodeFrom, toNat_ofNat_ascii here, decodeByte, leadByte,
        if_pos here, Char.ofNat_toNat]
      exact congrArg (List.cons char) later

theorem decodeAscii_append {text : Text} (ascii : Ascii text) (bytes : List UInt8) :
    decodeAscii (encode text ++ bytes) = text ++ decodeAscii bytes := by
  rw [encode_ascii ascii]
  induction text with
  | nil => rfl
  | cons char rest inductionHypothesis =>
      have here : char.toNat < 128 := ascii char List.mem_cons_self
      have later := inductionHypothesis fun other member =>
        ascii other (List.mem_cons_of_mem _ member)
      have small : decide (UInt8.ofNat char.toNat < 128) = true := by
        rw [decide_eq_true_iff, UInt8.lt_iff_toNat_lt, toNat_ofNat_ascii here]
        exact here
      unfold decodeAscii at later ⊢
      rw [List.map_cons, List.cons_append, List.filter_cons, if_pos small, List.map_cons,
        toNat_ofNat_ascii here, Char.ofNat_toNat, later]
      rfl

theorem decodeUtf8_encode {text : Text} (ascii : Ascii text) :
    decodeUtf8 (encode text) = text := by
  have decoded := decodeUtf8_append ascii []
  rwa [List.append_nil, show decodeUtf8 [] = [] from rfl, List.append_nil] at decoded

theorem decodeAscii_encode {text : Text} (ascii : Ascii text) :
    decodeAscii (encode text) = text := by
  have decoded := decodeAscii_append ascii []
  rwa [List.append_nil, show decodeAscii [] = [] from rfl, List.append_nil] at decoded

theorem encode_length {text : Text} (ascii : Ascii text) : (encode text).length = text.length := by
  rw [encode_ascii ascii, List.length_map]

/-- An initial segment of the encoding of ASCII text encodes an initial segment
of the text. -/
theorem exists_of_isPrefix_encode {text : Text} (ascii : Ascii text) {bytes : List UInt8}
    (initial : bytes <+: encode text) : ∃ start, start <+: text ∧ bytes = encode start := by
  refine ⟨text.take bytes.length, List.take_prefix _ _, ?_⟩
  have whole := List.prefix_iff_eq_take.mp initial
  rw [encode_ascii ascii, ← List.map_take] at whole
  rw [encode_ascii (ascii.of_isPrefix (List.take_prefix _ _))]
  exact whole

/-! ## Lines -/

theorem decodeStrict_encode (text : Text) : decodeStrict (encode text) = some text := by
  change (List.utf8Encode text).utf8Decode?.map Array.toList = some text
  rw [List.utf8Decode?_utf8Encode]
  rfl

/-- A byte below 128 encodes a character by itself. -/
theorem eq_of_mem_utf8EncodeChar {char : Char} {byte : UInt8}
    (member : byte ∈ String.utf8EncodeChar char) (small : byte.toNat < 128) :
    char.toNat = byte.toNat := by
  have high : ∀ value, 128 ≤ value → value < 256 → byte ≠ UInt8.ofNat value := by
    rintro value large fits rfl
    rw [UInt8.toNat_ofNat'] at small
    omega
  unfold String.utf8EncodeChar at member
  dsimp only at member
  split at member
  · next ascii =>
      rw [List.mem_singleton.mp member, UInt8.toNat_ofNat']
      exact (Nat.mod_eq_of_lt (Nat.lt_of_le_of_lt ascii (by decide))).symm
  · split at member
    · rcases List.mem_pair.mp member with lead | continued
      · exact absurd lead (high _ (by omega) (by omega))
      · exact absurd continued (high _ (by omega) (by omega))
    · split at member
      · rcases List.mem_cons.mp member with lead | continued
        · exact absurd lead (high _ (by omega) (by omega))
        · rcases List.mem_pair.mp continued with second | third
          · exact absurd second (high _ (by omega) (by omega))
          · exact absurd third (high _ (by omega) (by omega))
      · rcases List.mem_cons.mp member with lead | continued
        · exact absurd lead (high _ (by omega) (by omega))
        · rcases List.mem_cons.mp continued with second | others
          · exact absurd second (high _ (by omega) (by omega))
          · rcases List.mem_pair.mp others with third | fourth
            · exact absurd third (high _ (by omega) (by omega))
            · exact absurd fourth (high _ (by omega) (by omega))

theorem ne_of_mem_encode {text : Text} {char : Char} (ascii : char.toNat < 128)
    (absent : char ∉ text) : ∀ byte ∈ encode text, byte ≠ UInt8.ofNat char.toNat := by
  rintro byte member rfl
  rcases List.mem_flatMap.mp member with ⟨other, inside, encoded⟩
  have value := toNat_ofNat_ascii ascii
  have small : (UInt8.ofNat char.toNat).toNat < 128 := by
    rw [value]
    exact ascii
  have same := eq_of_mem_utf8EncodeChar encoded small
  rw [value] at same
  exact absent (Char.toNat_inj.mp same ▸ inside)

/-- A line is read up to its newline, whatever follows. -/
theorem readline_encode {line : Text} (single : '\n' ∉ line) (rest : List UInt8) :
    readline (encode (line ++ ['\n']) ++ rest) = encode (line ++ ['\n']) := by
  have inside : ∀ byte ∈ encode line, (byte != 10) = true :=
    fun byte member => bne_iff_ne.mpr (ne_of_mem_encode (by decide) single byte member)
  have newline : encode ['\n'] = [10] := by decide
  rw [encode_append, newline, List.append_assoc, readline, List.takeWhile_append_of_pos inside,
    List.dropWhile_append_of_pos inside, List.append_assoc]
  rfl

theorem cString_eq_encode {text : Text} (absent : Char.ofNat 0 ∉ text) :
    cString text = encode text :=
  List.takeWhile_eq_self_iff.mpr fun byte member =>
    bne_iff_ne.mpr (ne_of_mem_encode (by decide) absent byte member)

example : decodeUtf8 [0x61, 0xE2, 0x82, 0x62, 0xC3, 0xA9] = "abé".toList := by decide

end Foundation
end Ipbench
