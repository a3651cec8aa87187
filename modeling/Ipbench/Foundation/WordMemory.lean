import Ipbench.Foundation.Attempt
import Ipbench.Foundation.ByteOrder
import Mathlib.Data.List.Basic
import Mathlib.Tactic.Common

namespace Ipbench
namespace Foundation

/-!
# Blocks of words

A block of memory is a list of bytes, and an array of 64-bit words lies in it
in the byte order of the host.  Reading a word outside the block is `none`.
The conversions between host and network order act on one word at a time; a
loop that converts the words of a message in place turns the representation of
one order into that of the other.
-/

namespace ByteOrder

theorem leBytes_ofLeBytes (bytes : List UInt8) :
    leBytes bytes.length (ofLeBytes bytes) = bytes := by
  induction bytes with
  | nil => rfl
  | cons byte rest inductionHypothesis =>
      have low : (byte.toNat + 256 * ofLeBytes rest) / 256 = ofLeBytes rest := by
        have bound := byte.toNat_lt
        omega
      have same : UInt8.ofNat (byte.toNat + 256 * ofLeBytes rest) = byte := by
        apply UInt8.toNat_inj.mp
        have bound := byte.toNat_lt
        rw [UInt8.toNat_ofNat']
        omega
      rw [List.length_cons, ofLeBytes, leBytes, low, same, inductionHypothesis]

/-- Eight bytes are the representation of the word they load. -/
theorem store_load (order : ByteOrder) {bytes : List UInt8} (whole : bytes.length = 8) :
    order.store (order.load bytes) = bytes := by
  have digits : ∀ {digits : List UInt8}, digits.length = 8 →
      leBytes 8 (UInt64.ofNat (ofLeBytes digits)).toNat = digits := by
    intro digits length
    have bound : ofLeBytes digits < 2 ^ 64 := by
      have value := ofLeBytes_leBytes 8 (ofLeBytes digits)
      rw [← length, leBytes_ofLeBytes, length] at value
      rw [value]
      exact Nat.mod_lt _ (by decide)
    rw [UInt64.toNat_ofNat', Nat.mod_eq_of_lt bound, ← length, leBytes_ofLeBytes]
  cases order with
  | little => exact digits whole
  | big =>
      rw [store, load, digits (by rw [List.length_reverse, whole]), List.reverse_reverse]

def bswap64 (word : UInt64) : UInt64 :=
  big.load (little.store word)

def htonll : ByteOrder → UInt64 → UInt64
  | little, word => bswap64 word
  | big, word => word

def ntohll : ByteOrder → UInt64 → UInt64
  | little, word => bswap64 word
  | big, word => word

/-- A word in network order has its bytes most significant first. -/
theorem store_htonll (order : ByteOrder) (word : UInt64) :
    order.store (order.htonll word) = big.store word := by
  cases order with
  | big => rfl
  | little =>
      have reversed : big.load (little.store word) = little.load (big.store word) := by
        rw [load, load, store, store]
      rw [htonll, bswap64, reversed, store_load little (store_length big word)]

/-- Loading the bytes of network order and converting gives the word. -/
theorem ntohll_load (order : ByteOrder) (word : UInt64) :
    order.ntohll (order.load (big.store word)) = word := by
  cases order with
  | big => exact load_store big word
  | little =>
      have bytes := store_load little (store_length big word)
      rw [ntohll, bswap64, bytes, load_store]

end ByteOrder

/-! ## Arrays of words -/

/-- The words of an array in memory. -/
def storeWords (order : ByteOrder) (words : List UInt64) : List UInt8 :=
  words.flatMap order.store

/-- The word at an index, if it lies in the block. -/
def readWord (order : ByteOrder) (memory : List UInt8) (index : Nat) : Option UInt64 :=
  let bytes := (memory.drop (8 * index)).take 8
  if bytes.length = 8 then some (order.load bytes) else none

/-- Replace the word at an index, which must lie in the block. -/
def changeWord (order : ByteOrder) (change : UInt64 → UInt64) (memory : List UInt8)
    (index : Nat) : Option (List UInt8) :=
  (readWord order memory index).map fun word =>
    memory.take (8 * index) ++ order.store (change word) ++ memory.drop (8 * index + 8)

/-- The words from an index on, as many as are asked for. -/
def readWords (order : ByteOrder) (memory : List UInt8) (first : Nat) : Nat → Option (List UInt64)
  | 0 => some []
  | count + 1 =>
      match readWord order memory first with
      | none => none
      | some word => (readWords order memory (first + 1) count).map (word :: ·)

@[simp] theorem storeWords_nil (order : ByteOrder) : storeWords order [] = [] := rfl

theorem storeWords_cons (order : ByteOrder) (word : UInt64) (words : List UInt64) :
    storeWords order (word :: words) = order.store word ++ storeWords order words := rfl

theorem storeWords_append (order : ByteOrder) (first second : List UInt64) :
    storeWords order (first ++ second) = storeWords order first ++ storeWords order second :=
  List.flatMap_append

@[simp] theorem storeWords_length (order : ByteOrder) (words : List UInt64) :
    (storeWords order words).length = 8 * words.length := by
  induction words with
  | nil => rfl
  | cons word words inductionHypothesis =>
      rw [storeWords_cons, List.length_append, ByteOrder.store_length, inductionHypothesis,
        List.length_cons]
      omega

section Reading

variable (order stored : ByteOrder) (before : List UInt64) (word : UInt64) (rest : List UInt8)

/-- The bytes at an index, whatever the order in which they were stored. -/
theorem take_drop_storeWords :
    ((storeWords order before ++ (stored.store word ++ rest)).drop (8 * before.length)).take 8 =
      stored.store word := by
  rw [← storeWords_length order before, List.drop_left, ← stored.store_length word, List.take_left]

theorem readWord_stored :
    readWord order (storeWords order before ++ (stored.store word ++ rest)) before.length =
      some (order.load (stored.store word)) := by
  rw [readWord, take_drop_storeWords, if_pos (stored.store_length word)]

theorem changeWord_stored (change : UInt64 → UInt64) :
    changeWord order change (storeWords order before ++ (stored.store word ++ rest))
        before.length =
      some (storeWords order (before ++ [change (order.load (stored.store word))]) ++ rest) := by
  have start : (storeWords order before ++ (stored.store word ++ rest)).take
      (8 * before.length) = storeWords order before := by
    rw [← storeWords_length order before, List.take_left]
  have finish : (storeWords order before ++ (stored.store word ++ rest)).drop
      (8 * before.length + 8) = rest := by
    rw [← List.append_assoc]
    have length : (storeWords order before ++ stored.store word).length =
        8 * before.length + 8 := by
      rw [List.length_append, storeWords_length, ByteOrder.store_length]
    rw [← length, List.drop_left]
  rw [changeWord, readWord_stored, Option.map_some, start, finish, storeWords_append,
    storeWords_cons, storeWords_nil, List.append_nil]

end Reading

/-- A word of an array is read whatever stands behind the array. -/
theorem readWord_header (order : ByteOrder) {words : List UInt64} {index : Nat} {word : UInt64}
    (found : words[index]? = some word) (rest : List UInt8) :
    readWord order (storeWords order words ++ rest) index = some word := by
  have split : ∃ before after, words = before ++ word :: after ∧ before.length = index := by
    rcases List.getElem?_eq_some_iff.mp found with ⟨below, same⟩
    refine ⟨words.take index, words.drop (index + 1), ?_, ?_⟩
    · rw [← same, List.getElem_cons_drop, List.take_append_drop]
    · rw [List.length_take, Nat.min_eq_left (Nat.le_of_lt below)]
  rcases split with ⟨before, after, rfl, rfl⟩
  have read := readWord_stored order order before word (storeWords order after ++ rest)
  rwa [ByteOrder.load_store, ← List.append_assoc (order.store word), ← storeWords_cons,
    ← List.append_assoc, ← storeWords_append] at read

theorem readWord_getElem (order : ByteOrder) (words : List UInt64) {index : Nat}
    {word : UInt64} (found : words[index]? = some word) :
    readWord order (storeWords order words) index = some word := by
  have read := readWord_header order found []
  rwa [List.append_nil] at read

/-- A word can be read exactly where it lies in the block. -/
theorem readWord_isSome (order : ByteOrder) (memory : List UInt8) (index : Nat) :
    (readWord order memory index).isSome = true ↔ 8 * (index + 1) ≤ memory.length := by
  have taken : ((memory.drop (8 * index)).take 8).length = 8 ↔
      8 * (index + 1) ≤ memory.length := by
    rw [List.length_take, List.length_drop]
    omega
  rw [readWord, ← taken]
  split
  · next inside => exact iff_of_true rfl inside
  · next outside => exact iff_of_false (by simp) outside

theorem readWords_inside (order : ByteOrder) (before words after : List UInt64) :
    readWords order (storeWords order (before ++ (words ++ after))) before.length words.length =
      some words := by
  induction words generalizing before with
  | nil => rfl
  | cons word words inductionHypothesis =>
      have read := readWord_stored order order before word (storeWords order (words ++ after))
      rw [ByteOrder.load_store, ← storeWords_cons, ← storeWords_append] at read
      have later := inductionHypothesis (before ++ [word])
      rw [List.length_append, List.length_singleton, List.append_assoc, List.singleton_append]
        at later
      rw [List.length_cons, readWords, List.cons_append, read]
      dsimp only
      rw [later, Option.map_some]

theorem readWords_isSome (order : ByteOrder) (memory : List UInt8) (first count : Nat) :
    (readWords order memory first count).isSome = true ↔
      count = 0 ∨ 8 * (first + count) ≤ memory.length := by
  induction count generalizing first with
  | zero => exact iff_of_true rfl (Or.inl rfl)
  | succ count inductionHypothesis =>
      have here := readWord_isSome order memory first
      have later := inductionHypothesis (first + 1)
      rw [readWords]
      cases read : readWord order memory first with
      | none =>
          rw [read] at here
          have outside : ¬ 8 * (first + 1) ≤ memory.length := by
            intro inside
            cases here.mpr inside
          exact iff_of_false (by simp) (by omega)
      | some word =>
          rw [read] at here
          have inside : 8 * (first + 1) ≤ memory.length := here.mp rfl
          dsimp only
          rw [Option.isSome_map, later]
          omega

theorem readWords_length {order : ByteOrder} {memory : List UInt8} {first count : Nat}
    {words : List UInt64} (read : readWords order memory first count = some words) :
    words.length = count := by
  induction count generalizing first words with
  | zero =>
      cases read
      rfl
  | succ count inductionHypothesis =>
      rw [readWords] at read
      split at read
      · cases read
      · rcases Option.map_eq_some_iff.mp read with ⟨rest, later, rfl⟩
        rw [List.length_cons, inductionHypothesis later]

theorem readWords_outside (order : ByteOrder) {memory : List UInt8} {first count : Nat}
    (outside : memory.length < 8 * (first + count)) (some_ : 0 < count) :
    readWords order memory first count = none := by
  apply Option.not_isSome_iff_eq_none.mp
  rw [readWords_isSome]
  omega

/-- A word can be changed exactly where it lies in the block. -/
theorem changeWord_isSome (order : ByteOrder) (change : UInt64 → UInt64) (memory : List UInt8)
    (index : Nat) :
    (changeWord order change memory index).isSome = true ↔ 8 * (index + 1) ≤ memory.length := by
  rw [changeWord, Option.isSome_map, readWord_isSome]

theorem changeWord_length {order : ByteOrder} {change : UInt64 → UInt64}
    {memory next : List UInt8} {index : Nat}
    (changed : changeWord order change memory index = some next) :
    next.length = memory.length := by
  have inside : 8 * (index + 1) ≤ memory.length :=
    (changeWord_isSome order change memory index).mp (by simp [changed])
  rcases Option.map_eq_some_iff.mp changed with ⟨word, _, rfl⟩
  simp only [List.length_append, List.length_take, List.length_drop, ByteOrder.store_length]
  omega

theorem foldlM_changeWord_length {order : ByteOrder} {change : UInt64 → UInt64}
    {memory next : List UInt8} {indices : List Nat}
    (changed : indices.foldlM (changeWord order change) memory = some next) :
    next.length = memory.length :=
  foldlM_kept (fun _ _ _ same here => (changeWord_length here).trans same) rfl changed

/-- A loop that changes words in place ends when they all lie in the block. -/
theorem foldlM_changeWord_isSome (order : ByteOrder) (change : UInt64 → UInt64)
    (memory : List UInt8) (first count : Nat) :
    ((List.range' first count).foldlM (changeWord order change) memory).isSome = true ↔
      count = 0 ∨ 8 * (first + count) ≤ memory.length := by
  rw [foldlM_isSome_iff (fun state index same => by
    rw [changeWord_isSome, show state.length = memory.length from same])
    (fun state index next same changed => (changeWord_length changed).trans same) rfl]
  simp only [List.mem_range'_1]
  constructor
  · intro inside
    by_cases empty : count = 0
    · exact Or.inl empty
    · have last := inside (first + count - 1) (by omega)
      exact Or.inr (by omega)
  · intro inside index within
    omega

/-- The first words of a block that holds them in network order. -/
def networkWords : (count : Nat) → List UInt8 → List UInt64
  | 0, _ => []
  | count + 1, memory =>
      ByteOrder.big.load (memory.take 8) :: networkWords count (memory.drop 8)

@[simp] theorem networkWords_length (count : Nat) (memory : List UInt8) :
    (networkWords count memory).length = count := by
  induction count generalizing memory with
  | zero => rfl
  | succ count inductionHypothesis => rw [networkWords, List.length_cons, inductionHypothesis]

/-- A block is made of its first words and the bytes behind them. -/
theorem storeWords_networkWords {count : Nat} {memory : List UInt8}
    (inside : 8 * count ≤ memory.length) :
    storeWords .big (networkWords count memory) ++ memory.drop (8 * count) = memory := by
  induction count generalizing memory with
  | zero => rfl
  | succ count inductionHypothesis =>
      have whole : (memory.take 8).length = 8 := by
        rw [List.length_take]
        omega
      have rest : 8 * count ≤ (memory.drop 8).length := by
        rw [List.length_drop]
        omega
      have later := inductionHypothesis rest
      rw [List.drop_drop] at later
      rw [networkWords, storeWords_cons, ByteOrder.store_load .big whole, List.append_assoc,
        show 8 * (count + 1) = 8 + 8 * count by omega, later, List.take_append_drop]

/-- A loop that converts words stored in network order to the order of the host,
whatever stands behind them. -/
theorem foldlM_ntohll_rest (order : ByteOrder) (before words : List UInt64) (rest : List UInt8) :
    (List.range' before.length words.length).foldlM (changeWord order order.ntohll)
        (storeWords order before ++ (storeWords .big words ++ rest)) =
      some (storeWords order (before ++ words) ++ rest) := by
  induction words generalizing before with
  | nil => rw [List.append_nil]; rfl
  | cons word words inductionHypothesis =>
      have changed := changeWord_stored order .big before word (storeWords .big words ++ rest)
        order.ntohll
      rw [ByteOrder.ntohll_load] at changed
      have later := inductionHypothesis (before ++ [word])
      rw [List.length_append, List.length_singleton, List.append_assoc, List.singleton_append]
        at later
      rw [List.length_cons, List.range'_succ, List.foldlM_cons, storeWords_cons,
        List.append_assoc, changed]
      exact later

theorem foldlM_ntohll (order : ByteOrder) (before words after : List UInt64) :
    (List.range' before.length words.length).foldlM (changeWord order order.ntohll)
        (storeWords order before ++ storeWords .big (words ++ after)) =
      some (storeWords order (before ++ words) ++ storeWords .big after) := by
  rw [storeWords_append]
  exact foldlM_ntohll_rest order before words (storeWords .big after)

end Foundation
end Ipbench
