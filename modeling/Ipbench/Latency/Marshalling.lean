import Ipbench.Foundation.WordMemory
import Ipbench.Latency.Measure

namespace Ipbench
namespace Latency

open Foundation

/-!
# The message of a latency client

`latency_marshall` writes eight words and the samples, in network order;
`latency_unmarshall` converts a copy of the message in place and remembers the
number of samples in a global variable.  Sizes are C integers, `malloc` is a
parameter that says which requests succeed, and reading or writing outside a
block is `none`.

Other clients send the same kind of message with another header.  The number of
samples is the second word of every header.
-/

/-! ## C integers -/

def asInt (value : Nat) : Int :=
  Int.bmod value 0x100000000

/-- Conversion of an `int` to `size_t`. -/
def asSize (value : Int) : Nat :=
  (value % 0x10000000000000000).toNat

theorem asInt_of_lt {value : Nat} (small : value < 0x80000000) : asInt value = value := by
  unfold asInt
  rw [Int.bmod_def]
  split
  · omega
  · omega

theorem asSize_natCast {value : Nat} (small : value < 0x80000000) : asSize value = value := by
  unfold asSize
  omega

/-! ## Messages with a header of any length -/

/-- The data and the size of a message, or the status -1 of a failing `malloc`. -/
inductive Marshalled where
  | outOfMemory
  | message (data : List UInt8) (size : Int)
deriving DecidableEq, Repr

/-- The message of a header and the samples that have been measured, with the
conversion from ticks as a parameter. -/
def marshallMessage (order : ByteOrder) (malloc : Nat → Bool) (tickToUsec : UInt64 → UInt64)
    (header : List UInt64) (samples : UInt64) (sample : List UInt64) : Option Marshalled :=
  let size := UInt64.ofNat (8 * header.length) + 8 * samples
  if malloc size.toNat then
    if samples.toNat ≤ sample.length then
      let data := (sample.take samples.toNat).map fun ticks => order.htonll (tickToUsec ticks)
      some (.message (storeWords order (header.map order.htonll ++ data)) (asInt size.toNat))
    else none
  else some .outOfMemory

/-- What unmarshalling returns and stores, with the global number of
samples after the call.  The data are null when `malloc` failed. -/
structure Unmarshalled where
  status : Int
  data : Option (List UInt8)
  dataLen : Int
  samples : UInt64
deriving DecidableEq, Repr

/-- Convert the header of a message in place, and as many words of data as it
says; the number comes with the result. -/
def convertMessage (order : ByteOrder) (width : Nat) (input : List UInt8) :
    Option (UInt64 × List UInt8) := do
  let header ← (List.range' 0 width).foldlM (changeWord order order.ntohll) input
  let count ← readWord order header 1
  let converted ← (List.range' width count.toNat).foldlM (changeWord order order.ntohll) header
  some (count, converted)

/-- Unmarshalling with a counter that is a C integer.  The block has `data_len`
bytes and is filled with the whole input; a shorter input has been read past its
end before. -/
def unmarshallMessage (order : ByteOrder) (malloc : Nat → Bool) (width : Nat) (samples : UInt64)
    (input : List UInt8) : Option Unmarshalled := do
  let (count, converted) ← convertMessage order width input
  if 0x80000000 ≤ count.toNat then none
  else
    let dataLen := asInt (UInt64.ofNat (8 * width) + 8 * count).toNat
    if malloc (asSize dataLen) then
      if converted.length = dataLen then
        some { status := 0, data := some converted, dataLen := dataLen, samples := count }
      else none
    else some { status := -1, data := none, dataLen := dataLen, samples := samples }

theorem storeWords_htonll (order : ByteOrder) (words : List UInt64) :
    storeWords order (words.map order.htonll) = storeWords .big words := by
  induction words with
  | nil => rfl
  | cons word words inductionHypothesis =>
      rw [List.map_cons, storeWords_cons, storeWords_cons, ByteOrder.store_htonll,
        inductionHypothesis]

theorem messageSize_toNat {width : Nat} {samples : UInt64}
    (fits : 8 * width + 8 * samples.toNat < 0x80000000) :
    (UInt64.ofNat (8 * width) + 8 * samples).toNat = 8 * width + 8 * samples.toNat := by
  rw [UInt64.toNat_add, UInt64.toNat_mul, UInt64.toNat_ofNat']
  change (8 * width % 2 ^ 64 + 8 * samples.toNat % 2 ^ 64) % 2 ^ 64 = _
  omega

/-- The message of a client that has measured `samples` round trips consists of
its header and these, in network order. -/
theorem marshallMessage_eq (order : ByteOrder) {malloc : Nat → Bool}
    (tickToUsec : UInt64 → UInt64) {header : List UInt64} {samples : UInt64}
    {sample : List UInt64} (measured : sample.length = samples.toNat)
    (fits : 8 * header.length + 8 * samples.toNat < 0x80000000)
    (available : malloc (8 * header.length + 8 * samples.toNat)) :
    marshallMessage order malloc tickToUsec header samples sample =
      some (.message (storeWords .big (header ++ sample.map tickToUsec))
        (8 * header.length + 8 * samples.toNat : Nat)) := by
  have converted : (sample.map fun ticks => order.htonll (tickToUsec ticks)) =
      (sample.map tickToUsec).map order.htonll := by
    rw [List.map_map]
    rfl
  rw [marshallMessage, messageSize_toNat fits]
  dsimp only
  rw [if_pos available, if_pos (Nat.le_of_eq measured.symm), ← measured, List.take_length,
    converted, ← List.map_append, storeWords_htonll, measured, asInt_of_lt fits]

/-- Converting a message gives its words in the order of the host. -/
theorem convertMessage_eq (order : ByteOrder) {header data : List UInt64} {count : UInt64}
    (second : header[1]? = some count) (counted : count.toNat = data.length) :
    convertMessage order header.length (storeWords .big (header ++ data)) =
      some (count, storeWords order (header ++ data)) := by
  have first : (List.range' 0 header.length).foldlM (changeWord order order.ntohll)
      (storeWords .big (header ++ data)) =
        some (storeWords order header ++ storeWords .big data) :=
    foldlM_ntohll order [] header data
  have read : readWord order (storeWords order header ++ storeWords .big data) 1 = some count :=
    readWord_header order second _
  have rest := foldlM_ntohll order header data []
  rw [List.append_nil, storeWords_nil, List.append_nil, ← counted] at rest
  unfold convertMessage
  rw [first, Option.bind_eq_bind, Option.bind_some, read, Option.bind_eq_bind, Option.bind_some,
    rest]
  rfl

/-- The controller finds the words of a message in its own order, and keeps
their number. -/
theorem unmarshallMessage_eq (order : ByteOrder) (malloc : Nat → Bool) (old : UInt64)
    {header data : List UInt64} {count : UInt64} (second : header[1]? = some count)
    (counted : count.toNat = data.length)
    (fits : 8 * header.length + 8 * data.length < 0x80000000) :
    unmarshallMessage order malloc header.length old (storeWords .big (header ++ data)) =
      if malloc (8 * header.length + 8 * data.length) then
        some
          { status := 0
            data := some (storeWords order (header ++ data))
            dataLen := (8 * header.length + 8 * data.length : Nat)
            samples := count }
      else
        some
          { status := -1
            data := none
            dataLen := (8 * header.length + 8 * data.length : Nat)
            samples := old } := by
  have small : ¬ 0x80000000 ≤ count.toNat := by omega
  have length : (storeWords order (header ++ data)).length =
      8 * header.length + 8 * data.length := by
    rw [storeWords_length, List.length_append, Nat.mul_add]
  rw [← counted] at fits
  unfold unmarshallMessage
  rw [convertMessage_eq order second counted, Option.bind_eq_bind, Option.bind_some]
  dsimp only
  rw [if_neg small, messageSize_toNat fits, counted, asInt_of_lt (counted ▸ fits),
    asSize_natCast (counted ▸ fits), length]
  by_cases available : malloc (8 * header.length + 8 * data.length) = true
  · rw [if_pos available, if_pos available, if_pos rfl]
  · rw [if_neg available, if_neg available]

/-! ## The message of latency -/

/-- The fields of a message before its data, in the order of memory. -/
structure MarshalledResult where
  time : UInt64
  samples : UInt64
  size : UInt64
  sends : UInt64
  recvs : UInt64
  throughputRequested : UInt64
  throughputAchieved : UInt64
  throughputSent : UInt64
deriving DecidableEq, Repr

def MarshalledResult.words (header : MarshalledResult) : List UInt64 :=
  [header.time, header.samples, header.size, header.sends, header.recvs,
    header.throughputRequested, header.throughputAchieved, header.throughputSent]

/-- The fields that `latency_marshall` fills in; `bps` is the requested rate. -/
def marshalledResult (result : LatencyResult) (bps samples : UInt64) : MarshalledResult where
  time := result.microseconds
  samples := samples
  size := result.size
  sends := result.sends
  recvs := result.recvs
  throughputRequested := bps
  throughputAchieved := result.bps
  throughputSent := result.bpsSent

/-- `latency_marshall`, with the conversion from ticks as a parameter. -/
def latencyMarshall (order : ByteOrder) (malloc : Nat → Bool) (tickToUsec : UInt64 → UInt64)
    (result : LatencyResult) (bps samples : UInt64) (rttSample : List UInt64) :
    Option Marshalled :=
  let size := 64 + 8 * samples
  if malloc size.toNat then
    if samples.toNat ≤ rttSample.length then
      let rttData := (rttSample.take samples.toNat).map fun rtt => order.htonll (tickToUsec rtt)
      let header := (marshalledResult result bps samples).words.map order.htonll
      some (.message (storeWords order (header ++ rttData)) (asInt size.toNat))
    else none
  else some .outOfMemory

/-- `latency_unmarshall`.  The block has `data_len` bytes and is filled with
the whole input; a shorter input has been read past its end before. -/
def latencyUnmarshall (order : ByteOrder) (malloc : Nat → Bool) (samples : UInt64)
    (input : List UInt8) : Option Unmarshalled := do
  let header ← (List.range' 0 8).foldlM (changeWord order order.ntohll) input
  let count ← readWord order header 1
  if 0x80000000 ≤ count.toNat then none
  else
    let converted ← (List.range' 8 count.toNat).foldlM (changeWord order order.ntohll) header
    let dataLen := asInt (64 + 8 * count).toNat
    if malloc (asSize dataLen) then
      if converted.length = dataLen then
        some { status := 0, data := some converted, dataLen := dataLen, samples := count }
      else none
    else some { status := -1, data := none, dataLen := dataLen, samples := samples }

/-! ## The round trip -/

theorem latencyMarshall_eq (order : ByteOrder) (malloc : Nat → Bool)
    (tickToUsec : UInt64 → UInt64) (result : LatencyResult) (bps samples : UInt64)
    (rttSample : List UInt64) :
    latencyMarshall order malloc tickToUsec result bps samples rttSample =
      marshallMessage order malloc tickToUsec (marshalledResult result bps samples).words
        samples rttSample := rfl

theorem latencyUnmarshall_eq (order : ByteOrder) (malloc : Nat → Bool) (samples : UInt64)
    (input : List UInt8) :
    latencyUnmarshall order malloc samples input =
      unmarshallMessage order malloc 8 samples input := by
  unfold latencyUnmarshall unmarshallMessage convertMessage
  cases (List.range' 0 8).foldlM (changeWord order order.ntohll) input with
  | none => rfl
  | some header =>
      simp only [Option.bind_eq_bind, Option.bind_some]
      cases readWord order header 1 with
      | none => rfl
      | some count =>
          simp only [Option.bind_some]
          cases (List.range' 8 count.toNat).foldlM (changeWord order order.ntohll) header with
          | none => exact ite_self none
          | some converted => rfl

/-- A client that has measured `samples` round trips sends its header and these
in network order. -/
theorem latencyMarshall_message (order : ByteOrder) (malloc : Nat → Bool)
    (tickToUsec : UInt64 → UInt64) (result : LatencyResult) (bps : UInt64) {samples : UInt64}
    {rttSample : List UInt64} (measured : rttSample.length = samples.toNat)
    (fits : 64 + 8 * samples.toNat < 0x80000000) (available : malloc (64 + 8 * samples.toNat)) :
    latencyMarshall order malloc tickToUsec result bps samples rttSample =
      some (.message (storeWords .big ((marshalledResult result bps samples).words ++
        rttSample.map tickToUsec)) (64 + 8 * samples.toNat : Nat)) := by
  rw [latencyMarshall_eq]
  exact marshallMessage_eq order tickToUsec measured fits available

/-- The controller finds the words of the message in its own order, and keeps
their number. -/
theorem latencyUnmarshall_message (order : ByteOrder) (malloc : Nat → Bool) (old : UInt64)
    (header : MarshalledResult) (rtt : List UInt64) (counted : header.samples.toNat = rtt.length)
    (fits : 64 + 8 * rtt.length < 0x80000000) :
    latencyUnmarshall order malloc old (storeWords .big (header.words ++ rtt)) =
      if malloc (64 + 8 * rtt.length) then
        some
          { status := 0
            data := some (storeWords order (header.words ++ rtt))
            dataLen := (64 + 8 * rtt.length : Nat)
            samples := header.samples }
      else
        some
          { status := -1, data := none, dataLen := (64 + 8 * rtt.length : Nat), samples := old } := by
  rw [latencyUnmarshall_eq]
  exact unmarshallMessage_eq order malloc old rfl counted fits

end Latency
end Ipbench
