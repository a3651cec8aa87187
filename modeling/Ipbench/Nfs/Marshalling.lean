import Ipbench.Latency.Marshalling

namespace Ipbench
namespace Nfs

open Foundation Latency

/-!
# The message of an NFS latency client

The message has a header of four words.  The controller keeps the number of
samples in the record only, and asserts that the input has the length which
this number gives.
-/

structure LatencyResult where
  microseconds : UInt64
  sends : UInt64
  recvs : UInt64
deriving DecidableEq, Repr

/-- The fields of a message before its data, in the order of memory. -/
structure MarshalledResult where
  time : UInt64
  samples : UInt64
  sends : UInt64
  recvs : UInt64
deriving DecidableEq, Repr

def MarshalledResult.words (header : MarshalledResult) : List UInt64 :=
  [header.time, header.samples, header.sends, header.recvs]

/-- The fields that `nfs_latency_marshall` fills in. -/
def marshalledResult (result : LatencyResult) (samples : UInt64) : MarshalledResult where
  time := result.microseconds
  samples := samples
  sends := result.sends
  recvs := result.recvs

def nfsLatencyMarshall (order : ByteOrder) (malloc : Nat → Bool) (tickToUsec : UInt64 → UInt64)
    (result : LatencyResult) (samples : UInt64) (sample : List UInt64) : Option Marshalled :=
  marshallMessage order malloc tickToUsec (marshalledResult result samples).words samples sample

/-- What `nfs_latency_unmarshall` returns and stores. -/
structure NfsUnmarshalled where
  status : Int
  data : Option (List UInt8)
  dataLen : Int
deriving DecidableEq, Repr

/-- `nfs_latency_unmarshall`.  An input of another length fails the assertion. -/
def nfsLatencyUnmarshall (order : ByteOrder) (malloc : Nat → Bool) (input : List UInt8)
    (inputLen : Int) : Option NfsUnmarshalled := do
  let (count, converted) ← convertMessage order 4 input
  let dataLen := asInt (UInt64.ofNat (8 * 4) + 8 * count).toNat
  if malloc (asSize dataLen) then
    if inputLen = dataLen then
      some { status := 0, data := some (converted.take (asSize inputLen)), dataLen := dataLen }
    else none
  else some { status := -1, data := none, dataLen := dataLen }

/-- The controller finds the words of a message in its own order. -/
theorem nfsLatencyUnmarshall_message (order : ByteOrder) {malloc : Nat → Bool}
    (header : MarshalledResult) {data : List UInt64}
    (counted : header.samples.toNat = data.length) (fits : 32 + 8 * data.length < 0x80000000)
    (available : malloc (32 + 8 * data.length)) :
    nfsLatencyUnmarshall order malloc (storeWords .big (header.words ++ data))
        (32 + 8 * data.length : Nat) =
      some
        { status := 0
          data := some (storeWords order (header.words ++ data))
          dataLen := (32 + 8 * data.length : Nat) } := by
  have length : (storeWords order (header.words ++ data)).length = 32 + 8 * data.length := by
    rw [storeWords_length, List.length_append, Nat.mul_add]
    rfl
  have converted : convertMessage order 4 (storeWords .big (header.words ++ data)) =
      some (header.samples, storeWords order (header.words ++ data)) :=
    convertMessage_eq order rfl counted
  have size : (UInt64.ofNat (8 * 4) + 8 * header.samples).toNat = 32 + 8 * data.length := by
    rw [← counted]
    exact messageSize_toNat (counted ▸ fits)
  unfold nfsLatencyUnmarshall
  rw [converted, Option.bind_eq_bind, Option.bind_some]
  dsimp only
  rw [size, asInt_of_lt fits, asSize_natCast fits, if_pos available, if_pos rfl,
    List.take_of_length_le (Nat.le_of_eq length)]

end Nfs
end Ipbench
