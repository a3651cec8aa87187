import Ipbench.LatencyCheck.Marshalling
import Ipbench.Nfs.Marshalling

namespace Ipbench
namespace Controller

open Foundation Latency

/-!
# What the controller recovers from a message

The three latency tests send a header and their samples, and each has its own
pair of functions for it.  Client and controller may run on hosts of different
byte order.  If the message fits a C integer and there is memory for it, the
controller ends up with the words of the client in its own order.
-/

/-- The outcome of an unmarshalling function for a message that carries a header
and data. -/
structure Recovered (order : ByteOrder) (header data : List UInt64) (message : List UInt8)
    (status : Int) (block : Option (List UInt8)) (dataLen : Int) : Prop where
  success : status = 0
  whole : dataLen = message.length
  headerRead : block.bind (readWords order · 0 header.length) = some header
  dataRead : block.bind (readWords order · header.length data.length) = some data

theorem recovered_stored (order : ByteOrder) (header data : List UInt64) {dataLen : Int}
    (whole : dataLen = (8 * header.length + 8 * data.length : Nat)) :
    Recovered order header data (storeWords .big (header ++ data)) 0
      (some (storeWords order (header ++ data))) dataLen where
  success := rfl
  whole := by
    rw [whole, storeWords_length, List.length_append, Nat.mul_add]
  headerRead := readWords_inside order [] header data
  dataRead := by
    have read := readWords_inside order header data []
    rw [List.append_nil] at read
    exact read

section Clients

variable (client controller : ByteOrder) (tickToUsec : UInt64 → UInt64) (sample : List UInt64)

/-- The messages of a header with `width` words fit a C integer, and there is
memory for them on both hosts. -/
structure Fits (clientMalloc controllerMalloc : Nat → Bool) (width : Nat) : Prop where
  bounded : 8 * width + 8 * sample.length < 0x80000000
  sent : clientMalloc (8 * width + 8 * sample.length) = true
  kept : controllerMalloc (8 * width + 8 * sample.length) = true

/-- The number of samples as the client counts them. -/
def sampleCount : UInt64 :=
  UInt64.ofNat sample.length

variable {clientMalloc controllerMalloc : Nat → Bool} {sample}

theorem Fits.counted {width : Nat} (fits : Fits sample clientMalloc controllerMalloc width) :
    (sampleCount sample).toNat = sample.length := by
  have bounded := fits.bounded
  rw [sampleCount, UInt64.toNat_ofNat', Nat.mod_eq_of_lt (by omega)]

/-- A client with any header sends its words in network order. -/
theorem Fits.marshalls (header : List UInt64)
    (fits : Fits sample clientMalloc controllerMalloc header.length) :
    marshallMessage client clientMalloc tickToUsec header (sampleCount sample) sample =
      some (.message (storeWords .big (header ++ sample.map tickToUsec))
        (8 * header.length + 8 * sample.length : Nat)) := by
  have sent := marshallMessage_eq client tickToUsec fits.counted.symm
    (by rw [fits.counted]; exact fits.bounded) (by rw [fits.counted]; exact fits.sent)
  rw [fits.counted] at sent
  exact sent

/-- A controller whose counter is a C integer recovers them. -/
theorem Fits.unmarshalls {header : List UInt64} (old : UInt64)
    (fits : Fits sample clientMalloc controllerMalloc header.length)
    (second : header[1]? = some (sampleCount sample)) :
    unmarshallMessage controller controllerMalloc header.length old
        (storeWords .big (header ++ sample.map tickToUsec)) =
      some
        { status := 0
          data := some (storeWords controller (header ++ sample.map tickToUsec))
          dataLen := (8 * header.length + 8 * sample.length : Nat)
          samples := sampleCount sample } := by
  have length : (sample.map tickToUsec).length = sample.length := List.length_map _
  have recovered := unmarshallMessage_eq controller controllerMalloc old second
    (fits.counted.trans length.symm) (by rw [length]; exact fits.bounded)
  rw [length, if_pos fits.kept] at recovered
  exact recovered

/-- The round trip of a test whose functions are the general ones. -/
theorem Fits.roundTrip (header : List UInt64) (old : UInt64)
    (fits : Fits sample clientMalloc controllerMalloc header.length)
    (second : header[1]? = some (sampleCount sample)) :
    ∃ message size result,
      marshallMessage client clientMalloc tickToUsec header (sampleCount sample) sample =
          some (.message message size) ∧ size = message.length ∧
        unmarshallMessage controller controllerMalloc header.length old message = some result ∧
          Recovered controller header (sample.map tickToUsec) message result.status result.data
            result.dataLen ∧
          result.samples = sampleCount sample := by
  have length : (sample.map tickToUsec).length = sample.length := List.length_map _
  refine ⟨_, _, _, fits.marshalls client tickToUsec header, ?_,
    fits.unmarshalls controller tickToUsec old second, ?_, rfl⟩
  · rw [storeWords_length, List.length_append, length, Nat.mul_add]
  · apply recovered_stored
    rw [length]

end Clients

/-- Each latency test brings its header and its samples, in microseconds, to the
controller, whatever the byte orders of the two hosts. -/
theorem marshall_roundTrip (client controller : ByteOrder) (tickToUsec : UInt64 → UInt64)
    (clientMalloc controllerMalloc : Nat → Bool) (sample : List UInt64) :
    (∀ (result : Latency.LatencyResult) (bps old : UInt64),
      Fits sample clientMalloc controllerMalloc 8 →
      ∃ message size unmarshalled,
        Latency.latencyMarshall client clientMalloc tickToUsec result bps (sampleCount sample)
            sample = some (.message message size) ∧ size = message.length ∧
        Latency.latencyUnmarshall controller controllerMalloc old message =
            some unmarshalled ∧
        Recovered controller (Latency.marshalledResult result bps (sampleCount sample)).words
          (sample.map tickToUsec) message unmarshalled.status unmarshalled.data
          unmarshalled.dataLen ∧
        unmarshalled.samples = sampleCount sample) ∧
    (∀ (result : LatencyCheck.LatencyResult) (bps old : UInt64),
      Fits sample clientMalloc controllerMalloc 9 →
      ∃ message size unmarshalled,
        LatencyCheck.latencyMarshall client clientMalloc tickToUsec result bps
            (sampleCount sample) sample = some (.message message size) ∧ size = message.length ∧
        LatencyCheck.latencyUnmarshall controller controllerMalloc old message =
            some unmarshalled ∧
        Recovered controller
          (LatencyCheck.marshalledResult result bps (sampleCount sample)).words
          (sample.map tickToUsec) message unmarshalled.status unmarshalled.data
          unmarshalled.dataLen ∧
        unmarshalled.samples = sampleCount sample) ∧
    (∀ result : Nfs.LatencyResult, Fits sample clientMalloc controllerMalloc 4 →
      ∃ message size unmarshalled,
        Nfs.nfsLatencyMarshall client clientMalloc tickToUsec result (sampleCount sample)
            sample = some (.message message size) ∧ size = message.length ∧
        Nfs.nfsLatencyUnmarshall controller controllerMalloc message message.length =
            some unmarshalled ∧
        Recovered controller (Nfs.marshalledResult result (sampleCount sample)).words
          (sample.map tickToUsec) message unmarshalled.status unmarshalled.data
          unmarshalled.dataLen) := by
  refine ⟨?_, ?_, ?_⟩
  · intro result bps old fits
    obtain ⟨message, size, unmarshalled, sent, whole, kept, recovered⟩ :=
      fits.roundTrip client controller tickToUsec
        (Latency.marshalledResult result bps (sampleCount sample)).words old rfl
    refine ⟨message, size, unmarshalled, sent, whole, ?_, recovered⟩
    rw [latencyUnmarshall_eq]
    exact kept
  · intro result bps old fits
    exact fits.roundTrip client controller tickToUsec
      (LatencyCheck.marshalledResult result bps (sampleCount sample)).words old rfl
  · intro result fits
    have length : (sample.map tickToUsec).length = sample.length := List.length_map _
    have sent := fits.marshalls client tickToUsec
      (Nfs.marshalledResult result (sampleCount sample)).words
    have kept := Nfs.nfsLatencyUnmarshall_message controller
      (Nfs.marshalledResult result (sampleCount sample))
      (fits.counted.trans length.symm) (by rw [length]; exact fits.bounded)
      (by rw [length]; exact fits.kept)
    have whole : (storeWords .big ((Nfs.marshalledResult result (sampleCount sample)).words ++
        sample.map tickToUsec)).length = 32 + 8 * (sample.map tickToUsec).length := by
      rw [storeWords_length, List.length_append, Nat.mul_add]
      rfl
    rw [← whole] at kept
    refine ⟨_, _, _, sent, ?_, kept, ?_⟩
    · rw [whole, length]
      rfl
    · apply recovered_stored
      rw [whole]
      rfl

/-- Two samples go from a little-endian NFS client to a big-endian controller. -/
theorem marshall_roundTrip_twoSamples :
    ∃ message size unmarshalled,
      Nfs.nfsLatencyMarshall .little (fun _ => true) (· / 3)
          { microseconds := 500, sends := 7, recvs := 2 } (sampleCount [30, 60]) [30, 60] =
        some (.message message size) ∧ size = message.length ∧
      Nfs.nfsLatencyUnmarshall .big (fun _ => true) message message.length =
        some unmarshalled ∧
      Recovered .big [500, 2, 7, 2] [10, 20] message unmarshalled.status unmarshalled.data
        unmarshalled.dataLen :=
  (marshall_roundTrip .little .big (· / 3) (fun _ => true) (fun _ => true) [30, 60]).2.2 _
    ⟨by decide, rfl, rfl⟩

end Controller
end Ipbench
