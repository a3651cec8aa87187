import Ipbench.Latency.Marshalling

namespace Ipbench
namespace LatencyCheck

open Foundation Latency

/-!
# The message of a latency-check client

The test is a copy of the latency test whose target is expected to change each
packet.  Its result and its message have one field more, the number of packets
that were not changed as they should.
-/

/-- The fields of the result that are set or read outside debugging builds. -/
structure LatencyResult extends Latency.LatencyResult where
  badPackets : UInt64
deriving DecidableEq, Repr

/-- The fields of a message before its data, in the order of memory. -/
structure MarshalledResult where
  time : UInt64
  samples : UInt64
  size : UInt64
  sends : UInt64
  recvs : UInt64
  badPackets : UInt64
  throughputRequested : UInt64
  throughputAchieved : UInt64
  throughputSent : UInt64
deriving DecidableEq, Repr

def MarshalledResult.words (header : MarshalledResult) : List UInt64 :=
  [header.time, header.samples, header.size, header.sends, header.recvs, header.badPackets,
    header.throughputRequested, header.throughputAchieved, header.throughputSent]

/-- The fields that `latency_marshall` fills in; `bps` is the requested rate. -/
def marshalledResult (result : LatencyResult) (bps samples : UInt64) : MarshalledResult where
  time := result.microseconds
  samples := samples
  size := result.size
  sends := result.sends
  recvs := result.recvs
  badPackets := result.badPackets
  throughputRequested := bps
  throughputAchieved := result.bps
  throughputSent := result.bpsSent

def latencyMarshall (order : ByteOrder) (malloc : Nat → Bool) (tickToUsec : UInt64 → UInt64)
    (result : LatencyResult) (bps samples : UInt64) (rttSample : List UInt64) :
    Option Marshalled :=
  marshallMessage order malloc tickToUsec (marshalledResult result bps samples).words samples
    rttSample

def latencyUnmarshall (order : ByteOrder) (malloc : Nat → Bool) (samples : UInt64)
    (input : List UInt8) : Option Unmarshalled :=
  unmarshallMessage order malloc 9 samples input

end LatencyCheck
end Ipbench
