import Ipbench.Foundation.ByteOrder
import Ipbench.Latency.Measure

namespace Ipbench
namespace Latency

open Foundation

/-!
# The packet functions of TCP and UDP

A packet carries its identifier as a 64-bit word in the byte order of the
host, at the start of the buffer.  The rest of the buffer is never written.
-/

/-- Store the identifier in the first eight bytes. -/
def ipFillPacket (order : ByteOrder) (packet : List UInt8) (seq : UInt64) : List UInt8 :=
  order.store seq ++ packet.drop 8

/-- Load the identifier from the first eight bytes. -/
def ipReadPacket (order : ByteOrder) (packet : List UInt8) : UInt64 :=
  order.load (packet.take 8)

/-- The packet functions of both `tcp_layer` and `udp_layer`. -/
def ipLayer (order : ByteOrder) : LayerOpts where
  fillPacket := ipFillPacket order
  readPacket := ipReadPacket order

theorem ipReadPacket_store (order : ByteOrder) (seq : UInt64) (rest : List UInt8) :
    ipReadPacket order (order.store seq ++ rest) = seq := by
  have head : (order.store seq ++ rest).take 8 = order.store seq := by
    rw [← order.store_length seq, List.take_left]
  rw [ipReadPacket, head, ByteOrder.load_store]

end Latency
end Ipbench
