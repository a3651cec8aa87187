import Mathlib.Data.List.Basic

namespace Ipbench
namespace Foundation

/-!
# A socket that cuts its stream

The bytes that the peer sends before it closes, and how many of them each
`recv` finds.  A `recv` returns at least one byte and at most as many as it
asks for; at the end of the stream it returns none.  When the list of cuts
runs out, `recv` returns all it asks for.
-/

structure Socket where
  stream : List UInt8
  cuts : List Nat
deriving DecidableEq, Repr

namespace Socket

/-- How many bytes the next `recv` asks the stream for. -/
def count (socket : Socket) (size : Nat) : Nat :=
  min size (max 1 (socket.cuts.headD size))

/-- `recv(size)`: the bytes, and the socket after the call. -/
def recv (socket : Socket) (size : Nat) : List UInt8 × Socket :=
  (socket.stream.take (socket.count size),
    { stream := socket.stream.drop (socket.count size), cuts := socket.cuts.tail })

variable (socket : Socket) {size : Nat}

theorem recv_append (size : Nat) :
    (socket.recv size).1 ++ (socket.recv size).2.stream = socket.stream :=
  List.take_append_drop _ _

theorem recv_length_le (size : Nat) : (socket.recv size).1.length ≤ size :=
  Nat.le_trans (List.length_take_le _ _) (Nat.min_le_left _ _)

theorem recv_ne_nil (asked : 0 < size) (open_ : socket.stream ≠ []) :
    (socket.recv size).1 ≠ [] := by
  apply List.ne_nil_of_length_pos
  have some : 0 < socket.count size :=
    Nat.lt_min.mpr ⟨asked, Nat.lt_of_lt_of_le Nat.one_pos (Nat.le_max_left _ _)⟩
  rw [recv, List.length_take]
  exact Nat.lt_min.mpr ⟨some, List.length_pos_iff.mpr open_⟩

end Socket

end Foundation
end Ipbench
