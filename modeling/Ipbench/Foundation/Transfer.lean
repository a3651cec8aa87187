import Ipbench.Foundation.ByteOrder
import Ipbench.Foundation.Socket

namespace Ipbench
namespace Foundation

/-!
# Transfers over a stream

Loops that call `recv` until a number of bytes has arrived, and `send` until a
number of bytes is gone.  Both ends of a connection are cut at arbitrary
points.  The loops hide the cuts: what they move depends on the stream alone.

The words in front of messages are in network order.
-/

/-! ## Receiving -/

/-- Receive until a number of bytes has arrived or the stream ends.  `fuel`
bounds the calls; as many as bytes are always enough. -/
def Socket.receiveAll : (fuel size : Nat) → Socket → List UInt8 × Socket
  | 0, _, socket => ([], socket)
  | _ + 1, 0, socket => ([], socket)
  | fuel + 1, size + 1, socket =>
      let received := socket.recv (size + 1)
      if received.1 = [] then received
      else
        let rest := receiveAll fuel (size + 1 - received.1.length) received.2
        (received.1 ++ rest.1, rest.2)

theorem Socket.recv_split (socket : Socket) (size : Nat) :
    ∃ count, count ≤ size ∧ (socket.recv size).1 = socket.stream.take count ∧
      (socket.recv size).2.stream = socket.stream.drop count :=
  ⟨socket.count size, Nat.min_le_left _ _, rfl, rfl⟩

/-- The loop takes the front of the stream, wherever the stream is cut. -/
theorem Socket.receiveAll_eq {fuel size : Nat} (enough : size ≤ fuel) (socket : Socket) :
    (socket.receiveAll fuel size).1 = socket.stream.take size ∧
      (socket.receiveAll fuel size).2.stream = socket.stream.drop size := by
  induction fuel generalizing size socket with
  | zero =>
      obtain rfl : size = 0 := Nat.le_zero.mp enough
      exact ⟨rfl, rfl⟩
  | succ fuel inductionHypothesis =>
      cases size with
      | zero => exact ⟨rfl, rfl⟩
      | succ size =>
          rcases socket.recv_split (size + 1) with ⟨count, most, taken, left⟩
          rw [receiveAll]
          dsimp only
          by_cases nothing : (socket.recv (size + 1)).1 = []
          · have empty : socket.stream = [] := by
              by_contra more
              exact socket.recv_ne_nil (Nat.succ_pos size) more nothing
            rw [if_pos nothing, nothing, left, empty, List.drop_nil, List.take_nil, List.drop_nil]
            exact ⟨rfl, rfl⟩
          · have some := List.length_pos_iff.mpr nothing
            have fewer : size + 1 - (socket.recv (size + 1)).1.length ≤ fuel := by omega
            rcases inductionHypothesis fewer (socket.recv (size + 1)).2 with ⟨later, behind⟩
            have length : (socket.recv (size + 1)).1.length = min count socket.stream.length := by
              rw [taken, List.length_take]
            rw [if_neg nothing]
            dsimp only
            rw [later, behind, left, taken, List.length_take]
            by_cases inside : count ≤ socket.stream.length
            · rw [Nat.min_eq_left inside]
              constructor
              · rw [← List.take_add, Nat.add_sub_cancel' most]
              · rw [List.drop_drop, Nat.add_sub_cancel' most]
            · have short : socket.stream.length ≤ count := Nat.le_of_not_le inside
              rw [List.drop_eq_nil_of_le short, List.take_of_length_le short, List.take_nil,
                List.drop_nil, List.append_nil, List.take_of_length_le (by omega),
                List.drop_eq_nil_of_le (by omega)]
              exact ⟨rfl, rfl⟩

/-! ## Sending -/

/-- Send until all is gone.  Each count is what one call of `send` takes, and
none of it is an error, at which the loop stops.  When the counts run out, a call
takes all that is left. -/
def sendAll : (counts : List Nat) → (data : List UInt8) → List UInt8
  | _, [] => []
  | [], data => data
  | 0 :: _, _ => []
  | (count + 1) :: counts, data =>
      data.take (count + 1) ++ sendAll counts (data.drop (count + 1))

theorem sendAll_nil (counts : List Nat) : sendAll counts [] = [] := by
  cases counts with
  | nil => rfl
  | cons count counts => cases count <;> rfl

/-- Without an error everything is sent, whatever the calls take. -/
theorem sendAll_eq {counts : List Nat} (fine : 0 ∉ counts) (data : List UInt8) :
    sendAll counts data = data := by
  induction counts generalizing data with
  | nil => cases data <;> rfl
  | cons count counts inductionHypothesis =>
      rw [List.mem_cons, not_or] at fine
      cases data with
      | nil => exact sendAll_nil _
      | cons byte rest =>
          cases count with
          | zero => exact absurd rfl fine.1
          | succ count =>
              rw [sendAll, inductionHypothesis fine.2, List.take_append_drop]
              exact fun impossible => nomatch impossible

/-! ## Words in network order -/

/-- `htonl`, as it stands in memory. -/
def netWord (value : Nat) : List UInt8 :=
  (leBytes 4 value).reverse

/-- `ntohl` of the bytes in memory. -/
def ofNetWord (bytes : List UInt8) : Nat :=
  ofLeBytes bytes.reverse

@[simp] theorem netWord_length (value : Nat) : (netWord value).length = 4 := by
  rw [netWord, List.length_reverse, leBytes_length]

theorem ofNetWord_netWord {value : Nat} (small : value < 0x100000000) :
    ofNetWord (netWord value) = value := by
  rw [ofNetWord, netWord, List.reverse_reverse, ofLeBytes_leBytes]
  exact Nat.mod_eq_of_lt small

end Foundation
end Ipbench
