import Ipbench.Nfs.CallbackMatching
import Ipbench.Nfs.Rpc

namespace Ipbench
namespace Nfs

open Foundation

/-!
# Which datagrams end the client

A datagram names a transaction in its first four bytes, in a buffer that was
zeroed before.  `callback_del` asserts that the number is not zero, and an empty
datagram reads as a closed connection; both end the process.  Every other
datagram is answered in every state of the list, if the function of the callback
that it takes returns.
-/

variable {Callback : Type} {callbackListLength : Nat}

/-! ## Reachable lists -/

/-- Every list that a run leads to is tracked, whatever identifiers are used. -/
theorem exists_tracks {positive : 0 < callbackListLength} {nul : Callback}
    {ops : List (CallbackOp Callback)} {list : CallbackList Callback callbackListLength}
    (reached : (callbackRun callbackListLength positive nul ops).1 = some list) :
    ∃ window, Followed ops (callbackRun callbackListLength positive nul ops).2 list window := by
  induction ops using List.reverseRecOn generalizing list with
  | nil =>
      cases reached
      exact ⟨Window.empty, Tracks.start callbackListLength positive nul,
        iff_of_true rfl (Or.inl rfl)⟩
  | append_singleton ops op inductionHypothesis =>
      rw [callbackRun_concat] at reached ⊢
      cases before : (callbackRun callbackListLength positive nul ops).1 with
      | none =>
          rw [before] at reached
          cases reached
      | some old =>
          rcases inductionHypothesis before with ⟨window, followed⟩
          rw [before] at reached
          cases op with
          | add xid c =>
              cases added : old.callbackAdd xid c with
              | none =>
                  simp only [callbackMachine, added] at reached
                  cases reached
              | some next =>
                  simp only [callbackMachine, added] at reached ⊢
                  cases reached
                  exact ⟨_, followed.add added⟩
          | del xid =>
              by_cases asked : 0 < xid
              · rcases followed.del asked with ⟨found, next, window', deleted, after⟩
                simp only [callbackMachine, deleted] at reached ⊢
                cases reached
                exact ⟨window', after⟩
              · have refused : old.callbackDel xid = none := if_neg asked
                simp only [callbackMachine, refused] at reached
                cases reached

/-! ## The transaction of a datagram -/

/-- The transaction is zero when the first four bytes are, as far as there are
any. -/
theorem extractXid_eq_zero (data : List UInt8) :
    extractXid (receivedPbuf data).buf = 0 ↔ ∀ byte ∈ data.take 4, byte = 0 := by
  have first : ((receivedPbuf data).buf.drop 0).take 4 =
      data.take 4 ++ List.replicate (4 - (data.take 4).length) 0 := by
    rw [List.drop_zero, receivedPbuf, List.take_append, List.take_take, List.take_replicate,
      List.length_take, List.length_take]
    congr 2
    unfold pbufSize
    omega
  have whole :
      (data.take 4 ++ List.replicate (4 - (data.take 4).length) (0 : UInt8)).length = 4 := by
    rw [List.length_append, List.length_replicate, List.length_take]
    omega
  rw [extractXid, wordAt, first, load32_big_eq_zero whole]
  simp only [List.mem_append, List.mem_replicate]
  constructor
  · exact fun all byte member => all byte (Or.inl member)
  · rintro zero byte (member | padding)
    · exact zero byte member
    · exact padding.2

/-! ## The answer -/

variable {Func : Type}

/-- The call returns 0 or -1 for the datagram, and it invokes one callback at most,
which is pending under its transaction. -/
structure Answered (functions : CallbackFunctions Func callbackListLength)
    (history : History (RpcCallback Func)) (client : Client Func callbackListLength)
    (data : List UInt8) (status : Int) (next : Client Func callbackListLength)
    (result : RecvResult Func callbackListLength) : Prop where
  returned : rpcRecv functions client (.datagram data) = some (status, next)
  fine : status = 0 ∨ status = -1
  took : rpcTake client (.datagram data) = some result
  once : (recvEvents (.datagram data) result).length ≤ 1
  own : ∀ xid c, result.found = some (xid, c) → xid = extractXid (receivedPbuf data).buf ∧
    ∃ number, history.Pending callbackListLength number { xid := xid, callback := c }

/-- The function of the callback that the datagram takes from the list, if any,
returns. -/
def FunctionReturns (functions : CallbackFunctions Func callbackListLength)
    (client : Client Func callbackListLength) (data : List UInt8) : Prop :=
  ∀ c callbacks,
    client.callbacks.callbackDel (extractXid (receivedPbuf data).buf) = some (some c, callbacks) →
      callFunction functions c (receivedPbuf data) { client with callbacks := callbacks } ≠ none

/-- `callback_del` on a tracked list returns at most what is pending. -/
theorem callbackDel_pending {ops : List (CallbackOp Callback)}
    {trace : List (CallbackEvent Callback)} {list : CallbackList Callback callbackListLength}
    {window : Window (CallbackNode Callback)} (followed : Followed ops trace list window)
    {xid : UInt32} (asked : 0 < xid) :
    ∃ found next, list.callbackDel xid = some (found, next) ∧
      ∀ c, found = some c → ∃ number,
        (historyOf ops trace).Pending callbackListLength number { xid := xid, callback := c } := by
  cases followed.tracks.callbackDel_step asked with
  | misses same => exact ⟨none, list, same, fun c found => by cases found⟩
  | finds number node held named _ found =>
      refine ⟨some node.callback, _, found, ?_⟩
      rintro c ⟨rfl⟩
      cases named
      exact ⟨number, (followed.tracks.pending number node).mp held⟩

/-- In every reachable state, a datagram is answered exactly when one of its
first four bytes is not zero and the function that it invokes returns. -/
theorem answered_iff (callbackListLength : Nat) (positive : 0 < callbackListLength)
    (functions : CallbackFunctions Func callbackListLength)
    (ops : List (CallbackOp (RpcCallback Func))) (client : Client Func callbackListLength)
    (reached : (callbackRun callbackListLength positive .null ops).1 = some client.callbacks)
    (data : List UInt8) :
    (∃ status next result, Answered functions
        (historyOf ops (callbackRun callbackListLength positive .null ops).2) client data status
          next result) ↔
      (∃ byte ∈ data.take 4, byte ≠ 0) ∧ FunctionReturns functions client data := by
  have asked : (∃ byte ∈ data.take 4, byte ≠ 0) ↔ 0 < extractXid (receivedPbuf data).buf := by
    have zero := extractXid_eq_zero data
    rw [UInt32.pos_iff_ne_zero, ne_eq, zero]
    simp only [not_forall, ne_eq, exists_prop]
  rw [asked]
  by_cases named : 0 < extractXid (receivedPbuf data).buf
  · rcases exists_tracks reached with ⟨window, followed⟩
    rcases callbackDel_pending followed named with ⟨found, callbacks, deleted, pending⟩
    have nonempty : data ≠ [] := by
      rintro rfl
      rcases asked.mpr named with ⟨byte, member, _⟩
      cases member
    have took := rpcTake_of_callbackDel nonempty rfl deleted
    have returns : FunctionReturns functions client data ↔
        ∀ xid c, found.map (fun c => (extractXid (receivedPbuf data).buf, c)) = some (xid, c) →
          callFunction functions c (receivedPbuf data) { client with callbacks := callbacks } ≠
            none := by
      unfold FunctionReturns
      rw [deleted]
      cases found with
      | none => simp
      | some c => simp
    rw [and_iff_right named, returns]
    constructor
    · rintro ⟨status, next, result, answered⟩
      have returned := answered.returned
      rw [rpcRecv_status took returned] at returned
      exact (rpcRecv_returns took).mp ⟨next, returned⟩
    · intro ends
      rcases (rpcRecv_returns took).mpr ends with ⟨next, returned⟩
      refine ⟨_, next, _, returned, ?_, took, ?_, ?_⟩
      · cases found with
        | none => exact Or.inr rfl
        | some c => exact Or.inl rfl
      · unfold recvEvents
        cases found with
        | none => exact Nat.zero_le 1
        | some c => exact Nat.le_refl 1
      · intro xid c same
        rcases Option.map_eq_some_iff.mp same with ⟨other, isFound, equal⟩
        cases equal
        exact ⟨rfl, pending c isFound⟩
  · refine iff_of_false ?_ fun both => named both.1
    rintro ⟨status, next, result, answered⟩
    have took := answered.took
    rw [rpcTake_of_refused (if_neg named)] at took
    cases took

def afterOneCall : Client Nat 4 where
  callbacks :=
    { callbackList := Function.update (fun _ => { xid := 0, callback := .null }) (1 : Fin 4)
        { xid := 101, callback := .func 7 }
      callbackListHead := 1
      drops := 0
      lastXid := 101 }
  frames := 0
  calling := none

theorem answered_iff_afterOneCall :
    (∃ status next result, Answered (fun _ _ client => some client)
        (historyOf [.add 101 (.func 7)] (callbackRun 4 (by decide) .null [.add 101 (.func 7)]).2)
        afterOneCall [0, 0, 0, 101] status next result) ↔
      (∃ byte ∈ [0, 0, 0, (101 : UInt8)].take 4, byte ≠ 0) ∧
        FunctionReturns (fun _ _ client => some client) afterOneCall [0, 0, 0, 101] :=
  answered_iff 4 (by decide) (fun _ _ client => some client) [.add 101 (.func 7)] afterOneCall rfl _

/-- An empty datagram and one of zeros end a client that waits for a reply, whatever
its functions do. -/
theorem datagram_ends_client :
    (callbackRun 4 (by decide) .null [.add 101 (.func 7)]).1 = some afterOneCall.callbacks ∧
      ∀ functions : CallbackFunctions Nat 4,
        rpcRecv functions afterOneCall (.datagram []) = none ∧
          rpcRecv functions afterOneCall (.datagram [0, 0, 0, 0]) = none ∧
          ¬ ∃ status next result, Answered functions
            (historyOf [.add 101 (.func 7)]
              (callbackRun 4 (by decide) .null [.add 101 (.func 7)]).2)
            afterOneCall [0, 0, 0, 0] status next result := by
  have zero : extractXid (receivedPbuf [0, 0, 0, 0]).buf = 0 :=
    (extractXid_eq_zero [0, 0, 0, 0]).mpr (by simp)
  have refused : afterOneCall.callbacks.callbackDel
      (extractXid (receivedPbuf [0, 0, 0, 0]).buf) = none := by
    rw [zero]
    rfl
  refine ⟨rfl, fun functions => ?_⟩
  have ended : rpcRecv functions afterOneCall (.datagram [0, 0, 0, 0]) = none := by
    rw [rpcRecv, rpcTake_of_refused refused]
  refine ⟨rfl, ended, ?_⟩
  rintro ⟨status, next, result, answered⟩
  rw [answered.returned] at ended
  cases ended

end Nfs
end Ipbench
