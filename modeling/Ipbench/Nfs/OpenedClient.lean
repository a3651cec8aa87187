import Ipbench.Nfs.Delivery
import Ipbench.Nfs.Opening
import Ipbench.Nfs.RequestLedger

namespace Ipbench
namespace Nfs

open Foundation

/-!
# The client of an opened file

`init_and_open` asks for one file or directory at a time, and leaves its loops only
when the request that it waits for has called its function, or a directory was not
found.  So at most one callback is pending while it runs.  When `open_cb` has been
called none is, and the cache of requests begins with a settled client.
-/

variable {callbackListLength : Nat}
variable {transport : Transport (GlueCallback TimedCallback) callbackListLength}
  {func : GlueCallback TimedCallback}

/-! ## One request -/

/-- The newest request is pending, and nothing was pending when it was sent. -/
def Transport.Asked (transport : Transport (GlueCallback TimedCallback) callbackListLength)
    (func : GlueCallback TimedCallback) : Prop :=
  ∃ before : Transport (GlueCallback TimedCallback) callbackListLength,
    before.Settled ∧ before.curXid + 1 ≠ 0 ∧
      before.client.callbacks.callbackAdd (before.curXid + 1) (.func func) =
        some transport.client.callbacks ∧
      transport.curXid = before.curXid + 1

theorem Transport.Settled.nfsLookup (settled : transport.Settled) (order : ByteOrder)
    {cwd : List UInt8} (whole : cwd.length = fhsize) (name : List UInt8)
    (func : GlueCallback TimedCallback) (sent : Int) :
    (∃ fault, nfsLookup order transport cwd name func sent = .error fault) ∨
      ∃ next request, nfsLookup order transport cwd name func sent = .ok (sent, next, request) ∧
        next.Asked func := by
  have handle : (bswap order cwd).length = fhsize := by rw [bswap_length, whole]
  rw [← bswap_bswap order cwd]
  rcases settled.1.nfsLookup_registers order handle name func sent with
    ⟨_, failed⟩ | ⟨callbacks, sendable, added, requested⟩
  · exact Or.inl failed
  · exact Or.inr ⟨_, _, requested, transport, settled, sendable.1, added, rfl⟩

/-- What a receive makes of a pending request: the process ends, nothing is found,
or the function is called and the client is settled. -/
inductive AskedStep (transport : Transport (GlueCallback TimedCallback) callbackListLength)
    (func : GlueCallback TimedCallback)
    (result : Option (RecvResult (GlueCallback TimedCallback) callbackListLength)) : Prop where
  | ends (same : result = none)
  | quiet (status : Int)
      (same : result = some { status := status, client := transport.client, found := none })
  | called (xid : UInt32) (client : Client (GlueCallback TimedCallback) callbackListLength)
      (same : result = some { status := 0, client := client, found := some (xid, .func func) })
      (settled : Transport.Settled { transport with client := client })

theorem Transport.Asked.receive (asked : transport.Asked func) (received : Received) :
    AskedStep transport func (rpcTake transport.client received) := by
  rcases asked with ⟨before, settled, left, added, drawn⟩
  rcases settled.exchange left added with ⟨deleted, others, after⟩
  cases received with
  | timedOut => exact .quiet (-1) rfl
  | eagain => exact .quiet 0 rfl
  | error => exact .quiet (-1) rfl
  | datagram data =>
      by_cases empty : data = []
      · exact .ends (if_pos empty)
      by_cases own : extractXid (receivedPbuf data).buf = before.curXid + 1
      · refine .called _ _ (rpcTake_of_callbackDel empty own deleted) ?_
        rw [← drawn] at after
        exact after
      · by_cases positive : 0 < extractXid (receivedPbuf data).buf
        · exact .quiet (-1) (rpcTake_of_callbackDel empty rfl (others _ positive own))
        · exact .ends (rpcTake_of_refused (if_neg positive))

/-- Nothing is found while no callback is pending. -/
theorem Transport.Settled.receive (settled : transport.Settled) (received : Received) :
    rpcTake transport.client received = none ∨
      ∃ status, rpcTake transport.client received =
        some { status := status, client := transport.client, found := none } := by
  rcases settled with ⟨_, history, window, tracks, vacant⟩
  cases rpcTake_step tracks received with
  | ends same => exact Or.inl same
  | quiet status same => exact Or.inr ⟨status, same⟩
  | finds number node held _ _ =>
      rw [vacant] at held
      cases held

/-! ## The lookup of the path -/

/-- `recursive_lookup` has at most one request pending, which is that of the directory
that it waits for, or that of the file when it has returned. -/
def Lookup.Sound (func : GlueCallback TimedCallback) :
    Lookup TimedCallback callbackListLength → Prop
  | .waiting transport ld => transport.Asked .dirCb ∧ ld.cwd.length = fhsize
  | .returned transport => transport.Asked func ∨ transport.Settled
  | .ended => True

theorem lookupTurn_sound (order : ByteOrder) (func : GlueCallback TimedCallback) (sent : Int)
    (settled : transport.Settled) {ld : LookupDir} (whole : ld.cwd.length = fhsize) :
    (lookupTurn order func sent transport ld).1.Sound func := by
  unfold lookupTurn
  split
  · next linkname tail _ =>
      rcases settled.nfsLookup order whole linkname .dirCb sent with
        ⟨fault, failed⟩ | ⟨next, request, requested, asked⟩
      · rw [failed]
        trivial
      · rw [requested]
        exact ⟨asked, whole⟩
  · next linkname _ =>
      rcases settled.nfsLookup order whole linkname func sent with
        ⟨fault, failed⟩ | ⟨next, request, requested, asked⟩
      · rw [failed]
        trivial
      · rw [requested]
        exact Or.inl asked

theorem handleAt_length (order : ByteOrder) (data : List UInt8) :
    (handleAt order (receivedPbuf data).buf).length = fhsize := by
  rw [handleAt, bswap_length, List.length_take, List.length_drop, (receivedPbuf data).whole]
  rfl

theorem lookupStep_sound (order : ByteOrder) (func : GlueCallback TimedCallback) (sent : Int)
    {ld : LookupDir} (asked : transport.Asked .dirCb) (whole : ld.cwd.length = fhsize)
    (received : Received) :
    (lookupStep order func sent (.waiting transport ld) received).1.Sound func := by
  unfold lookupStep
  dsimp only
  cases asked.receive received with
  | ends same =>
      rw [same]
      trivial
  | quiet status same =>
      rw [same]
      exact ⟨asked, whole⟩
  | called xid client same settled =>
      rw [same]
      dsimp only
      rw [nfsLookupCb_received]
      dsimp only
      by_cases zero : lookupStatus (receivedPbuf received.data).buf = 0
      · rw [if_pos zero, zero]
        exact lookupTurn_sound order func sent settled (handleAt_length order received.data)
      · rw [if_neg zero, dirCb, if_neg zero]
        exact Or.inr settled

/-! ## The wait for the file -/

/-- While the file is waited for its request is pending, or nothing is.  Nobody has
set `initialised`. -/
def Opening.Sound : Opening TimedCallback callbackListLength → Prop
  | .lookingUp transport ld _ => transport.Asked .dirCb ∧ ld.cwd.length = fhsize
  | .waiting transport statics =>
      statics.initialised = 0 ∧ (transport.Asked .openCb ∨ transport.Settled)
  | .returned _ _ => True
  | .ended => True

theorem Opening.ofLookup_sound (statics : GlueStatics)
    {lookup : Lookup TimedCallback callbackListLength} (sound : lookup.Sound .openCb) :
    (Opening.ofLookup statics lookup).Sound := by
  cases lookup with
  | waiting transport ld => exact sound
  | returned transport => exact ⟨rfl, sound⟩
  | ended => trivial

/-- The static variables are as they were when nothing is found. -/
theorem openingStep_quiet (order : ByteOrder) (sent : Int) {statics : GlueStatics}
    (waits : statics.initialised = 0) {received : Received} {status : Int}
    (same : rpcTake transport.client received =
      some { status := status, client := transport.client, found := none }) :
    openingStep order sent (.waiting transport statics) received =
      (.waiting transport statics, []) := by
  have unchanged : recvStatics order transport.client statics received = some statics := by
    apply recvStatics_uncalled
    intro xid called
    rw [same] at called
    cases called
  unfold openingStep
  dsimp only
  rw [same, unchanged]
  dsimp only
  rw [if_pos waits]

theorem openingStep_ends (order : ByteOrder) (sent : Int) (statics : GlueStatics)
    {received : Received} (same : rpcTake transport.client received = none) :
    openingStep order sent (.waiting transport statics) received = (.ended, []) := by
  unfold openingStep
  dsimp only
  rw [same]

/-- The call of `open_cb` ends the wait. -/
theorem openingStep_opened (order : ByteOrder) (sent : Int) (statics : GlueStatics)
    {received : Received} {xid : UInt32}
    {client : Client (GlueCallback TimedCallback) callbackListLength}
    (same : rpcTake transport.client received =
      some { status := 0, client := client, found := some (xid, .func .openCb) }) :
    (openingStep order sent (.waiting transport statics) received).1.Sound := by
  cases received with
  | timedOut => cases same
  | eagain => cases same
  | error => cases same
  | datagram data =>
      have called : (rpcTake transport.client (.datagram data)).bind RecvResult.found =
          some (xid, .func .openCb) := by
        rw [same]
        rfl
      rcases openingStep_called sent same (recvStatics_called order statics called) with
        ended | ⟨status, glue, returned⟩
      · rw [ended]
        trivial
      · rw [returned]
        trivial

theorem openingStep_sound (order : ByteOrder) (sent : Int)
    (state : Opening TimedCallback callbackListLength) (received : Received)
    (sound : state.Sound) : (openingStep order sent state received).1.Sound := by
  cases state with
  | lookingUp transport ld statics =>
      have looked := lookupStep_sound order .openCb sent sound.1 sound.2 received
      unfold openingStep
      dsimp only
      split
      · trivial
      · exact Opening.ofLookup_sound _ looked
  | waiting transport statics =>
      rcases sound with ⟨waits, asked | settled⟩
      · cases asked.receive received with
        | ends same =>
            rw [openingStep_ends order sent statics same]
            trivial
        | quiet status same =>
            rw [openingStep_quiet order sent waits same]
            exact ⟨waits, Or.inl asked⟩
        | called xid client same _ => exact openingStep_opened order sent statics same
      · rcases settled.receive received with same | ⟨status, same⟩
        · rw [openingStep_ends order sent statics same]
          trivial
        · rw [openingStep_quiet order sent waits same]
          exact ⟨waits, Or.inr settled⟩
  | returned status statics => trivial
  | ended => trivial

theorem initAndOpen_sound (order : ByteOrder) (sent : Int) (settled : transport.Settled)
    (statics : GlueStatics) {pfh : List UInt8} (whole : pfh.length = fhsize)
    (filename : List UInt8) (received : List Received) :
    (initAndOpen order sent transport statics pfh filename received).Sound := by
  refine (openingMachine TimedCallback callbackListLength order sent).run_state_invariant
    Opening.Sound (fun state _ input sound _ => openingStep_sound order sent state input sound)
    (Opening.ofLookup_sound statics ?_) (Machine.along_true _ _ _ _)
  exact lookupTurn_sound order .openCb sent settled whole

/-! ## The start of the benchmark -/

/-- The receive that ends the wait leaves no callback behind. -/
theorem initAndOpen_settled (order : ByteOrder) (sent : Int) (settled : transport.Settled)
    (statics : GlueStatics) {pfh : List UInt8} (whole : pfh.length = fhsize)
    (filename : List UInt8) (received : List Received)
    {next : Transport (GlueCallback TimedCallback) callbackListLength} {glue final : GlueStatics}
    (waits : initAndOpen order sent transport statics pfh filename received = .waiting next glue)
    {last : Received} {status : Int}
    (returns : openingStep order sent (.waiting next glue) last = (.returned status final, [])) :
    ∃ result, rpcTake next.client last = some result ∧
      Transport.Settled { next with client := result.client } := by
  have sound := initAndOpen_sound order sent settled statics whole filename received
  rw [waits] at sound
  rcases sound with ⟨unset, asked | idle⟩
  · cases asked.receive last with
    | ends same =>
        rw [openingStep_ends order sent glue same] at returns
        cases returns
    | quiet _ same =>
        rw [openingStep_quiet order sent unset same] at returns
        cases returns
    | called _ client same after => exact ⟨_, same, after⟩
  · rcases idle.receive last with same | ⟨_, same⟩
    · rw [openingStep_ends order sent glue same] at returns
      cases returns
    · rw [openingStep_quiet order sent unset same] at returns
      cases returns

/-- The cache that is built behind the wait follows the empty ledger. -/
theorem opened_follows (order : ByteOrder) (sent : Int) (settled : transport.Settled)
    (statics : GlueStatics) {pfh : List UInt8} (whole : pfh.length = fhsize)
    (filename : List UInt8) (received : List Received)
    {next : Transport (GlueCallback TimedCallback) callbackListLength} {glue final : GlueStatics}
    (waits : initAndOpen order sent transport statics pfh filename received = .waiting next glue)
    {last : Received} {status : Int}
    (returns : openingStep order sent (.waiting next glue) last = (.returned status final, []))
    (left : next.curXid.toNat + 2 < 0x100000000) (nfsFileHandle : Cookie)
    (random : Nat → UInt8) :
    ∃ result workload first, rpcTake next.client last = some result ∧
      initialiseCache order { next with client := result.client } nfsFileHandle random =
        .ok workload ∧
      Follows order nfsFileHandle random first (next.curXid.toNat + 2) workload
        Ledger.empty := by
  rcases initAndOpen_settled order sent settled statics whole filename received waits returns with
    ⟨result, taken, after⟩
  rcases initialiseCache_follows order nfsFileHandle random after left with
    ⟨workload, first, built, follows⟩
  exact ⟨result, workload, first, taken, built, follows⟩

end Nfs
end Ipbench
