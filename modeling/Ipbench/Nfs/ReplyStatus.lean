import Ipbench.Nfs.Calls

namespace Ipbench
namespace Nfs

open Foundation

/-!
# Which replies are reported as what they are

The cursor after the headers of a reply is one of three positions, and all of
them lie inside the buffer, so decoding never faults.  With the reply of an
executed call it is 24; whether a verifier has a body is not looked at.
-/

variable {Func : Type} {callbackListLength : Nat}

/-! ## Decoding a received buffer -/

/-- A word that has been received as a whole is read from the buffer. -/
theorem wordAt_receivedPbuf {data : List UInt8} {position : Nat}
    (received : position + 4 ≤ data.length) (inside : position + 4 ≤ pbufSize) :
    wordAt (receivedPbuf data).buf position = wordAt data position := by
  have kept : position + 4 ≤ (data.take pbufSize).length := by
    rw [List.length_take]
    omega
  unfold wordAt receivedPbuf
  dsimp only
  rw [List.drop_append_of_le_length (by omega),
    List.take_append_of_le_length (by rw [List.length_drop]; omega),
    List.drop_take, List.take_take, Nat.min_eq_left (by omega)]

/-- Where `rpc_call` leaves the cursor. -/
def replyCursor (buf : List UInt8) : Nat :=
  if wordAt buf 8 = msgAccepted then 24
  else if wordAt buf 12 = 1 then 20
  else 16

theorem replyCursor_cases (buf : List UInt8) :
    replyCursor buf = 16 ∨ replyCursor buf = 20 ∨ replyCursor buf = 24 := by
  unfold replyCursor
  split
  · exact Or.inr (Or.inr rfl)
  · split
    · exact Or.inr (Or.inl rfl)
    · exact Or.inl rfl

theorem rpcCallReply_received (order : ByteOrder) (data : List UInt8) :
    rpcCallReply order (receivedPbuf data) =
      .ok (0, (receivedPbuf data).at_ (replyCursor (receivedPbuf data).buf)) := by
  have headers : (receivedPbuf data).skip 8 = (receivedPbuf data).at_ 8 := rfl
  unfold rpcCallReply replyCursor
  rw [headers]
  simp only [bind, Except.bind]
  rw [Pbuf.getWord_at order _ rfl (by decide)]
  by_cases accepted : wordAt (receivedPbuf data).buf 8 = msgAccepted
  · simp only [accepted, ne_eq, not_true_eq_false, if_true, if_false]
    rw [Pbuf.getfrombuf_at order _ rfl rfl (by decide)]
    dsimp only
    rw [Pbuf.getWord_at order _ rfl (by decide)]
    simp [pure, Except.pure]
  · simp only [accepted, ne_eq, not_false_eq_true, if_true, if_false]
    rw [Pbuf.getWord_at order _ rfl (by decide)]
    by_cases auth : wordAt (receivedPbuf data).buf 12 = 1
    · simp only [auth, if_true]
      rw [Pbuf.getWord_at order _ rfl (by decide)]
      rfl
    · simp only [auth, if_false]
      rfl

/-- `mnt_mount` succeeds exactly if the word at the cursor is zero. -/
theorem mountReply_at (order : ByteOrder) (pbuf : Pbuf) {position : Nat}
    (aligned : position % 4 = 0) (inside : position ≤ 24) :
    (∃ pfh, mountReply order (pbuf.at_ position) = .ok (0, pfh)) ↔
      wordAt pbuf.buf position = 0 := by
  have bounds : position + 4 + fhsize ≤ pbufSize := by
    unfold fhsize pbufSize
    omega
  unfold mountReply
  simp only [bind, Except.bind]
  rw [pbuf.getWord_at order aligned (by unfold pbufSize; omega)]
  by_cases mounted : wordAt pbuf.buf position = 0
  · simp only [mounted, ne_eq, not_true_eq_false, if_false, iff_true]
    rw [pbuf.getfrombuf_at order (by omega) rfl bounds]
    exact ⟨_, rfl⟩
  · simp only [mounted, ne_eq, not_false_eq_true, if_true, iff_false]
    rintro ⟨pfh, equal⟩
    injection equal with equal
    injection equal with status
    exact mounted status

/-! ## Delivery to a pending call -/

/-- Only a datagram with an identifier finds a callback. -/
theorem rpcTake_notifies {client : Client Func callbackListLength} {received : Received}
    {result : RecvResult Func callbackListLength} {frame : Nat}
    (ran : rpcTake client received = some result) (notified : result.notifies frame = true) :
    extractXid (receivedPbuf received.data).buf ≠ 0 := by
  cases received with
  | timedOut =>
      cases ran
      cases notified
  | eagain =>
      cases ran
      cases notified
  | error =>
      cases ran
      cases notified
  | datagram data =>
      intro anonymous
      simp only [Received.data] at anonymous
      simp only [rpcTake, anonymous, CallbackList.callbackDel] at ran
      split at ran
      · cases ran
      · cases ran

/-- The ways a turn of the loop can go. -/
inductive TurnStep (call : Call) (received : Received) :
    Option (Client Func callbackListLength) × List (RpcEvent Func) → Prop where
  | ends (events : List (RpcEvent Func)) : TurnStep call received (none, events)
  | returns (next : Client Func callbackListLength) (events : List (RpcEvent Func))
      (idle : next.calling = none)
      (left : .returned call.frame (receivedPbuf received.data) ∈ events)
      (carried : extractXid (receivedPbuf received.data).buf ≠ 0) :
      TurnStep call received (some next, events)
  | waits (next : Client Func callbackListLength) (events : List (RpcEvent Func))
      (again : next.calling = some { call with tx := false }) :
      TurnStep call received (some next, events)

theorem rpcCallTurn_step (client : Client Func callbackListLength) (call : Call) (sent : Int)
    (received : Received) :
    TurnStep call received (rpcCallTurn client call sent received) := by
  unfold rpcCallTurn
  split
  · exact .ends _
  · split
    · exact .ends _
    · split
      · exact .ends _
      · rename_i result ran
        split
        · rename_i notified
          refine .returns _ _ rfl ?_ (rpcTake_notifies ran notified)
          simp
        · exact .waits _ _ rfl

theorem rpcCallLoop_xid {client next : Client Func callbackListLength} {call : Call}
    {turns : List (Int × Received)} {data : List UInt8}
    (replied : rpcCallLoop client call turns = some (next, data)) :
    extractXid (receivedPbuf data).buf ≠ 0 := by
  induction turns generalizing client call with
  | nil => cases replied
  | cons turn turns inductionHypothesis =>
      rcases turn with ⟨sent, received⟩
      unfold rpcCallLoop at replied
      have turned := rpcCallTurn_step client call sent received
      generalize rpcCallTurn client call sent received = outcome at turned replied
      cases turned with
      | ends events => cases replied
      | returns later events idle left carried =>
          simp only [idle] at replied
          cases replied
          exact carried
      | waits later events again =>
          simp only [again] at replied
          exact inductionHypothesis replied

/-- A turn whose request is sent and whose datagram finds the activation. -/
theorem rpcCallTurn_notified {client next : Client Func callbackListLength} {call : Call}
    {sent : Int} {received : Received} {events : List (RpcEvent Func)}
    {result : RecvResult Func callbackListLength}
    (asked : rpcSend client call.snd (if call.tx then some (.call call.frame) else none) sent =
      some (call.snd.pos, next, events))
    (ran : rpcTake next received = some result)
    (notified : result.notifies call.frame = true) :
    (rpcCallTurn client call sent received).1 = some { result.client with calling := none } := by
  unfold rpcCallTurn
  rw [asked]
  dsimp only
  rw [if_neg (not_not_intro rfl), ran]
  dsimp only
  rw [if_pos notified]

/-- Every datagram with the identifier of a request can be the reply to it. -/
theorem awaitReply_first (Func : Type) {snd : Pbuf} {position : Nat} {data : List UInt8}
    (begun : snd.Begun (extractXid (receivedPbuf data).buf) position)
    (inside : position ≤ pbufSize) (carried : extractXid (receivedPbuf data).buf ≠ 0) :
    ∃ next, awaitReply (rpcStart Func 1 Nat.one_pos) snd [(snd.pos, .datagram data)] =
      some (next, data) := by
  have cursor := begun.cursor
  have behind := begun.behind
  have positive : 0 < extractXid (receivedPbuf data).buf := UInt32.pos_iff_ne_zero.mpr carried
  have requested : extractXid snd.buf = extractXid (receivedPbuf data).buf := begun.first
  have nonempty : data ≠ [] := by
    rintro rfl
    exact carried (by decide)
  have inBuffer : ¬(snd.pos < 0 ∨ (pbufSize : Int) < snd.pos) := by omega
  have started : snd.pos ≠ 0 := by omega
  generalize start : rpcStart Func 1 Nat.one_pos = client
  obtain ⟨callbacks, added, newest⟩ : ∃ callbacks,
      client.callbacks.callbackAdd (extractXid snd.buf) (.call client.frames) =
          some callbacks ∧
        callbacks.callbackList callbacks.callbackListHead =
          { xid := extractXid (receivedPbuf data).buf, callback := .call client.frames } := by
    have admits : client.callbacks.Admits (extractXid snd.buf) := by
      rw [requested, ← start]
      exact ⟨positive, fun registered => absurd registered (UInt32.lt_irrefl 0)⟩
    unfold CallbackList.callbackAdd
    rw [if_pos admits]
    refine ⟨_, rfl, ?_⟩
    dsimp only
    rw [Function.update_self, requested]
  have asked : rpcSend (client.enter snd) snd (some (.call client.frames)) snd.pos =
      some (snd.pos, { client.enter snd with callbacks := callbacks },
        [.registered (extractXid snd.buf) (.call client.frames)]) := by
    unfold rpcSend
    rw [if_neg inBuffer, if_neg started]
    dsimp only [Client.enter]
    rw [added]
    rfl
  have ran : rpcTake { client.enter snd with callbacks := callbacks } (.datagram data) =
      some
        { status := 0
          client := { client.enter snd with
            callbacks := callbacks.release callbacks.callbackListHead }
          found := some (extractXid (receivedPbuf data).buf, .call client.frames) } :=
    rpcTake_of_callbackDel nonempty rfl (CallbackList.callbackDel_head positive newest)
  have turned : (rpcCallTurn (client.enter snd)
      { frame := client.frames, snd := snd, tx := true } snd.pos (.datagram data)).1 = some _ :=
    rpcCallTurn_notified asked ran (beq_self_eq_true _)
  unfold awaitReply rpcCallLoop
  rw [turned]
  exact ⟨_, rfl⟩

/-! ## Success -/

/-- The condition on a datagram: it cannot notify a call, or it is the reply of
an executed call, and if the word behind its headers is zero then this word is
its mount status. -/
def ReportedAsIs (data : List UInt8) : Prop :=
  extractXid (receivedPbuf data).buf ≠ 0 →
    Executed data ∧ (wordAt (receivedPbuf data).buf 24 = 0 → Mounted data)

/-- The headers of an executed call end at byte 24. -/
theorem Executed.replyCursor {data : List UInt8} (executed : Executed data) :
    replyCursor (receivedPbuf data).buf = 24 := by
  have whole := executed.whole
  unfold acceptStatAt at whole
  have stat := executed.stat
  rw [← wordAt_receivedPbuf (by omega) (by decide)] at stat
  exact if_pos stat

/-- What the three functions make of the reply `data` depends on it alone. -/
theorem rpcCall_of_awaitReply (order : ByteOrder) {client next : Client Func callbackListLength}
    {snd : Pbuf} {turns : List (Int × Received)} {data : List UInt8}
    (replied : awaitReply client snd turns = some (next, data)) :
    rpcCall order client snd turns =
      some (.ok (0, (receivedPbuf data).at_ (replyCursor (receivedPbuf data).buf))) := by
  rw [rpcCall, replied, Option.map_some, rpcCallReply_received]

theorem replyCursor_bounds (buf : List UInt8) :
    replyCursor buf % 4 = 0 ∧ replyCursor buf ≤ 24 := by
  rcases replyCursor_cases buf with at16 | at20 | at24
  · rw [at16]
    decide
  · rw [at20]
    decide
  · rw [at24]
    decide

/-- `mnt_mount` returns 0 exactly if the word at the cursor is zero. -/
theorem mntMount_of_awaitReply (order : ByteOrder) {client next : Client Func callbackListLength}
    {txid : UInt32} {dir : List UInt8} {snd : Pbuf} {turns : List (Int × Received)}
    {data : List UInt8} (requested : mountRequest order txid dir = .ok snd)
    (replied : awaitReply client snd turns = some (next, data)) :
    (∃ pfh, mntMount order client txid dir turns = some (.ok (0, pfh))) ↔
      wordAt (receivedPbuf data).buf (replyCursor (receivedPbuf data).buf) = 0 := by
  have bounds := replyCursor_bounds (receivedPbuf data).buf
  rw [← mountReply_at order (receivedPbuf data) bounds.1 bounds.2]
  unfold mntMount
  rw [requested]
  dsimp only
  rw [rpcCall_of_awaitReply order replied, Option.map_some]
  exact exists_congr fun pfh => Option.some_inj

theorem mountRequest_root (order : ByteOrder) (txid : UInt32) :
    ∃ snd position, mountRequest order txid [] = .ok snd ∧ snd.Begun txid position ∧
      position ≤ pbufSize := by
  obtain ⟨pbuf, headed, begun⟩ := initbuf_begun order txid mntNumber mntVersion mntprocMnt
  obtain ⟨snd, written, begun⟩ := begun.addstring order [] rfl (by decide)
  refine ⟨snd, _, ?_, begun, by decide⟩
  unfold mountRequest
  rw [headed]
  exact written

/-- The three functions report success for a datagram only if it does so
itself, exactly if the datagram cannot notify a call, or is the reply of an
executed call and, if the word behind its headers is zero, has a mount status
of zero. -/
theorem failureIsNotSuccess_iff (Func : Type) (order : ByteOrder) (data : List UInt8) :
    FailureIsNotSuccess Func order data ↔ ReportedAsIs data := by
  constructor
  · intro faithful carried
    obtain ⟨snd, position, requested, begun, inside⟩ :=
      mountRequest_root order (extractXid (receivedPbuf data).buf)
    obtain ⟨next, replied⟩ := awaitReply_first Func begun inside carried
    have executed : Executed data :=
      faithful.call _ next snd _ _ replied (rpcCall_of_awaitReply order replied)
    refine ⟨executed, ?_⟩
    intro zero
    rw [← executed.replyCursor] at zero
    obtain ⟨pfh, mounted⟩ := (mntMount_of_awaitReply order requested replied).mpr zero
    exact faithful.mount _ next _ [] snd _ pfh requested replied mounted
  · intro reported
    constructor
    · intro slots client next snd turns rcv replied _
      exact (reported (rpcCallLoop_xid replied)).1
    · intro slots client next txid dir snd turns pfh requested replied mounted
      obtain ⟨executed, status⟩ := reported (rpcCallLoop_xid replied)
      have zero := (mntMount_of_awaitReply order requested replied).mp ⟨pfh, mounted⟩
      rw [executed.replyCursor] at zero
      exact status zero
    · intro slots client next txid pmap snd turns mapped _ replied _
      exact (reported (rpcCallLoop_xid replied)).1

/-- A server that denies the call for a failed authentication has mounted
nothing, and yet `mnt_mount` returns 0. -/
theorem deniedReply_mounts :
    ¬ FailureIsNotSuccess Unit .little
      [0, 0, 0, 101, 0, 0, 0, 1, 0, 0, 0, 1, 0, 0, 0, 1, 0, 0, 0, 5] := by
  intro faithful
  generalize denied : [0, 0, 0, 101, 0, 0, 0, 1, 0, 0, 0, 1, 0, 0, 0, 1, 0, 0, 0, (5 : UInt8)] =
    data at faithful
  have carried : extractXid (receivedPbuf data).buf ≠ 0 := by
    rw [← denied]
    decide
  have zero : wordAt (receivedPbuf data).buf (replyCursor (receivedPbuf data).buf) = 0 := by
    rw [← denied]
    decide
  obtain ⟨snd, position, requested, begun, inside⟩ :=
    mountRequest_root .little (extractXid (receivedPbuf data).buf)
  obtain ⟨next, replied⟩ := awaitReply_first Unit begun inside carried
  obtain ⟨pfh, mounted⟩ := (mntMount_of_awaitReply .little requested replied).mpr zero
  have executed := (faithful.mount _ next _ [] snd _ pfh requested replied mounted).stat
  rw [← denied] at executed
  revert executed
  decide

end Nfs
end Ipbench
