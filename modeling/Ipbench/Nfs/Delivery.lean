import Ipbench.Nfs.Rpc

namespace Ipbench
namespace Nfs

open Foundation

/-!
# Every callback is invoked at most once

An event of a run is judged by the events before it.  A registration takes an
identifier above all earlier ones.  An invocation is caused by a datagram with
the identifier of a registration that is still pending: no invocation has used
it, and its slot has not been overwritten.  If the callback belongs to an
activation of `rpc_call`, that activation has been entered and has not
returned, so what the callback points to still exists.

The invariant follows the window of the callback list.  At most one element of
it belongs to an activation of `rpc_call`, and this is the one that waits.
-/

variable {Func : Type} {callbackListLength : Nat}

namespace RpcEvent

def added? : RpcEvent Func → Option (CallbackNode (RpcCallback Func))
  | registered xid c => some { xid := xid, callback := c }
  | _ => none

/-- The identifier of a callback that a datagram has found. -/
def found? : RpcEvent Func → Option UInt32
  | invoked xid _ _ => some xid
  | discarded xid => some xid
  | _ => none

def invoked? : RpcEvent Func → Option UInt32
  | invoked xid _ _ => some xid
  | _ => none

end RpcEvent

/-- The registrations of a trace, and what datagrams have found. -/
def rpcHistory (trace : List (RpcEvent Func)) : History (RpcCallback Func) where
  added := trace.filterMap RpcEvent.added?
  deleted := trace.filterMap RpcEvent.found?

/-- An activation has been entered and has not returned. -/
def Active (trace : List (RpcEvent Func)) (frame : Nat) : Prop :=
  .called frame ∈ trace ∧ ∀ rcv, .returned frame rcv ∉ trace

/-- What an event may be after the events before it. -/
def Delivered (callbackListLength : Nat) (before : List (RpcEvent Func)) :
    RpcEvent Func → Prop
  | .registered xid _ => ∀ node ∈ (rpcHistory before).added, node.xid < xid
  | .invoked xid c data =>
      extractXid (receivedPbuf data).buf = xid ∧
        (∃ number, (rpcHistory before).Pending callbackListLength number
          { xid := xid, callback := c }) ∧
        ∀ frame, c = .call frame → Active before frame
  | _ => True

/-- Every registration has an identifier of its own, no identifier is invoked
twice, and every invocation is that of a pending callback by its own
identifier, and never that of an activation that has returned. -/
structure AtMostOnce (callbackListLength : Nat) (trace : List (RpcEvent Func)) : Prop where
  named : ((rpcHistory trace).added.map CallbackNode.xid).Nodup
  once : (trace.filterMap RpcEvent.invoked?).Nodup
  delivered : EachEvent (Delivered callbackListLength) trace

/-! ## Histories -/

theorem rpcHistory_registered (trace : List (RpcEvent Func)) (xid : UInt32)
    (c : RpcCallback Func) :
    rpcHistory (trace ++ [.registered xid c]) = (rpcHistory trace).add xid c := by
  unfold rpcHistory History.add
  rw [List.filterMap_append, List.filterMap_append]
  simp [RpcEvent.added?, RpcEvent.found?]

theorem rpcHistory_invoke (trace : List (RpcEvent Func)) (data : List UInt8) (xid : UInt32)
    (c : RpcCallback Func) :
    rpcHistory (trace ++ [invoke data (xid, c)]) = (rpcHistory trace).del xid := by
  unfold rpcHistory History.del
  rw [List.filterMap_append, List.filterMap_append]
  cases c <;> simp [invoke, RpcEvent.added?, RpcEvent.found?]

/-- Entering and leaving `rpc_call` does not touch the callback list. -/
theorem rpcHistory_quiet (trace : List (RpcEvent Func)) {event : RpcEvent Func}
    (notAdded : event.added? = none) (notFound : event.found? = none) :
    rpcHistory (trace ++ [event]) = rpcHistory trace := by
  unfold rpcHistory
  rw [List.filterMap_append, List.filterMap_append]
  simp [notAdded, notFound]

theorem invoked_sublist (trace : List (RpcEvent Func)) :
    (trace.filterMap RpcEvent.invoked?).Sublist (rpcHistory trace).deleted := by
  unfold rpcHistory
  induction trace with
  | nil => exact List.Sublist.refl _
  | cons event rest inductionHypothesis =>
      cases event with
      | invoked xid c data => exact inductionHypothesis.cons_cons xid
      | discarded xid => exact inductionHypothesis.cons xid
      | registered xid c => exact inductionHypothesis
      | called frame => exact inductionHypothesis
      | returned frame rcv => exact inductionHypothesis

/-! ## The invariant -/

/-- The list is tracked, and the only callback of `rpc_call` that may be in it
belongs to the activation `active`. -/
structure Consistent (trace : List (RpcEvent Func))
    (callbacks : CallbackList (RpcCallback Func) callbackListLength) (active : Option Nat)
    (window : Window (CallbackNode (RpcCallback Func))) : Prop where
  tracks : Tracks callbacks (rpcHistory trace) window
  delivered : EachEvent (Delivered callbackListLength) trace
  own : ∀ number xid frame,
    window.held number = some { xid := xid, callback := .call frame } → active = some frame
  unique : ∀ first second xid other frame another,
    window.held first = some { xid := xid, callback := .call frame } →
      window.held second = some { xid := other, callback := .call another } → first = second
  alive : ∀ frame, active = some frame → Active trace frame

namespace Consistent

variable {trace : List (RpcEvent Func)}
  {callbacks : CallbackList (RpcCallback Func) callbackListLength} {active : Option Nat}
  {window : Window (CallbackNode (RpcCallback Func))}

theorem atMostOnce (consistent : Consistent trace callbacks active window) :
    AtMostOnce callbackListLength trace where
  named := by
    rw [List.Nodup, List.pairwise_map]
    refine consistent.tracks.increasing.imp ?_
    intro first second less same
    rw [same] at less
    exact UInt32.lt_irrefl _ less
  once := (invoked_sublist trace).nodup consistent.tracks.once
  delivered := consistent.delivered

/-- An event that is neither a registration, nor an invocation, nor the return
of the active activation changes nothing. -/
theorem quiet (consistent : Consistent trace callbacks active window) {event : RpcEvent Func}
    (notAdded : event.added? = none) (notFound : event.found? = none)
    (stays : ∀ frame rcv, active = some frame → event ≠ .returned frame rcv) :
    Consistent (trace ++ [event]) callbacks active window where
  tracks := by
    rw [rpcHistory_quiet trace notAdded notFound]
    exact consistent.tracks
  delivered := by
    apply consistent.delivered.concat
    cases event with
    | called frame => trivial
    | returned frame rcv => trivial
    | discarded xid => trivial
    | registered xid c => cases notAdded
    | invoked xid c data => cases notFound
  own := consistent.own
  unique := consistent.unique
  alive := by
    intro frame same
    rcases consistent.alive frame same with ⟨entered, running⟩
    refine ⟨List.mem_append_left _ entered, ?_⟩
    intro rcv left
    rcases List.mem_append.mp left with old | newest
    · exact running rcv old
    · exact stays frame rcv same (List.mem_singleton.mp newest).symm

/-- A registration, by `rpc_call` only for an activation that has none yet. -/
theorem register (consistent : Consistent trace callbacks active window) {xid : UInt32}
    {c : RpcCallback Func} {next : CallbackList (RpcCallback Func) callbackListLength}
    (added : callbacks.callbackAdd xid c = some next) {later : Option Nat}
    (kept : ∀ frame, active = some frame → later = some frame)
    (owned : ∀ frame, c = .call frame → active = none ∧ later = some frame)
    (running : ∀ frame, later = some frame → Active trace frame) :
    Consistent (trace ++ [.registered xid c]) next later
      (window.push callbackListLength { xid := xid, callback := c }) where
  tracks := by
    rw [rpcHistory_registered]
    exact consistent.tracks.callbackAdd added
  delivered := by
    apply consistent.delivered.concat
    intro node member
    have admits : callbacks.Admits xid := by
      unfold CallbackList.callbackAdd at added
      by_contra refused
      rw [if_neg refused] at added
      cases added
    exact UInt32.lt_of_le_of_lt (consistent.tracks.le_lastXid member) (Tracks.lastXid_lt admits)
  own := by
    intro number other frame held
    rcases Window.push_held_eq_some held with ⟨_, same⟩ | ⟨_, _, old⟩
    · exact (owned frame (CallbackNode.mk.inj same).2.symm).2
    · exact kept frame (consistent.own number other frame old)
  unique := by
    intro first second other third frame another firstHeld secondHeld
    rcases Window.push_held_eq_some firstHeld with ⟨firstNew, firstSame⟩ | ⟨_, _, firstOld⟩
    · rcases Window.push_held_eq_some secondHeld with ⟨secondNew, _⟩ | ⟨_, _, secondOld⟩
      · exact firstNew.trans secondNew.symm
      · have free := (owned frame (CallbackNode.mk.inj firstSame).2.symm).1
        rw [consistent.own second third another secondOld] at free
        cases free
    · rcases Window.push_held_eq_some secondHeld with ⟨_, secondSame⟩ | ⟨_, _, secondOld⟩
      · have free := (owned another (CallbackNode.mk.inj secondSame).2.symm).1
        rw [consistent.own first other frame firstOld] at free
        cases free
      · exact consistent.unique first second other third frame another firstOld secondOld
  alive := by
    intro frame same
    rcases running frame same with ⟨entered, unreturned⟩
    refine ⟨List.mem_append_left _ entered, ?_⟩
    intro rcv left
    rcases List.mem_append.mp left with old | newest
    · exact unreturned rcv old
    · cases List.mem_singleton.mp newest

/-- A datagram finds a callback, which leaves the list.  That of `rpc_call` is
the last one of its activation. -/
theorem invoke (consistent : Consistent trace callbacks active window) {number : Nat}
    {node : CallbackNode (RpcCallback Func)} (held : window.held number = some node)
    {data : List UInt8} (carried : extractXid (receivedPbuf data).buf = node.xid)
    {later : Option Nat} (older : ∀ frame, later = some frame → active = some frame)
    (kept : ∀ frame, active = some frame → node.callback = .call frame ∨ later = some frame) :
    Consistent (trace ++ [Nfs.invoke data (node.xid, node.callback)])
      (callbacks.release (slotAt callbacks.callbackListHead number)) later
      (window.take number) where
  tracks := by
    rw [rpcHistory_invoke]
    exact consistent.tracks.release held
  delivered := by
    apply consistent.delivered.concat
    have pending := (consistent.tracks.pending number node).mp held
    cases callback : node.callback with
    | null => trivial
    | func f =>
        refine ⟨carried, ⟨number, ?_⟩, ?_⟩
        · rw [← callback]
          exact pending
        · intro frame impossible
          cases impossible
    | call frame =>
        refine ⟨carried, ⟨number, ?_⟩, ?_⟩
        · rw [← callback]
          exact pending
        · intro same equal
          cases equal
          apply consistent.alive
          apply consistent.own number node.xid
          rw [held, ← callback]
  own := by
    intro other xid frame remains
    have old := Window.take_held_eq_some remains
    have mine := consistent.own other xid frame old.2
    rcases kept frame mine with taken | stays
    · refine absurd ?_ old.1
      apply consistent.unique other number xid node.xid frame frame old.2
      rw [held, ← taken]
    · exact stays
  unique := by
    intro first second xid other frame another firstHeld secondHeld
    exact consistent.unique first second xid other frame another
      (Window.take_held_eq_some firstHeld).2 (Window.take_held_eq_some secondHeld).2
  alive := by
    intro frame same
    rcases consistent.alive frame (older frame same) with ⟨entered, running⟩
    refine ⟨List.mem_append_left _ entered, ?_⟩
    intro rcv left
    rcases List.mem_append.mp left with old | newest
    · exact running rcv old
    · cases callback : node.callback <;> rw [callback] at newest <;>
        cases List.mem_singleton.mp newest

end Consistent

/-! ## One call of `rpc_recv` -/

/-- What `rpc_recv` does: end the process, find nothing, or find a callback. -/
inductive RecvStep (client : Client Func callbackListLength) (received : Received)
    (window : Window (CallbackNode (RpcCallback Func)))
    (result : Option (RecvResult Func callbackListLength)) : Prop where
  | ends (same : result = none)
  | quiet (status : Int)
      (same : result = some { status := status, client := client, found := none })
  | finds (number : Nat) (node : CallbackNode (RpcCallback Func))
      (held : window.held number = some node)
      (carried : extractXid (receivedPbuf received.data).buf = node.xid)
      (same : result = some
        { status := 0
          client := { client with
            callbacks :=
              client.callbacks.release (slotAt client.callbacks.callbackListHead number) }
          found := some (node.xid, node.callback) })

theorem rpcTake_step {client : Client Func callbackListLength}
    {history : History (RpcCallback Func)} {window : Window (CallbackNode (RpcCallback Func))}
    (tracks : Tracks client.callbacks history window) (received : Received) :
    RecvStep client received window (rpcTake client received) := by
  cases received with
  | timedOut => exact .quiet (-1) rfl
  | eagain => exact .quiet 0 rfl
  | error => exact .quiet (-1) rfl
  | datagram data =>
      rw [rpcTake]
      by_cases empty : data = []
      · rw [if_pos empty]
        exact .ends rfl
      · rw [if_neg empty]
        dsimp only
        by_cases positive : 0 < extractXid (receivedPbuf data).buf
        · cases tracks.callbackDel_step positive with
          | misses same =>
              rw [same]
              exact .quiet (-1) rfl
          | finds number node held named _ found =>
              rw [found]
              refine .finds number node held named.symm ?_
              rw [named]
              rfl
        · rw [CallbackList.callbackDel, if_neg positive]
          exact .ends rfl

/-! ## The machine -/

/-- The activation whose callback may be in the list. -/
def Client.active (client : Client Func callbackListLength) : Option Nat :=
  match client.calling with
  | some call => if call.tx then none else some call.frame
  | none => none

/-- The invariant of the machine.  The waiting activation is the newest one;
of a process that has ended only the trace is left. -/
structure Reliable (client : Client Func callbackListLength)
    (trace : List (RpcEvent Func)) : Prop where
  consistent : ∃ window, Consistent trace client.callbacks client.active window
  waiting : ∀ call, client.calling = some call → Active trace call.frame
  past : ∀ frame rcv, .returned frame rcv ∈ trace → frame < client.frames
  newest : ∀ call, client.calling = some call → call.frame < client.frames

def Sound (state : Option (Client Func callbackListLength))
    (trace : List (RpcEvent Func)) : Prop :=
  match state with
  | some client => Reliable client trace
  | none => AtMostOnce callbackListLength trace

theorem Reliable.atMostOnce {client : Client Func callbackListLength}
    {trace : List (RpcEvent Func)} (reliable : Reliable client trace) :
    AtMostOnce callbackListLength trace := by
  rcases reliable.consistent with ⟨window, consistent⟩
  exact consistent.atMostOnce

theorem reliable_start (Func : Type) (callbackListLength : Nat)
    (positive : 0 < callbackListLength) :
    Reliable (rpcStart Func callbackListLength positive) [] where
  consistent := by
    refine ⟨Window.empty, Tracks.start callbackListLength positive _, ?_, ?_, ?_, ?_⟩
    · exact eachEvent_nil _
    · intro number xid frame held
      cases held
    · intro first second xid other frame another held
      cases held
    · intro frame impossible
      cases impossible
  waiting := by intro call impossible; cases impossible
  past := by intro frame rcv impossible; cases impossible
  newest := by intro call impossible; cases impossible

/-- What `rpc_send` does: fail an assertion, leave the list alone, or register
its callback. -/
inductive SendStep (client : Client Func callbackListLength) (c : Option (RpcCallback Func))
    (result : Option (Int × Client Func callbackListLength × List (RpcEvent Func))) : Prop where
  | ends (same : result = none)
  | quiet (r : Int) (silent : c = none) (same : result = some (r, client, []))
  | registers (r : Int) (xid : UInt32) (own : RpcCallback Func)
      (callbacks : CallbackList (RpcCallback Func) callbackListLength) (given : c = some own)
      (added : client.callbacks.callbackAdd xid own = some callbacks)
      (same : result =
        some (r, { client with callbacks := callbacks }, [.registered xid own]))

theorem rpcSend_step (client : Client Func callbackListLength) (pbuf : Pbuf)
    (c : Option (RpcCallback Func)) (sent : Int) :
    SendStep client c (rpcSend client pbuf c sent) := by
  unfold rpcSend
  by_cases outside : pbuf.pos < 0 ∨ pbufSize < pbuf.pos
  · rw [if_pos outside]
    exact .ends rfl
  · rw [if_neg outside]
    cases c with
    | none => exact .quiet _ rfl rfl
    | some own =>
        dsimp only
        cases added : client.callbacks.callbackAdd (extractXid pbuf.buf) own with
        | none => exact .ends rfl
        | some callbacks => exact .registers _ _ own callbacks rfl added rfl

/-- Events without a return leave the bound on the activations that returned. -/
theorem past_append {trace events : List (RpcEvent Func)} {frames : Nat}
    (past : ∀ frame rcv, .returned frame rcv ∈ trace → frame < frames)
    (quiet : ∀ frame rcv, .returned frame rcv ∉ events) :
    ∀ frame rcv, .returned frame rcv ∈ trace ++ events → frame < frames := by
  intro frame rcv left
  rcases List.mem_append.mp left with old | here
  · exact past frame rcv old
  · exact absurd here (quiet frame rcv)

theorem not_returned_registered {xid : UInt32} {c : RpcCallback Func} (frame : Nat)
    (rcv : Pbuf) : .returned frame rcv ∉ [RpcEvent.registered xid c] := by
  intro member
  cases List.mem_singleton.mp member

/-- After the send of a turn the callback of the activation may be in the list. -/
theorem turn_sends {client : Client Func callbackListLength} {trace : List (RpcEvent Func)}
    (reliable : Reliable client trace) {call : Call} (waits : client.calling = some call)
    (sent : Int) :
    rpcSend client call.snd (if call.tx then some (.call call.frame) else none) sent = none ∨
      ∃ r next events,
        rpcSend client call.snd (if call.tx then some (.call call.frame) else none) sent =
            some (r, next, events) ∧
          next.frames = client.frames ∧
          (∀ frame rcv, .returned frame rcv ∉ events) ∧
          ∃ window, Consistent (trace ++ events) next.callbacks (some call.frame) window := by
  rcases reliable.consistent with ⟨window, consistent⟩
  have running := reliable.waiting call waits
  cases rpcSend_step client call.snd (if call.tx then some (.call call.frame) else none) sent with
  | ends same => exact Or.inl same
  | quiet r silent same =>
      refine Or.inr ⟨r, client, [], same, rfl, fun _ _ => List.not_mem_nil, window, ?_⟩
      have registered : call.tx = false := by
        by_contra first
        rw [Bool.not_eq_false] at first
        rw [if_pos first] at silent
        cases silent
      have active : client.active = some call.frame := by
        rw [Client.active, waits]
        dsimp only
        rw [if_neg (by rw [registered]; exact Bool.false_ne_true)]
      rw [List.append_nil, ← active]
      exact consistent
  | registers r xid own callbacks given added same =>
      refine Or.inr ⟨r, _, [.registered xid own], same, rfl, not_returned_registered,
        window.push callbackListLength { xid := xid, callback := own }, ?_⟩
      · by_cases first : call.tx = true
        · rw [if_pos first] at given
          cases given
          have free : client.active = none := by
            rw [Client.active, waits]
            exact if_pos first
          apply consistent.register added
          · intro frame impossible
            rw [free] at impossible
            cases impossible
          · intro frame equal
            cases equal
            exact ⟨free, rfl⟩
          · intro frame equal
            cases equal
            exact running
        · rw [if_neg first] at given
          cases given

/-- An activation that goes on waiting, with its callback registered. -/
theorem reliable_waiting {trace : List (RpcEvent Func)}
    {callbacks : CallbackList (RpcCallback Func) callbackListLength}
    {window : Window (CallbackNode (RpcCallback Func))} {call : Call} {frames : Nat}
    (consistent : Consistent trace callbacks (some call.frame) window)
    (past : ∀ frame rcv, .returned frame rcv ∈ trace → frame < frames)
    (recent : call.frame < frames) :
    Reliable
      { callbacks := callbacks, frames := frames, calling := some { call with tx := false } }
      trace where
  consistent := ⟨window, consistent⟩
  waiting := by
    intro other equal
    cases equal
    exact consistent.alive call.frame rfl
  past := past
  newest := by
    intro other equal
    cases equal
    exact recent

theorem reliable_idle {trace : List (RpcEvent Func)}
    {callbacks : CallbackList (RpcCallback Func) callbackListLength}
    {window : Window (CallbackNode (RpcCallback Func))} {frames : Nat}
    (consistent : Consistent trace callbacks none window)
    (past : ∀ frame rcv, .returned frame rcv ∈ trace → frame < frames) :
    Reliable { callbacks := callbacks, frames := frames, calling := none } trace where
  consistent := ⟨window, consistent⟩
  waiting := by intro call impossible; cases impossible
  past := past
  newest := by intro call impossible; cases impossible

theorem not_returned_invoke {data : List UInt8} {xid : UInt32} {c : RpcCallback Func}
    (frame : Nat) (rcv : Pbuf) : .returned frame rcv ∉ [invoke data (xid, c)] := by
  intro member
  cases c <;> cases List.mem_singleton.mp member

theorem reliable_returned {trace : List (RpcEvent Func)}
    {callbacks : CallbackList (RpcCallback Func) callbackListLength}
    {window : Window (CallbackNode (RpcCallback Func))} {frame frames : Nat}
    (consistent : Consistent trace callbacks (some frame) window)
    (past : ∀ frame rcv, .returned frame rcv ∈ trace → frame < frames) (recent : frame < frames)
    {number : Nat} {node : CallbackNode (RpcCallback Func)}
    (held : window.held number = some node) {data : List UInt8}
    (carried : extractXid (receivedPbuf data).buf = node.xid)
    (mine : node.callback = .call frame) :
    Reliable
      { callbacks := callbacks.release (slotAt callbacks.callbackListHead number)
        frames := frames
        calling := none }
      (trace ++ [invoke data (node.xid, node.callback)] ++
        [.returned frame (receivedPbuf data)]) := by
  have gone : Consistent (trace ++ [invoke data (node.xid, node.callback)])
      (callbacks.release (slotAt callbacks.callbackListHead number)) none
      (window.take number) := by
    apply consistent.invoke held carried
    · intro other impossible
      cases impossible
    · intro other equal
      cases equal
      exact Or.inl mine
  have kept : ∀ other rcv, .returned other rcv ∈
      trace ++ [invoke data (node.xid, node.callback)] → other < frames :=
    past_append past not_returned_invoke
  refine reliable_idle (gone.quiet rfl rfl ?_) ?_
  · intro other rcv impossible
    cases impossible
  · intro other rcv left
    rcases List.mem_append.mp left with old | newest
    · exact kept other rcv old
    · cases List.mem_singleton.mp newest
      exact recent

theorem notifies_iff {result : RecvResult Func callbackListLength} {xid : UInt32}
    {c : RpcCallback Func} (found : result.found = some (xid, c)) (frame : Nat) :
    result.notifies frame = true ↔ c = .call frame := by
  unfold RecvResult.notifies
  rw [found]
  cases c with
  | call other => exact beq_iff_eq.trans (RpcCallback.call.injEq other frame ▸ Iff.rfl)
  | func f => exact iff_of_false Bool.false_ne_true (by intro impossible; cases impossible)
  | null => exact iff_of_false Bool.false_ne_true (by intro impossible; cases impossible)

theorem turn_sound {client : Client Func callbackListLength} {trace : List (RpcEvent Func)}
    (reliable : Reliable client trace) {call : Call} (waits : client.calling = some call)
    (sent : Int) (received : Received) :
    Sound (rpcCallTurn client call sent received).1
      (trace ++ (rpcCallTurn client call sent received).2) := by
  have recent := reliable.newest call waits
  unfold rpcCallTurn
  rcases turn_sends reliable waits sent with ended | ⟨r, next, events, same, frames, quiet, window,
    consistent⟩
  · rw [ended, List.append_nil]
    exact reliable.atMostOnce
  · rw [same]
    dsimp only
    rw [← frames] at recent
    have unreturned : ∀ frame rcv, .returned frame rcv ∈ trace ++ events →
        frame < next.frames := by
      rw [frames]
      exact past_append reliable.past quiet
    by_cases short : r ≠ call.snd.pos
    · rw [if_pos short]
      exact consistent.atMostOnce
    · rw [if_neg short]
      cases rpcTake_step consistent.tracks received with
      | ends stopped =>
          rw [stopped]
          exact consistent.atMostOnce
      | quiet status found =>
          rw [found]
          change Reliable { next with calling := some { call with tx := false } }
            (trace ++ (events ++ []))
          rw [List.append_nil]
          exact reliable_waiting consistent unreturned recent
      | finds number node held carried found =>
          rw [found]
          dsimp only
          by_cases mine : node.callback = .call call.frame
          · rw [if_pos ((notifies_iff rfl call.frame).mpr mine)]
            change Reliable _ (trace ++ (events ++ ([invoke received.data
              (node.xid, node.callback)] ++ [.returned call.frame (receivedPbuf received.data)])))
            rw [← List.append_assoc, ← List.append_assoc]
            exact reliable_returned consistent unreturned recent held carried mine
          · rw [if_neg (fun notified => mine ((notifies_iff rfl call.frame).mp notified))]
            change Reliable _
              (trace ++ (events ++ [invoke received.data (node.xid, node.callback)]))
            rw [← List.append_assoc]
            have gone : Consistent
                (trace ++ events ++ [invoke received.data (node.xid, node.callback)])
                (next.callbacks.release (slotAt next.callbacks.callbackListHead number))
                (some call.frame) (window.take number) := by
              apply consistent.invoke held carried
              · exact fun frame equal => equal
              · exact fun frame equal => Or.inr equal
            exact reliable_waiting gone (past_append unreturned not_returned_invoke) recent

section Idle

variable {client : Client Func callbackListLength} {trace : List (RpcEvent Func)}
  (reliable : Reliable client trace) (idle : client.calling = none)
include reliable idle

theorem Reliable.consistent_idle : ∃ window, Consistent trace client.callbacks none window := by
  rcases reliable.consistent with ⟨window, consistent⟩
  have free : client.active = none := by rw [Client.active, idle]
  rw [free] at consistent
  exact ⟨window, consistent⟩

theorem Reliable.idle_with {events : List (RpcEvent Func)}
    {callbacks : CallbackList (RpcCallback Func) callbackListLength}
    {window : Window (CallbackNode (RpcCallback Func))}
    (consistent : Consistent (trace ++ events) callbacks none window)
    (quiet : ∀ frame rcv, .returned frame rcv ∉ events) :
    Reliable { client with callbacks := callbacks } (trace ++ events) := by
  have same : { client with callbacks := callbacks } =
      ({ callbacks := callbacks, frames := client.frames, calling := none } :
        Client Func callbackListLength) := by
    rw [← idle]
  rw [same]
  exact reliable_idle consistent (past_append reliable.past quiet)

theorem call_sound (snd : Pbuf) :
    Sound ((rpcMachine Func callbackListLength).step (some client) (.call snd)).1
      (trace ++ ((rpcMachine Func callbackListLength).step (some client) (.call snd)).2) := by
  simp only [rpcMachine, idle]
  rcases reliable.consistent_idle idle with ⟨window, consistent⟩
  have entered : Consistent (trace ++ [.called client.frames]) client.callbacks none window := by
    apply consistent.quiet rfl rfl
    intro frame rcv impossible
    cases impossible
  have unreturned : ∀ frame rcv,
      .returned frame rcv ∉ ([.called client.frames] : List (RpcEvent Func)) := by
    intro frame rcv member
    cases List.mem_singleton.mp member
  have past := past_append reliable.past unreturned
  constructor
  · exact ⟨window, entered⟩
  · intro call equal
    cases equal
    refine ⟨List.mem_append_right _ (List.mem_singleton.mpr rfl), ?_⟩
    exact fun rcv left => Nat.lt_irrefl _ (past _ rcv left)
  · exact fun frame rcv left => Nat.lt_succ_of_lt (past frame rcv left)
  · intro call equal
    cases equal
    exact Nat.lt_succ_self _

theorem recv_sound (received : Received) :
    Sound ((rpcMachine Func callbackListLength).step (some client) (.recv received)).1
      (trace ++
        ((rpcMachine Func callbackListLength).step (some client) (.recv received)).2) := by
  simp only [rpcMachine, idle]
  rcases reliable.consistent_idle idle with ⟨window, consistent⟩
  cases rpcTake_step consistent.tracks received with
  | ends stopped =>
      rw [stopped]
      change AtMostOnce callbackListLength (trace ++ [])
      rw [List.append_nil]
      exact reliable.atMostOnce
  | quiet status found =>
      rw [found]
      change Reliable client (trace ++ [])
      rw [List.append_nil]
      exact reliable
  | finds number node held carried found =>
      rw [found]
      have gone : Consistent (trace ++ [invoke received.data (node.xid, node.callback)])
          (client.callbacks.release (slotAt client.callbacks.callbackListHead number)) none
          (window.take number) := by
        apply consistent.invoke held carried
        · exact fun frame equal => equal
        · exact fun frame equal => Or.inr equal
      exact reliable.idle_with idle gone not_returned_invoke

theorem send_sound (pbuf : Pbuf) (c : Option (Option Func)) (sent : Int) :
    Sound ((rpcMachine Func callbackListLength).step (some client) (.send pbuf c sent)).1
      (trace ++
        ((rpcMachine Func callbackListLength).step (some client) (.send pbuf c sent)).2) := by
  simp only [rpcMachine, idle]
  rcases reliable.consistent_idle idle with ⟨window, consistent⟩
  cases rpcSend_step client pbuf (c.map RpcCallback.ofFunc) sent with
  | ends stopped =>
      rw [stopped]
      change AtMostOnce callbackListLength (trace ++ [])
      rw [List.append_nil]
      exact reliable.atMostOnce
  | quiet r silent same =>
      rw [same]
      change Reliable client (trace ++ [])
      rw [List.append_nil]
      exact reliable
  | registers r xid own callbacks given added same =>
      rw [same]
      -- a callback that is given to `rpc_send` is not that of an activation
      have other : ∀ frame, own ≠ .call frame := by
        intro frame equal
        rcases Option.map_eq_some_iff.mp given with ⟨func, _, built⟩
        rw [equal] at built
        cases func <;> cases built
      have entered : Consistent (trace ++ [.registered xid own]) callbacks none
          (window.push callbackListLength { xid := xid, callback := own }) := by
        apply consistent.register added
        · exact fun frame equal => equal
        · exact fun frame equal => absurd equal (other frame)
        · intro frame impossible
          cases impossible
      exact reliable.idle_with idle entered not_returned_registered

end Idle

theorem step_sound (state : Option (Client Func callbackListLength))
    (trace : List (RpcEvent Func)) (input : RpcInput Func) (sound : Sound state trace) :
    Sound ((rpcMachine Func callbackListLength).step state input).1
      (trace ++ ((rpcMachine Func callbackListLength).step state input).2) := by
  have stays : Sound state (trace ++ []) := by
    rw [List.append_nil]
    exact sound
  cases state with
  | none => exact stays
  | some client =>
      cases waits : client.calling with
      | some call =>
          cases input with
          | turn sent received =>
              simp only [rpcMachine, waits]
              exact turn_sound sound waits sent received
          | send pbuf c sent =>
              simp only [rpcMachine, waits]
              exact stays
          | recv received =>
              simp only [rpcMachine, waits]
              exact stays
          | call snd =>
              simp only [rpcMachine, waits]
              exact stays
      | none =>
          cases input with
          | turn sent received =>
              simp only [rpcMachine, waits]
              exact stays
          | call snd => exact call_sound sound waits snd
          | recv received => exact recv_sound sound waits received
          | send pbuf c sent => exact send_sound sound waits pbuf c sent

/-- In every run every registered callback is invoked at most once, only by a
datagram that carries its identifier, neither after its slot was overwritten
nor after the activation of `rpc_call` that it belongs to has returned. -/
theorem rpcRun_atMostOnce (Func : Type) (callbackListLength : Nat)
    (positive : 0 < callbackListLength) (inputs : List (RpcInput Func)) :
    AtMostOnce callbackListLength (rpcRun Func callbackListLength positive inputs).2 := by
  have sound : Sound (rpcRun Func callbackListLength positive inputs).1
      (rpcRun Func callbackListLength positive inputs).2 := by
    exact (rpcMachine Func callbackListLength).run_invariant
      (fun state trace input sound _ => step_sound state trace input sound)
      (reliable_start Func callbackListLength positive)
      ((rpcMachine Func callbackListLength).along_true _ [] inputs)
  cases ended : (rpcRun Func callbackListLength positive inputs).1 with
  | none =>
      rw [ended] at sound
      exact sound
  | some client =>
      rw [ended] at sound
      exact Reliable.atMostOnce sound

/-- A request, its reply, and the same reply again. -/
theorem rpcRun_atMostOnce_duplicate :
    AtMostOnce 2 (rpcRun Unit 2 (by decide)
      [.send (receivedPbuf [0, 0, 0, 101]) (some (some ())) 0,
        .recv (.datagram [0, 0, 0, 101]), .recv (.datagram [0, 0, 0, 101])]).2 :=
  rpcRun_atMostOnce Unit 2 (by decide) _

end Nfs
end Ipbench
