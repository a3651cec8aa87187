import Ipbench.Nfs.RequestCache
import Mathlib.Data.List.Perm.Subperm

namespace Ipbench
namespace Nfs

open Foundation

/-!
# A ledger of requests

What the benchmark measures needs neither buffers nor slots.  A `Ledger` lists the
requests in the order in which they were sent, and those that have been answered.
A reply counts while its request is among the newest ones and has not been
answered, and only while the newest request has not been answered either: the
callback list measures distances from its newest entry, and loses its place
without it.

The benchmark follows its ledger in every run, whatever arrives.  No time is
returned for a request that was not sent, or twice for one that was.
-/

variable {callbackListLength : Nat}

/-! ## The ledger -/

/-- The requests in the order in which they were sent, and the numbers of those that
have been answered, each of them once. -/
structure Ledger where
  requests : List TimedCallback
  answered : List Nat
  known : ∀ number ∈ answered, number < requests.length
  once : answered.Nodup

namespace Ledger

def empty : Ledger where
  requests := []
  answered := []
  known := by simp
  once := List.nodup_nil

def send (ledger : Ledger) (c : TimedCallback) : Ledger where
  requests := ledger.requests ++ [c]
  answered := ledger.answered
  known := by
    intro number member
    have inside := ledger.known number member
    rw [List.length_append]
    omega
  once := ledger.once

/-- A request is open while it is one of the newest ones and has no answer. -/
def Open (length : Nat) (ledger : Ledger) (number : Nat) : Prop :=
  number < ledger.requests.length ∧ ledger.requests.length ≤ number + length ∧
    number ∉ ledger.answered

/-- A reply counts while its request and the newest one are open. -/
def Counts (length : Nat) (ledger : Ledger) (number : Nat) : Prop :=
  ledger.Open length number ∧ ledger.requests.length - 1 ∉ ledger.answered

instance (length : Nat) (ledger : Ledger) (number : Nat) :
    Decidable (ledger.Open length number) :=
  inferInstanceAs (Decidable (_ ∧ _))

instance (length : Nat) (ledger : Ledger) (number : Nat) :
    Decidable (ledger.Counts length number) :=
  inferInstanceAs (Decidable (_ ∧ _))

def answer {length number : Nat} (ledger : Ledger) (counts : ledger.Counts length number) :
    Ledger where
  requests := ledger.requests
  answered := ledger.answered ++ [number]
  known := by
    intro other member
    rcases List.mem_append.mp member with old | new
    · exact ledger.known other old
    · rw [List.mem_singleton.mp new]
      exact counts.1.1
  once := List.nodup_append.mpr ⟨ledger.once, List.nodup_singleton _, by
    intro other member new here same
    rw [List.mem_singleton.mp here] at same
    exact counts.1.2.2 (same ▸ member)⟩

/-- The time that is returned for a request.  A time of zero reads as no reply. -/
def time (ledger : Ledger) (number : Nat) : Option UInt64 :=
  (ledger.requests[number]?).bind fun c => processReply c.timestamp

end Ledger

/-- The ledger as a machine.  Requests take the identifiers after `base`, one after
the other, as long as there are any.  An empty datagram, and one that carries the
identifier zero, end the process. -/
def ledgerMachine (callbackListLength : Nat) (order : ByteOrder) (nfsFileHandle : Cookie)
    (random : Nat → UInt8) (base : Nat) : Machine (Option Ledger) WorkloadInput WorkloadEvent where
  step := fun state input =>
    match state, input with
    | none, _ => (none, [])
    | some ledger, .generateRequest choice timestamp sent =>
        let index := choice &&& 1 != 0
        let xid := base + ledger.requests.length + 1
        if xid < 0x100000000 then
          (some (ledger.send (timedRequest index timestamp)),
            [.requested sent ((cachedCall nfsFileHandle random index).request order
              (UInt32.ofNat xid))])
        else (none, [])
    | some ledger, .processReply (.datagram data) =>
        let xid := (extractXid (receivedPbuf data).buf).toNat
        let number := xid - (base + 1)
        if data = [] ∨ xid = 0 then (none, [])
        else if counts : base < xid ∧ ledger.Counts callbackListLength number then
          (some (ledger.answer counts.2), [.replied (ledger.time number)])
        else (some ledger, [.replied none])
    | some ledger, .processReply _ => (some ledger, [.replied none])

/-! ## The ledger in the callback list -/

theorem xid_toNat {number : Nat} (small : number < 0x100000000) :
    (UInt32.ofNat number).toNat = number :=
  UInt32.toNat_ofNat_of_lt' small

namespace Ledger

/-- The entry of a request in the callback list. -/
def node (base : Nat) (ledger : Ledger) (number : Nat) :
    Option (CallbackNode (RpcCallback (GlueCallback TimedCallback))) :=
  (ledger.requests[number]?).map fun c =>
    { xid := UInt32.ofNat (base + number + 1), callback := .func (.other c) }

/-- What the callback list holds, when `first` callbacks were registered before. -/
def window (length first base : Nat) (ledger : Ledger) :
    Window (CallbackNode (RpcCallback (GlueCallback TimedCallback))) where
  count := first + ledger.requests.length
  held := fun place =>
    if first ≤ place ∧ ledger.Open length (place - first) then ledger.node base (place - first)
    else none

variable {length first base : Nat} {ledger : Ledger}

theorem window_held_eq_some {place : Nat}
    {entry : CallbackNode (RpcCallback (GlueCallback TimedCallback))}
    (held : (ledger.window length first base).held place = some entry) :
    ∃ number c, place = first + number ∧ ledger.Open length number ∧
      ledger.requests[number]? = some c ∧
      entry = { xid := UInt32.ofNat (base + number + 1), callback := .func (.other c) } := by
  unfold window at held
  dsimp only at held
  split at held
  · next inside =>
      rcases Option.map_eq_some_iff.mp held with ⟨c, found, same⟩
      exact ⟨place - first, c, by omega, inside.2, found, same.symm⟩
  · cases held

theorem window_held_of_open (first base : Nat) {number : Nat} {c : TimedCallback}
    (isOpen : ledger.Open length number) (found : ledger.requests[number]? = some c) :
    (ledger.window length first base).held (first + number) =
      some { xid := UInt32.ofNat (base + number + 1), callback := .func (.other c) } := by
  unfold window node
  dsimp only
  rw [Nat.add_sub_cancel_left, if_pos ⟨Nat.le_add_right _ _, isOpen⟩, found]
  rfl

theorem window_held_of_not_open {number : Nat} (closed : ¬ ledger.Open length number) :
    (ledger.window length first base).held (first + number) = none := by
  unfold window
  dsimp only
  rw [Nat.add_sub_cancel_left, if_neg fun inside => closed inside.2]

theorem window_send (positive : 0 < length) (c : TimedCallback) :
    (ledger.send c).window length first base =
      (ledger.window length first base).push length
        { xid := UInt32.ofNat (base + ledger.requests.length + 1)
          callback := .func (.other c) } := by
  have total : (ledger.send c).requests.length = ledger.requests.length + 1 := by simp [send]
  ext1
  · change first + (ledger.send c).requests.length = first + ledger.requests.length + 1
    rw [total, Nat.add_assoc]
  · funext place
    have unanswered : ledger.requests.length ∉ ledger.answered := fun member =>
      Nat.lt_irrefl _ (ledger.known _ member)
    unfold Window.push
    dsimp only
    by_cases before : place < first
    · have new : place ≠ first + ledger.requests.length := by omega
      unfold window
      dsimp only
      rw [if_neg fun inside => by omega, if_neg new]
      split
      · rfl
      · rw [if_neg fun inside => by omega]
    · rcases Nat.exists_eq_add_of_le (Nat.le_of_not_lt before) with ⟨number, rfl⟩
      change _ = if first + number = first + ledger.requests.length then _ else
        if first + number + length = first + ledger.requests.length then none
        else (ledger.window length first base).held (first + number)
      by_cases newest : number = ledger.requests.length
      · rw [newest, if_pos rfl]
        apply window_held_of_open
        · refine ⟨?_, ?_, unanswered⟩
          · omega
          · omega
        · simp [send]
      · rw [if_neg (by omega)]
        by_cases oldest : number + length = ledger.requests.length
        · rw [if_pos (by omega)]
          apply window_held_of_not_open
          intro isOpen
          have recent := isOpen.2.1
          omega
        · rw [if_neg (by omega)]
          have same : (ledger.send c).Open length number ↔ ledger.Open length number := by
            unfold Open
            rw [total]
            refine and_congr (by omega) (and_congr (by omega) Iff.rfl)
          by_cases isOpen : ledger.Open length number
          · have found := List.getElem?_eq_getElem isOpen.1
            rw [window_held_of_open first base isOpen found]
            apply window_held_of_open first base (same.mpr isOpen)
            rw [send, List.getElem?_append_left isOpen.1, found]
          · rw [window_held_of_not_open isOpen,
              window_held_of_not_open fun still => isOpen (same.mp still)]

theorem window_answer {number : Nat} (counts : ledger.Counts length number) :
    (ledger.answer counts).window length first base =
      (ledger.window length first base).take (first + number) := by
  ext1
  · rfl
  · funext place
    by_cases before : place < first
    · have other : place ≠ first + number := by omega
      rw [Window.take_held_of_ne _ other]
      unfold window
      dsimp only
      rw [if_neg fun inside => by omega, if_neg fun inside => by omega]
    · rcases Nat.exists_eq_add_of_le (Nat.le_of_not_lt before) with ⟨other, rfl⟩
      by_cases same : other = number
      · rw [same, Window.take_held_self]
        apply window_held_of_not_open
        intro isOpen
        exact isOpen.2.2 (List.mem_append_right _ (List.mem_singleton.mpr rfl))
      · rw [Window.take_held_of_ne _ (by omega)]
        have still : (ledger.answer counts).Open length other ↔ ledger.Open length other := by
          unfold Open answer
          refine and_congr Iff.rfl (and_congr Iff.rfl (not_congr ?_))
          rw [List.mem_append, List.mem_singleton]
          exact or_iff_left same
        by_cases isOpen : ledger.Open length other
        · have found := List.getElem?_eq_getElem isOpen.1
          rw [window_held_of_open first base isOpen found]
          exact window_held_of_open first base (still.mpr isOpen) found
        · rw [window_held_of_not_open isOpen,
            window_held_of_not_open fun open_ => isOpen (still.mp open_)]

section Tracked

variable {list : CallbackList (RpcCallback (GlueCallback TimedCallback)) length}
  {history : History (RpcCallback (GlueCallback TimedCallback))}

/-- The number that names the newest request is at the head, as long as that is
open. -/
theorem headXid_of_open (tracks : Tracks list history (ledger.window length first base))
    (unanswered : ledger.requests.length - 1 ∉ ledger.answered)
    (nonempty : 0 < ledger.requests.length) :
    (list.callbackList list.callbackListHead).xid =
      UInt32.ofNat (base + ledger.requests.length) := by
  have positive := list.callbackListHead.pos
  have newest : ledger.Open length (ledger.requests.length - 1) :=
    ⟨by omega, by omega, unanswered⟩
  have held := window_held_of_open first base newest
    (List.getElem?_eq_getElem newest.1)
  have place : (ledger.window length first base).count - 1 =
      first + (ledger.requests.length - 1) := by
    change first + ledger.requests.length - 1 = _
    omega
  have counted : 0 < (ledger.window length first base).count := Nat.add_pos_right first nonempty
  rw [tracks.holds.head_eq counted, place, tracks.holds.present _ _ held]
  dsimp only
  congr 1
  omega

/-- Once the newest request has been answered, there is no identifier at the head. -/
theorem headXid_of_answered (tracks : Tracks list history (ledger.window length first base))
    (answered : ledger.requests.length - 1 ∈ ledger.answered) :
    (list.callbackList list.callbackListHead).xid = 0 := by
  have nonempty : 0 < ledger.requests.length := by
    have inside := ledger.known _ answered
    omega
  have counted : 0 < (ledger.window length first base).count := Nat.add_pos_right first nonempty
  rw [tracks.holds.head_eq counted]
  apply tracks.holds.vacant
  intro place entry held same
  rcases window_held_eq_some held with ⟨number, c, rfl, isOpen, _⟩
  have inside := tracks.holds.bounded _ entry held
  have newest : first + number = (ledger.window length first base).count - 1 :=
    slot_injective (by omega) (by omega) (Fin.ext_iff.mp same)
  apply isOpen.2.2
  have last : number = ledger.requests.length - 1 := by
    change first + number = first + ledger.requests.length - 1 at newest
    omega
  rwa [last]

/-- A reply that counts finds the callback of its request. -/
theorem callbackDel_of_counts (tracks : Tracks list history (ledger.window length first base))
    (small : base + ledger.requests.length < 0x100000000) {number : Nat} {c : TimedCallback}
    (counts : ledger.Counts length number) (found : ledger.requests[number]? = some c) :
    list.callbackDel (UInt32.ofNat (base + number + 1)) = some (some (.func (.other c)),
      list.release (slotAt list.callbackListHead (first + number))) := by
  have held := window_held_of_open first base counts.1 found
  have inside := counts.1.1
  have own : (UInt32.ofNat (base + number + 1)).toNat = base + number + 1 :=
    xid_toNat (by omega)
  have newest : (UInt32.ofNat (base + ledger.requests.length)).toNat =
      base + ledger.requests.length := xid_toNat small
  have located : Tracks.Located list (ledger.window length first base)
      (UInt32.ofNat (base + number + 1)) (first + number) := by
    unfold Tracks.Located CallbackList.offset
    rw [headXid_of_open tracks counts.2 (by omega), UInt32.toNat_sub_of_le _ _
      (UInt32.le_iff_toNat_le.mpr (by omega)), own, newest]
    change _ = first + ledger.requests.length - 1 - (first + number)
    omega
  exact tracks.callbackDel_of_located held located

theorem callbackDel_of_not_counts
    (tracks : Tracks list history (ledger.window length first base))
    (small : base + ledger.requests.length < 0x100000000) {xid : UInt32} (positive : 0 < xid)
    (ignored : ¬ (base < xid.toNat ∧ ledger.Counts length (xid.toNat - (base + 1)))) :
    list.callbackDel xid = some (none, list) := by
  apply tracks.callbackDel_of_not_located positive
  intro place entry held named located
  rcases window_held_eq_some held with ⟨number, c, rfl, isOpen, found, rfl⟩
  dsimp only at named
  have inside := isOpen.1
  have own : xid.toNat = base + number + 1 := by
    rw [← named]
    exact xid_toNat (by omega)
  have answered : ledger.requests.length - 1 ∈ ledger.answered := by
    by_contra unanswered
    refine ignored ⟨by omega, ?_⟩
    rw [own, Nat.add_right_comm, Nat.add_sub_cancel_left]
    exact ⟨isOpen, unanswered⟩
  -- The distance from identifier zero is more than there are requests.
  unfold Tracks.Located CallbackList.offset at located
  rw [headXid_of_answered tracks answered, UInt32.toNat_sub] at located
  change (2 ^ 32 - xid.toNat + 0) % 2 ^ 32 = first + ledger.requests.length - 1 -
    (first + number) at located
  omega

end Tracked

end Ledger

/-! ## The simulation -/

/-- No callback is pending.  Each call that came before has waited for its reply. -/
def Transport.Settled (transport : Transport (GlueCallback TimedCallback) callbackListLength) :
    Prop :=
  transport.Counted ∧ ∃ history window, Tracks transport.client.callbacks history window ∧
    ∀ number, window.held number = none

theorem Transport.settled_start (positive : 0 < callbackListLength) (curXid : UInt32) :
    Transport.Settled
      { client := rpcStart (GlueCallback TimedCallback) callbackListLength positive
        curXid := curXid } := by
  refine ⟨UInt32.zero_le, History.empty, Window.empty,
    Tracks.start callbackListLength positive RpcCallback.null, ?_⟩
  exact fun _ => rfl

/-- When a request is sent and its reply received, no callback is pending again.
Until then nothing else finds one. -/
theorem Transport.Settled.exchange
    {transport : Transport (GlueCallback TimedCallback) callbackListLength}
    (settled : transport.Settled) {c : RpcCallback (GlueCallback TimedCallback)}
    {callbacks : CallbackList (RpcCallback (GlueCallback TimedCallback)) callbackListLength}
    (left : transport.curXid + 1 ≠ 0)
    (added : transport.client.callbacks.callbackAdd (transport.curXid + 1) c = some callbacks) :
    callbacks.callbackDel (transport.curXid + 1) =
        some (some c, callbacks.release callbacks.callbackListHead) ∧
      (∀ xid, 0 < xid → xid ≠ transport.curXid + 1 →
        callbacks.callbackDel xid = some (none, callbacks)) ∧
      Transport.Settled
        { client :=
            { transport.client with callbacks := callbacks.release callbacks.callbackListHead }
          curXid := transport.curXid + 1 } := by
  rcases settled with ⟨counted, history, window, tracks, vacant⟩
  have tracked := tracks.callbackAdd added
  have held := window.push_held_count callbackListLength
    ({ xid := transport.curXid + 1, callback := c } : CallbackNode _)
  have newest : callbacks.callbackListHead = slotAt callbacks.callbackListHead window.count :=
    tracked.holds.head_eq (Nat.succ_pos _)
  have head : callbacks.callbackList callbacks.callbackListHead =
      { xid := transport.curXid + 1, callback := c } := by
    rw [newest]
    exact tracked.holds.present _ _ held
  have released := tracked.release held
  rw [← newest] at released
  refine ⟨CallbackList.callbackDel_head (UInt32.pos_iff_ne_zero.mpr left) head, ?_, ?_, ?_⟩
  · intro xid positive different
    apply tracked.callbackDel_of_not_located positive
    intro number entry found named _
    rcases Window.push_held_eq_some found with ⟨_, same⟩ | ⟨_, _, old⟩
    · rw [same] at named
      exact different named.symm
    · rw [vacant] at old
      cases old
  · rcases CallbackList.callbackAdd_newer (counted.newer left) c with ⟨next, again, last, _⟩
    rw [added] at again
    cases again
    exact UInt32.le_of_eq last
  · refine ⟨_, _, released, fun number => ?_⟩
    by_cases same : number = window.count
    · rw [same, Window.take_held_self]
    · rw [Window.take_held_of_ne _ same]
      unfold Window.push
      dsimp only
      rw [if_neg same, vacant]
      split
      · rfl
      · rfl

section Simulation

variable (order : ByteOrder) (nfsFileHandle : Cookie) (random : Nat → UInt8) (first base : Nat)

/-- The callback list holds what the ledger says, the next identifier is that of the
next request, and each buffer holds a request of its own. -/
structure Follows (workload : Workload callbackListLength) (ledger : Ledger) : Prop where
  tracks : ∃ history, Tracks workload.transport.client.callbacks history
    (ledger.window callbackListLength first base)
  counted : workload.transport.Counted
  drawn : workload.transport.curXid.toNat = base + ledger.requests.length
  callbacks : ∀ index, (workload.nfsCache index).callback = timedRequest index
  cached : ∀ index, ∃ xid, (workload.nfsCache index).pbuf.Written
    ((cachedCall nfsFileHandle random index).request order xid)

/-- Both have ended, or the ledger is followed. -/
def Related : Option (Workload callbackListLength) → Option Ledger → Prop
  | none, none => True
  | some workload, some ledger =>
      Follows order nfsFileHandle random first base workload ledger
  | _, _ => False

variable {order nfsFileHandle random first base} {workload : Workload callbackListLength}
  {ledger : Ledger}

/-- A step of the benchmark and one of the ledger. -/
structure Matches (first base : Nat) (order : ByteOrder) (nfsFileHandle : Cookie)
    (random : Nat → UInt8)
    (step : Option (Workload callbackListLength) × List WorkloadEvent)
    (modelStep : Option Ledger × List WorkloadEvent) : Prop where
  related : Related order nfsFileHandle random first base step.1 modelStep.1
  same : step.2 = modelStep.2

/-- The time that was stored last is not looked at. -/
theorem Follows.lastSample (follows : Follows order nfsFileHandle random first base workload ledger)
    (time : UInt64) :
    Follows order nfsFileHandle random first base { workload with lastSample := time } ledger :=
  ⟨follows.tracks, follows.counted, follows.drawn, follows.callbacks, follows.cached⟩

/-- A request is registered under the next identifier, until there is none. -/
theorem generateRequest_matches
    (follows : Follows order nfsFileHandle random first base workload ledger)
    (choice timestamp : UInt64) (sent : Int) :
    Matches first base order nfsFileHandle random
      ((workloadMachine callbackListLength).step (some workload)
        (.generateRequest choice timestamp sent))
      ((ledgerMachine callbackListLength order nfsFileHandle random base).step (some ledger)
        (.generateRequest choice timestamp sent)) := by
  rcases follows with ⟨⟨history, tracks⟩, counted, drawn, callbacks, cached⟩
  have bound := workload.transport.curXid.toNat_lt
  have sum := UInt32.toNat_add workload.transport.curXid 1
  change _ = (workload.transport.curXid.toNat + 1) % 2 ^ 32 at sum
  unfold workloadMachine ledgerMachine generateRequest
  dsimp only
  generalize (choice &&& 1 != 0) = index
  rcases cached index with ⟨xid, written⟩
  have written := resetXid_written written (workload.transport.curXid + 1)
  rcases rpcSend_written order sent workload.transport.client written
    (.func (.other ((workload.nfsCache index).callback timestamp))) with ⟨registered, bytes⟩
  rw [registered, callbacks index]
  by_cases left : base + ledger.requests.length + 1 < 0x100000000
  · have next : workload.transport.curXid + 1 =
        UInt32.ofNat (base + ledger.requests.length + 1) := by
      apply UInt32.toNat_inj.mp
      rw [xid_toNat left]
      omega
    have nonzero : workload.transport.curXid + 1 ≠ 0 := by
      intro zero
      rw [zero] at sum
      change 0 = _ at sum
      omega
    rcases CallbackList.callbackAdd_newer (counted.newer nonzero)
      (RpcCallback.func (GlueCallback.other (timedRequest index timestamp))) with
      ⟨list, added, last, _⟩
    have tracked := tracks.callbackAdd added
    rw [next, ← Ledger.window_send workload.transport.client.callbacks.callbackListHead.pos]
      at tracked
    rw [added, if_pos left]
    refine ⟨⟨⟨_, tracked⟩, ?_, ?_, ?_, ?_⟩, ?_⟩
    · exact UInt32.le_of_eq last
    · change (workload.transport.curXid + 1).toNat = base + (ledger.send _).requests.length
      simp only [Ledger.send, List.length_append, List.length_singleton]
      omega
    · intro other
      by_cases same : other = index
      · rw [same]
        simp only [Function.update_self]
      · simp only [Function.update_of_ne same, callbacks other]
    · intro other
      by_cases same : other = index
      · rw [same]
        simp only [Function.update_self]
        exact ⟨_, written⟩
      · simp only [Function.update_of_ne same]
        exact cached other
    · dsimp only [Option.map_some]
      rw [bytes, ← next]
      rfl
  · have full : workload.transport.curXid + 1 = 0 := by
      apply UInt32.toNat_inj.mp
      change _ = 0
      omega
    rw [full, if_neg left]
    exact ⟨trivial, rfl⟩

theorem processReply_matches
    (follows : Follows order nfsFileHandle random first base workload ledger)
    (received : Received) :
    Matches first base order nfsFileHandle random
      ((workloadMachine callbackListLength).step (some workload) (.processReply received))
      ((ledgerMachine callbackListLength order nfsFileHandle random base).step (some ledger)
        (.processReply received)) := by
  cases received with
  | timedOut => exact ⟨follows.lastSample 0, rfl⟩
  | eagain => exact ⟨follows.lastSample 0, rfl⟩
  | error => exact ⟨follows.lastSample 0, rfl⟩
  | datagram data =>
      rcases follows with ⟨⟨history, tracks⟩, counted, drawn, callbacks, cached⟩
      have bound := workload.transport.curXid.toNat_lt
      have small : base + ledger.requests.length < 0x100000000 := by omega
      unfold workloadMachine ledgerMachine processDatagram
      dsimp only
      by_cases ends : data = [] ∨ (extractXid (receivedPbuf data).buf).toNat = 0
      · rw [if_pos ends]
        have ended : rpcTake workload.transport.client (.datagram data) = none := by
          rcases ends with empty | zero
          · rw [empty]
            rfl
          · apply rpcTake_of_refused
            have refused : ¬ 0 < extractXid (receivedPbuf data).buf := by
              rw [UInt32.lt_iff_toNat_lt]
              change ¬ 0 < _
              omega
            rw [CallbackList.callbackDel, if_neg refused]
        rw [ended]
        exact ⟨trivial, rfl⟩
      · rw [if_neg ends]
        push Not at ends
        rcases ends with ⟨nonempty, nonzero⟩
        have positive : 0 < extractXid (receivedPbuf data).buf := by
          rw [UInt32.lt_iff_toNat_lt]
          exact Nat.pos_of_ne_zero nonzero
        by_cases counts : base < (extractXid (receivedPbuf data).buf).toNat ∧
          ledger.Counts callbackListLength
            ((extractXid (receivedPbuf data).buf).toNat - (base + 1))
        · have inside := counts.2.1.1
          rcases (⟨_, List.getElem?_eq_getElem inside⟩ : ∃ c, ledger.requests[_]? = some c) with
            ⟨c, found⟩
          have deleted := Ledger.callbackDel_of_counts tracks small counts.2 found
          have named : base + ((extractXid (receivedPbuf data).buf).toNat - (base + 1)) + 1 =
              (extractXid (receivedPbuf data).buf).toNat := by omega
          rw [named, UInt32.ofNat_toNat] at deleted
          have time : ledger.time ((extractXid (receivedPbuf data).buf).toNat - (base + 1)) =
              processReply c.timestamp := by
            rw [Ledger.time, found]
            rfl
          have tracked := tracks.release (Ledger.window_held_of_open first base counts.2.1 found)
          rw [← Ledger.window_answer counts.2] at tracked
          rw [rpcTake_of_callbackDel nonempty rfl deleted, dif_pos counts, time]
          exact ⟨⟨⟨_, tracked⟩, counted, drawn, callbacks, cached⟩, rfl⟩
        · have missed := Ledger.callbackDel_of_not_counts tracks small positive counts
          rw [rpcTake_of_callbackDel nonempty rfl missed, dif_neg counts]
          exact ⟨⟨⟨history, tracks⟩, counted, drawn, callbacks, cached⟩, rfl⟩

theorem workloadMachine_simulates (order : ByteOrder) (nfsFileHandle : Cookie)
    (random : Nat → UInt8) (first base : Nat) :
    (workloadMachine callbackListLength).Simulates
      (ledgerMachine callbackListLength order nfsFileHandle random base)
      (Related order nfsFileHandle random first base) := by
  have step : ∀ state other input, Related order nfsFileHandle random first base state other →
      Matches first base order nfsFileHandle random
        ((workloadMachine callbackListLength).step state input)
        ((ledgerMachine callbackListLength order nfsFileHandle random base).step other input) := by
    intro state other input related
    cases state with
    | none =>
        cases other with
        | none => exact ⟨trivial, rfl⟩
        | some ledger => exact related.elim
    | some workload =>
        cases other with
        | none => exact related.elim
        | some ledger =>
            cases input with
            | generateRequest choice timestamp sent =>
                exact generateRequest_matches related choice timestamp sent
            | processReply received => exact processReply_matches related received
  exact ⟨fun state other input related => (step state other input related).related,
    fun state other input related => (step state other input related).same⟩

end Simulation

/-- The cache is built from a settled client, and the ledger is empty. -/
theorem initialiseCache_follows (order : ByteOrder) (nfsFileHandle : Cookie)
    (random : Nat → UInt8)
    {transport : Transport (GlueCallback TimedCallback) callbackListLength}
    (settled : transport.Settled) (left : transport.curXid.toNat + 2 < 0x100000000) :
    ∃ workload first, initialiseCache order transport nfsFileHandle random = .ok workload ∧
      Follows order nfsFileHandle random first (transport.curXid.toNat + 2) workload
        Ledger.empty := by
  rcases settled with ⟨counted, history, window, tracks, vacant⟩
  rcases createReadRequest_written order (transport.curXid + 1) nfsFileHandle random with
    ⟨reading, built, readCallback, readBytes⟩
  rcases createWriteRequest_written order (transport.curXid + 1 + 1) nfsFileHandle random with
    ⟨writing, builtNext, writeCallback, writeBytes⟩
  have drawn : (transport.curXid + 1 + 1).toNat = transport.curXid.toNat + 2 := by
    have first := UInt32.toNat_add transport.curXid 1
    have second := UInt32.toNat_add (transport.curXid + 1) 1
    change _ = (transport.curXid.toNat + 1) % 2 ^ 32 at first
    change _ = ((transport.curXid + 1).toNat + 1) % 2 ^ 32 at second
    omega
  have empty : (Ledger.empty.window callbackListLength window.count
      (transport.curXid.toNat + 2)) = window := by
    ext1
    · rfl
    · funext place
      rw [vacant place]
      unfold Ledger.window
      dsimp only
      rw [if_neg fun inside => Nat.not_lt_zero _ inside.2.1]
  refine ⟨_, window.count, bind_eq_ok.mpr ⟨reading, built,
    bind_eq_ok.mpr ⟨writing, builtNext, rfl⟩⟩, ⟨history, ?_⟩, ?_, drawn, ?_, ?_⟩
  · rw [empty]
    exact tracks
  · have bounds := UInt32.le_iff_toNat_le.mp counted
    apply UInt32.le_iff_toNat_le.mpr
    change _ ≤ (transport.curXid + 1 + 1).toNat
    change transport.client.callbacks.lastXid.toNat ≤ _
    omega
  · intro index
    cases index with
    | false => exact readCallback
    | true => exact writeCallback
  · intro index
    cases index with
    | false => exact ⟨_, readBytes⟩
    | true => exact ⟨_, writeBytes⟩

theorem workload_run (order : ByteOrder) (nfsFileHandle : Cookie) (random : Nat → UInt8)
    {transport : Transport (GlueCallback TimedCallback) callbackListLength}
    (settled : transport.Settled) (left : transport.curXid.toNat + 2 < 0x100000000) :
    ∃ workload first, initialiseCache order transport nfsFileHandle random = .ok workload ∧
      ∀ inputs,
        Related order nfsFileHandle random first (transport.curXid.toNat + 2)
            ((workloadMachine callbackListLength).run (some workload) inputs).1
            ((ledgerMachine callbackListLength order nfsFileHandle random
              (transport.curXid.toNat + 2)).run (some Ledger.empty) inputs).1 ∧
          ((workloadMachine callbackListLength).run (some workload) inputs).2 =
            ((ledgerMachine callbackListLength order nfsFileHandle random
              (transport.curXid.toNat + 2)).run (some Ledger.empty) inputs).2 := by
  rcases initialiseCache_follows order nfsFileHandle random settled left with
    ⟨workload, first, built, follows⟩
  have start : Related order nfsFileHandle random first (transport.curXid.toNat + 2)
      (some workload) (some Ledger.empty) := follows
  exact ⟨workload, first, built, fun inputs =>
    (workloadMachine_simulates order nfsFileHandle random first
      (transport.curXid.toNat + 2)).run start inputs⟩

theorem Related.isSome_iff {order : ByteOrder} {nfsFileHandle : Cookie} {random : Nat → UInt8}
    {first base : Nat} {state : Option (Workload callbackListLength)} {other : Option Ledger}
    (related : Related order nfsFileHandle random first base state other) :
    state.isSome ↔ other.isSome := by
  cases state with
  | none =>
      cases other with
      | none => exact Iff.rfl
      | some ledger => exact related.elim
  | some workload =>
      cases other with
      | none => exact related.elim
      | some ledger => exact Iff.rfl

/-- Whatever arrives, the benchmark sends the requests of the ledger, returns the
times of the ledger, and ends when the ledger does. -/
theorem requestCache_followsLedger (order : ByteOrder) (nfsFileHandle : Cookie)
    (random : Nat → UInt8)
    (transport : Transport (GlueCallback TimedCallback) callbackListLength)
    (settled : transport.Settled) (left : transport.curXid.toNat + 2 < 0x100000000) :
    ∃ workload, initialiseCache order transport nfsFileHandle random = .ok workload ∧
      ∀ inputs,
        ((workloadMachine callbackListLength).run (some workload) inputs).2 =
            ((ledgerMachine callbackListLength order nfsFileHandle random
              (transport.curXid.toNat + 2)).run (some Ledger.empty) inputs).2 ∧
          (((workloadMachine callbackListLength).run (some workload) inputs).1.isSome ↔
            ((ledgerMachine callbackListLength order nfsFileHandle random
              (transport.curXid.toNat + 2)).run (some Ledger.empty) inputs).1.isSome) := by
  rcases workload_run order nfsFileHandle random settled left with ⟨workload, first, built, runs⟩
  exact ⟨workload, built, fun inputs => ⟨(runs inputs).2, (runs inputs).1.isSome_iff⟩⟩

/-- A process whose identifiers start where the library starts them. -/
theorem requestCache_followsLedger_start :
    ∃ workload, initialiseCache .little
        { client := rpcStart (GlueCallback TimedCallback) 2 (by decide), curXid := 100 }
        ⟨List.replicate fhsize 7, rfl⟩ (fun _ => 5) = .ok workload ∧
      ∀ inputs,
        ((workloadMachine 2).run (some workload) inputs).2 =
            ((ledgerMachine 2 .little ⟨List.replicate fhsize 7, rfl⟩ (fun _ => 5) 102).run
              (some Ledger.empty) inputs).2 ∧
          (((workloadMachine 2).run (some workload) inputs).1.isSome ↔
            ((ledgerMachine 2 .little ⟨List.replicate fhsize 7, rfl⟩ (fun _ => 5) 102).run
              (some Ledger.empty) inputs).1.isSome) :=
  requestCache_followsLedger .little ⟨List.replicate fhsize 7, rfl⟩ (fun _ => 5)
    { client := rpcStart (GlueCallback TimedCallback) 2 (by decide), curXid := 100 }
    (Transport.settled_start (by decide) 100) (by decide)

/-! ## Times -/

/-- The times that the requests of a run were given. -/
def givenTimes (inputs : List WorkloadInput) : List UInt64 :=
  inputs.filterMap fun input =>
    match input with
    | .generateRequest _ timestamp _ => some timestamp
    | .processReply _ => none

def returnedTimes (trace : List WorkloadEvent) : List UInt64 :=
  trace.filterMap fun event =>
    match event with
    | .requested _ _ => none
    | .replied timestamp => timestamp

/-- Looking every place of a list up goes through the list. -/
theorem filterMap_range {α β : Type} (form : α → Option β) (items : List α) :
    (List.range items.length).filterMap (fun place => (items[place]?).bind form) =
      items.filterMap form := by
  induction items with
  | nil => rfl
  | cons item rest inductionHypothesis =>
      have later : (List.range rest.length).filterMap
          ((fun place => ((item :: rest)[place]?).bind form) ∘ Nat.succ) =
            rest.filterMap form := by
        rw [← inductionHypothesis]
        rfl
      rw [List.length_cons, List.range_succ_eq_map, List.filterMap_cons, List.filterMap_map, later,
        List.filterMap_cons]
      rfl

/-- The times of some requests, without those that are zero. -/
theorem processReply_sublist (requests : List TimedCallback) :
    (requests.filterMap fun c => processReply c.timestamp).Sublist
      (requests.map TimedCallback.timestamp) := by
  induction requests with
  | nil => exact List.Sublist.refl _
  | cons c rest inductionHypothesis =>
      rw [List.filterMap_cons, List.map_cons]
      unfold processReply at inductionHypothesis ⊢
      by_cases zero : c.timestamp = 0
      · rw [if_pos zero]
        exact inductionHypothesis.cons _
      · rw [if_neg zero]
        exact inductionHypothesis.cons_cons _

/-- What the answered requests have returned is part of what all were given. -/
theorem Ledger.answered_subperm (ledger : Ledger) :
    (ledger.answered.filterMap ledger.time).Subperm
      (ledger.requests.map TimedCallback.timestamp) := by
  have inside : ledger.answered.Subperm (List.range ledger.requests.length) :=
    ledger.once.subperm fun number member => List.mem_range.mpr (ledger.known number member)
  rcases inside with ⟨listed, same, part⟩
  have whole : (List.range ledger.requests.length).filterMap ledger.time =
      ledger.requests.filterMap fun c => processReply c.timestamp := filterMap_range _ _
  have times := part.filterMap ledger.time
  rw [whole] at times
  exact ⟨_, same.filterMap ledger.time, times.trans (processReply_sublist ledger.requests)⟩

theorem Ledger.time_send (ledger : Ledger) (c : TimedCallback) :
    (ledger.send c).answered.filterMap (ledger.send c).time =
      ledger.answered.filterMap ledger.time := by
  apply List.filterMap_congr
  intro number member
  unfold Ledger.time Ledger.send
  rw [List.getElem?_append_left (ledger.known number member)]

inductive LedgerStep (ledger : Ledger) :
    WorkloadInput → Option Ledger × List WorkloadEvent → Prop where
  | ends (input : WorkloadInput) : LedgerStep ledger input (none, [])
  | sends (choice : UInt64) (c : TimedCallback) (sent : Int) (bytes : List UInt8) :
      LedgerStep ledger (.generateRequest choice c.timestamp sent)
        (some (ledger.send c), [.requested sent bytes])
  | misses (received : Received) :
      LedgerStep ledger (.processReply received) (some ledger, [.replied none])
  | takes (received : Received) {length : Nat} (number : Nat)
      (counts : ledger.Counts length number) :
      LedgerStep ledger (.processReply received)
        (some (ledger.answer counts), [.replied (ledger.time number)])

theorem timedRequest_timestamp (index : Bool) (timestamp : UInt64) :
    (timedRequest index timestamp).timestamp = timestamp := by
  cases index with
  | false => rfl
  | true => rfl

theorem ledgerMachine_step (callbackListLength : Nat) (order : ByteOrder)
    (nfsFileHandle : Cookie) (random : Nat → UInt8) (base : Nat) (ledger : Ledger)
    (input : WorkloadInput) :
    LedgerStep ledger input
      ((ledgerMachine callbackListLength order nfsFileHandle random base).step (some ledger)
        input) := by
  unfold ledgerMachine
  cases input with
  | generateRequest choice timestamp sent =>
      dsimp only
      split
      · have step : ∀ bytes, LedgerStep ledger _ _ := LedgerStep.sends choice
          (timedRequest (choice &&& 1 != 0) timestamp) sent
        rw [timedRequest_timestamp] at step
        exact step _
      · exact LedgerStep.ends _
  | processReply received =>
      cases received with
      | timedOut => exact LedgerStep.misses _
      | eagain => exact LedgerStep.misses _
      | error => exact LedgerStep.misses _
      | datagram data =>
          dsimp only
          split
          · exact LedgerStep.ends _
          · split
            · next counts => exact LedgerStep.takes _ _ counts.2
            · exact LedgerStep.misses _

/-- What has been returned and what a run returns is part of what has been given and
what the run gives. -/
theorem ledgerRun_subperm (callbackListLength : Nat) (order : ByteOrder)
    (nfsFileHandle : Cookie) (random : Nat → UInt8) (base : Nat) (inputs : List WorkloadInput)
    (ledger : Ledger) :
    (ledger.answered.filterMap ledger.time ++
        returnedTimes ((ledgerMachine callbackListLength order nfsFileHandle random base).run
          (some ledger) inputs).2).Subperm
      (ledger.requests.map TimedCallback.timestamp ++ givenTimes inputs) := by
  induction inputs generalizing ledger with
  | nil =>
      have before := ledger.answered_subperm
      simpa [returnedTimes, givenTimes] using before
  | cons input rest inductionHypothesis =>
      have step := ledgerMachine_step callbackListLength order nfsFileHandle random base ledger
        input
      rw [Machine.run]
      revert step
      generalize (ledgerMachine callbackListLength order nfsFileHandle random base).step
        (some ledger) input = after
      intro step
      cases step with
      | ends =>
          have still : (ledgerMachine callbackListLength order nfsFileHandle random base).run
              none rest = (none, []) := Machine.run_of_still (fun _ => rfl) rest
          have before := ledger.answered_subperm.trans
            (List.sublist_append_left _ (givenTimes (input :: rest))).subperm
          rw [still]
          simpa [returnedTimes] using before
      | sends choice c sent bytes =>
          have later := inductionHypothesis (ledger.send c)
          rw [ledger.time_send c] at later
          simpa [returnedTimes, givenTimes, Ledger.send] using later
      | misses received => exact inductionHypothesis ledger
      | takes received number counts =>
          have later := inductionHypothesis (ledger.answer counts)
          have before : (ledger.answer counts).answered.filterMap (ledger.answer counts).time =
              ledger.answered.filterMap ledger.time ++ (ledger.time number).toList := by
            change (ledger.answered ++ [number]).filterMap ledger.time = _
            rw [List.filterMap_append]
            cases found : ledger.time number <;> simp [found]
          have first : ∀ trace : List WorkloadEvent,
              returnedTimes ([.replied (ledger.time number)] ++ trace) =
                (ledger.time number).toList ++ returnedTimes trace := by
            intro trace
            unfold returnedTimes
            cases found : ledger.time number <;> simp
          rw [before] at later
          rw [first, ← List.append_assoc]
          exact later

/-- The times that the benchmark returns are among those that it gave to its requests,
each as often as it was given at most. -/
theorem requestCache_returnsGivenTimes (order : ByteOrder) (nfsFileHandle : Cookie)
    (random : Nat → UInt8)
    (transport : Transport (GlueCallback TimedCallback) callbackListLength)
    (settled : transport.Settled) (left : transport.curXid.toNat + 2 < 0x100000000) :
    ∃ workload, initialiseCache order transport nfsFileHandle random = .ok workload ∧
      ∀ inputs,
        (returnedTimes ((workloadMachine callbackListLength).run (some workload)
          inputs).2).Subperm (givenTimes inputs) := by
  rcases workload_run order nfsFileHandle random settled left with ⟨workload, first, built, runs⟩
  refine ⟨workload, built, fun inputs => ?_⟩
  rw [(runs inputs).2]
  exact ledgerRun_subperm callbackListLength order nfsFileHandle random
    (transport.curXid.toNat + 2) inputs Ledger.empty

theorem requestCache_returnsGivenTimes_start :
    ∃ workload, initialiseCache .little
        { client := rpcStart (GlueCallback TimedCallback) 2 (by decide), curXid := 100 }
        ⟨List.replicate fhsize 7, rfl⟩ (fun _ => 5) = .ok workload ∧
      ∀ inputs,
        (returnedTimes ((workloadMachine 2).run (some workload) inputs).2).Subperm
          (givenTimes inputs) :=
  requestCache_returnsGivenTimes .little ⟨List.replicate fhsize 7, rfl⟩ (fun _ => 5)
    { client := rpcStart (GlueCallback TimedCallback) 2 (by decide), curXid := 100 }
    (Transport.settled_start (by decide) 100) (by decide)

end Nfs
end Ipbench
