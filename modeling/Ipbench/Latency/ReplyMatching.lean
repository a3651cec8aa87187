import Ipbench.Latency.PacketList

namespace Ipbench
namespace Latency

open Foundation

/-!
# Matching replies to sends

Any sequence of insertions and deletions is a run of `packetMachine`.  The
identifiers of the insertions are `0, 1, 2, ...`, as the sender's counter
supplies them, and a deletion may ask for any 64-bit identifier.

The window of the run is recovered from its operations.  Its newest packet is
missing exactly when some deletion asked for it after the last insertion, and
this alone decides whether a reply inside the window is matched.
-/

/-- A call of one of the two table operations. -/
inductive PacketOp where
  | add (sendTime : UInt64)
  | del (packetId : UInt64)
deriving DecidableEq, Repr

namespace PacketOp

def isAdd : PacketOp → Bool
  | add _ => true
  | del _ => false

def sendTime? : PacketOp → Option UInt64
  | add sendTime => some sendTime
  | del _ => none

end PacketOp

/-- The arguments and the result of a call. -/
inductive PacketEvent where
  | added (packetId sendTime drops : UInt64)
  | deleted (packetId sendTime : UInt64)
deriving DecidableEq, Repr

/-- The table together with the sender's identifier counter. -/
def packetMachine (packetListLength : Nat) :
    Machine (PacketList packetListLength × UInt64) PacketOp PacketEvent where
  step := fun state op =>
    match op with
    | .add sendTime =>
        let result := state.1.packetListAdd state.2 sendTime
        ((result.2, state.2 + 1), [.added state.2 sendTime result.1])
    | .del packetId =>
        let result := state.1.packetListDel packetId
        ((result.2, state.2), [.deleted packetId result.1])

/-- The run of the table operations from the zeroed table. -/
def packetRun (packetListLength : Nat) (positive : 0 < packetListLength) (ops : List PacketOp) :
    (PacketList packetListLength × UInt64) × List PacketEvent :=
  (packetMachine packetListLength).run (PacketList.zeroed packetListLength positive, 0) ops

/-- The send times of the packets added so far, by packet number. -/
def sendTimes (ops : List PacketOp) : List UInt64 :=
  ops.filterMap PacketOp.sendTime?

/-- The calls made after the last insertion. -/
def sinceLastAdd (ops : List PacketOp) : List PacketOp :=
  ops.rtakeWhile (fun op => !op.isAdd)

/-- Some deletion asked for the newest packet after its insertion. -/
def NewestAskedFor (ops : List PacketOp) : Prop :=
  PacketOp.del (UInt64.ofNat ((sendTimes ops).length - 1)) ∈ sinceLastAdd ops

instance (ops : List PacketOp) : Decidable (NewestAskedFor ops) :=
  inferInstanceAs (Decidable (_ ∈ _))

@[simp] theorem sendTimes_concat_add (ops : List PacketOp) (time : UInt64) :
    sendTimes (ops ++ [.add time]) = sendTimes ops ++ [time] := by
  simp [sendTimes, PacketOp.sendTime?]

@[simp] theorem sendTimes_concat_del (ops : List PacketOp) (packetId : UInt64) :
    sendTimes (ops ++ [.del packetId]) = sendTimes ops := by
  simp [sendTimes, PacketOp.sendTime?]

@[simp] theorem sinceLastAdd_concat_add (ops : List PacketOp) (time : UInt64) :
    sinceLastAdd (ops ++ [.add time]) = [] :=
  List.rtakeWhile_concat_neg _ _ _ (by simp [PacketOp.isAdd])

@[simp] theorem sinceLastAdd_concat_del (ops : List PacketOp) (packetId : UInt64) :
    sinceLastAdd (ops ++ [.del packetId]) = sinceLastAdd ops ++ [.del packetId] :=
  List.rtakeWhile_concat_pos _ _ _ (by simp [PacketOp.isAdd])

/-- What a window says about the operations that led to it. -/
structure Tracks {packetListLength : Nat} (ops : List PacketOp)
    (reached : (PacketList packetListLength × UInt64) × List PacketEvent)
    (window : Window UInt64) : Prop where
  represents : reached.1.1.Represents window
  counted : window.count = (sendTimes ops).length
  identifier : reached.1.2 = UInt64.ofNat window.count
  timed : ∀ number time, window.held number = some time → (sendTimes ops)[number]? = some time
  answered : ∀ number time, (sendTimes ops)[number]? = some time →
    window.count ≤ number + packetListLength →
      window.held number = some time ∨ .deleted (UInt64.ofNat number) time ∈ reached.2
  newest : window.held (window.count - 1) = none ↔ window.count = 0 ∨ NewestAskedFor ops

theorem tracks_nil (packetListLength : Nat) (positive : 0 < packetListLength) :
    Tracks [] (packetRun packetListLength positive []) Window.empty where
  represents := PacketList.represents_zeroed packetListLength positive
  counted := rfl
  identifier := rfl
  timed := by intro number time held; cases held
  answered := by intro number time added; simp [sendTimes] at added
  newest := by simp [Window.empty]

/-- An insertion pushes the next packet into the window. -/
theorem Tracks.add {packetListLength : Nat} {ops : List PacketOp}
    {reached : (PacketList packetListLength × UInt64) × List PacketEvent}
    {window : Window UInt64} (tracks : Tracks ops reached window) {time : UInt64}
    (sent : time ≠ 0) :
    Tracks (ops ++ [.add time])
      (((packetMachine packetListLength).step reached.1 (.add time)).1,
        reached.2 ++ ((packetMachine packetListLength).step reached.1 (.add time)).2)
      (window.push packetListLength time) where
  represents := by
    simp only [packetMachine]
    rw [tracks.identifier]
    exact reached.1.1.packetListAdd_represents tracks.represents sent
  counted := by simp [tracks.counted]
  identifier := by
    simp only [packetMachine, tracks.identifier, Window.push_count, UInt64.ofNat_add]
    rfl
  timed := by
    intro number found held
    rw [sendTimes_concat_add]
    rcases Window.push_held_eq_some held with ⟨newest, same⟩ | ⟨_, _, old⟩
    · rw [newest, same, tracks.counted]
      simp
    · have inside := tracks.represents.bounded number found old
      rw [List.getElem?_append_left (tracks.counted ▸ inside.1)]
      exact tracks.timed number found old
  answered := by
    intro number found added inside
    rw [sendTimes_concat_add] at added
    simp only [Window.push_count] at inside
    by_cases newest : number = window.count
    · have same : time = found := by
        rw [newest, tracks.counted] at added
        simpa using added
      rw [newest, ← same]
      exact Or.inl (window.push_held_count packetListLength time)
    · have older : number < (sendTimes ops).length := by
        have bound := (List.getElem?_eq_some_iff.mp added).1
        rw [tracks.counted] at newest
        simp at bound
        omega
      rw [List.getElem?_append_left older] at added
      rcases tracks.answered number found added (by omega) with held | deleted
      · refine Or.inl ?_
        rw [Window.push_held_of_lt window time (by rw [tracks.counted]; exact older) (by omega)]
        exact held
      · exact Or.inr (List.mem_append_left _ deleted)
  newest := by
    simp only [Window.push_count, Nat.add_sub_cancel, window.push_held_count, NewestAskedFor,
      sinceLastAdd_concat_add, List.not_mem_nil]
    simp

/-- A deletion that finds nothing leaves the window alone. -/
private theorem Tracks.del_missed {packetListLength : Nat} {ops : List PacketOp}
    {reached : (PacketList packetListLength × UInt64) × List PacketEvent}
    {window : Window UInt64} (tracks : Tracks ops reached window) {packetId : UInt64}
    (missed : reached.1.1.packetListDel packetId = (0, reached.1.1))
    (newest : window.held (window.count - 1) = none ↔
      window.count = 0 ∨ NewestAskedFor (ops ++ [.del packetId])) :
    Tracks (ops ++ [.del packetId])
      (((packetMachine packetListLength).step reached.1 (.del packetId)).1,
        reached.2 ++ ((packetMachine packetListLength).step reached.1 (.del packetId)).2)
      window where
  represents := by
    simp only [packetMachine, missed]
    exact tracks.represents
  counted := by rw [sendTimes_concat_del, tracks.counted]
  identifier := tracks.identifier
  timed := by
    intro number found held
    rw [sendTimes_concat_del]
    exact tracks.timed number found held
  answered := by
    intro number found added inside
    rw [sendTimes_concat_del] at added
    rcases tracks.answered number found added inside with held | deleted
    · exact Or.inl held
    · exact Or.inr (List.mem_append_left _ deleted)
  newest := newest

/-- A deletion takes a packet out of the window or leaves the window alone. -/
theorem Tracks.del {packetListLength : Nat} {ops : List PacketOp}
    {reached : (PacketList packetListLength × UInt64) × List PacketEvent}
    {window : Window UInt64} (tracks : Tracks ops reached window)
    (fits : window.count ≤ 2 ^ 64) (packetId : UInt64) :
    ∃ window', Tracks (ops ++ [.del packetId])
      (((packetMachine packetListLength).step reached.1 (.del packetId)).1,
        reached.2 ++ ((packetMachine packetListLength).step reached.1 (.del packetId)).2)
      window' := by
  have askedFor : NewestAskedFor (ops ++ [.del packetId]) ↔
      NewestAskedFor ops ∨ UInt64.ofNat (window.count - 1) = packetId := by
    simp only [NewestAskedFor, sendTimes_concat_del, sinceLastAdd_concat_del, tracks.counted,
      List.mem_append, List.mem_singleton, PacketOp.del.injEq]
  cases pending : window.held (window.count - 1) with
  | none =>
      refine ⟨window, tracks.del_missed
        (reached.1.1.packetListDel_of_newest_answered tracks.represents fits pending packetId) ?_⟩
      have old := tracks.newest.mp pending
      exact ⟨fun _ => old.imp_right (fun asked => askedFor.mpr (Or.inl asked)), fun _ => pending⟩
  | some newest =>
      have notAsked : ¬ (window.count = 0 ∨ NewestAskedFor ops) := by
        intro asked
        rw [tracks.newest.mpr asked] at pending
        cases pending
      have ownNat := PacketList.toNat_ofNat_of_held tracks.represents fits pending
      cases held : window.held packetId.toNat with
      | none =>
          refine ⟨window, tracks.del_missed
            (reached.1.1.packetListDel_of_not_held tracks.represents fits held) ?_⟩
          have other : UInt64.ofNat (window.count - 1) ≠ packetId := by
            intro same
            rw [← same, ownNat, pending] at held
            cases held
          rw [askedFor, pending]
          simp only [reduceCtorEq, false_iff, not_or]
          exact ⟨fun zero => notAsked (Or.inl zero), fun asked => notAsked (Or.inr asked), other⟩
      | some time =>
          have found := reached.1.1.packetListDel_of_held tracks.represents fits pending held
          have own : UInt64.ofNat packetId.toNat = packetId := UInt64.ofNat_toNat
          refine ⟨window.take packetId.toNat, ⟨?_, ?_, tracks.identifier, ?_, ?_, ?_⟩⟩
          · simp only [packetMachine, found]
            exact reached.1.1.clear_represents tracks.represents held
          · rw [sendTimes_concat_del, Window.take_count, tracks.counted]
          · intro number other remains
            rw [sendTimes_concat_del]
            exact tracks.timed number other (Window.take_held_eq_some remains).2
          · intro number other added inside
            rw [sendTimes_concat_del] at added
            by_cases same : number = packetId.toNat
            · have equal : time = other := by
                have timed := tracks.timed _ _ held
                rw [← same, added] at timed
                exact (Option.some.inj timed).symm
              refine Or.inr (List.mem_append_right _ ?_)
              simp only [packetMachine, found, same, own, equal, List.mem_singleton]
            · rcases tracks.answered number other added inside with kept | deleted
              · exact Or.inl ((window.take_held_of_ne same).trans kept)
              · exact Or.inr (List.mem_append_left _ deleted)
          · rw [askedFor, Window.take_count]
            by_cases same : window.count - 1 = packetId.toNat
            · rw [same, Window.take_held_self, own]
              simp
            · rw [window.take_held_of_ne same, pending]
              have other : UInt64.ofNat (window.count - 1) ≠ packetId := by
                intro equal
                exact same (by rw [← equal, ownNat])
              simp only [reduceCtorEq, false_iff, not_or]
              exact ⟨fun zero => notAsked (Or.inl zero), fun asked => notAsked (Or.inr asked),
                other⟩

/-- Every run has a window.  The identifiers are 64-bit words, so at most
`2 ^ 64` packets can be added under distinct ones. -/
theorem exists_tracks (packetListLength : Nat) (positive : 0 < packetListLength)
    (ops : List PacketOp) (sent : ∀ time ∈ sendTimes ops, time ≠ 0)
    (fits : (sendTimes ops).length ≤ 2 ^ 64) :
    ∃ window, Tracks ops (packetRun packetListLength positive ops) window := by
  induction ops using List.reverseRecOn with
  | nil => exact ⟨Window.empty, tracks_nil packetListLength positive⟩
  | append_singleton ops op inductionHypothesis =>
      have step : packetRun packetListLength positive (ops ++ [op]) =
          (((packetMachine packetListLength).step
            (packetRun packetListLength positive ops).1 op).1,
            (packetRun packetListLength positive ops).2 ++
              ((packetMachine packetListLength).step
                (packetRun packetListLength positive ops).1 op).2) :=
        Machine.run_concat _ _ _ _
      rw [step]
      cases op with
      | add time =>
          rw [sendTimes_concat_add] at sent fits
          rcases inductionHypothesis
            (fun other member => sent other (List.mem_append_left _ member))
            (by simp at fits; omega) with ⟨window, tracks⟩
          exact ⟨_, tracks.add (sent time (List.mem_append_right _ (List.mem_singleton.mpr rfl)))⟩
      | del packetId =>
          rw [sendTimes_concat_del] at sent fits
          rcases inductionHypothesis sent fits with ⟨window, tracks⟩
          exact tracks.del (tracks.counted ▸ fits) packetId

/-- A reply inside the window is matched with its send time exactly when the
newest packet has not been asked for since it was added.  The packet `number`
was added at `time`, no earlier deletion returned it, and fewer than
`packetListLength` packets were added after it. -/
theorem windowReply_matched_iff (packetListLength : Nat) (positive : 0 < packetListLength)
    (ops : List PacketOp) (sent : ∀ time ∈ sendTimes ops, time ≠ 0)
    (fits : (sendTimes ops).length ≤ 2 ^ 64) (number : Nat) (time : UInt64)
    (added : (sendTimes ops)[number]? = some time)
    (unanswered : .deleted (UInt64.ofNat number) time ∉
      (packetRun packetListLength positive ops).2)
    (inside : (sendTimes ops).length - (number + 1) < packetListLength) :
    ((packetRun packetListLength positive ops).1.1.packetListDel (UInt64.ofNat number)).1 = time ↔
      ¬ NewestAskedFor ops := by
  rcases exists_tracks packetListLength positive ops sent fits with ⟨window, tracks⟩
  have count := tracks.counted
  have bound := (List.getElem?_eq_some_iff.mp added).1
  have fitsWindow : window.count ≤ 2 ^ 64 := count ▸ fits
  have held : window.held number = some time :=
    (tracks.answered number time added (by omega)).resolve_right unanswered
  have ownNat := PacketList.toNat_ofNat_of_held tracks.represents fitsWindow held
  constructor
  · intro matched asked
    have answered := tracks.newest.mpr (Or.inr asked)
    rw [PacketList.packetListDel_of_newest_answered _ tracks.represents fitsWindow answered]
      at matched
    exact tracks.represents.nonzero number time held matched.symm
  · intro notAsked
    cases pending : window.held (window.count - 1) with
    | none =>
        rcases tracks.newest.mp pending with zero | asked
        · omega
        · exact False.elim (notAsked asked)
    | some newest =>
        rw [PacketList.packetListDel_of_held _ tracks.represents fitsWindow pending
          (ownNat.symm ▸ held)]

/-- Two packets in a table of four slots: the reply to the older one is
matched while the newer one is outstanding. -/
theorem windowReply_matched_iff_twoPackets :
    ((packetRun 4 (by decide) [.add 10, .add 20]).1.1.packetListDel 0).1 = 10 ↔
      ¬ NewestAskedFor [.add 10, .add 20] :=
  windowReply_matched_iff 4 (by decide) [.add 10, .add 20]
    (by simp [sendTimes, PacketOp.sendTime?]) (by simp [sendTimes, PacketOp.sendTime?]) 0 10
    (by decide) (by decide) (by decide)

/-- Replies in reverse order: once packet one has been answered, the reply to
packet zero is reported as late although it is inside the window. -/
theorem reordered_reply_lost :
    let ops := [PacketOp.add 10, .add 20, .del 1]
    (sendTimes ops)[0]? = some 10 ∧
      .deleted 0 10 ∉ (packetRun 4 (by decide) ops).2 ∧
      (sendTimes ops).length - (0 + 1) < 4 ∧
      ((packetRun 4 (by decide) ops).1.1.packetListDel 0).1 = 0 := by
  decide

end Latency
end Ipbench
