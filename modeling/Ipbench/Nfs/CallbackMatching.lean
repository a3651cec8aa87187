import Ipbench.Foundation.Machine
import Ipbench.Nfs.CallbackList
import Mathlib.Data.List.DropRight

namespace Ipbench
namespace Nfs

open Foundation

/-!
# Matching replies with their callbacks

A run is a sequence of calls of `callback_add`, with increasing transaction
identifiers, and of `callback_del`, in any order.  What `callback_del` should
answer is said by the calls alone: it returns the callback registered under an
identifier as long as this is pending, and otherwise it fails and changes
nothing.

The code finds a pending callback by the difference of two identifiers.  It is
right exactly when there is no gap between the identifier asked for and the
newest one, and the newest one is still in its slot.
-/

variable {Callback : Type}

/-- A call of one of the two list operations. -/
inductive CallbackOp (Callback : Type) where
  | add (xid : UInt32) (c : Callback)
  | del (xid : UInt32)
deriving DecidableEq, Repr

namespace CallbackOp

def isAdd : CallbackOp Callback → Bool
  | add _ _ => true
  | del _ => false

def node? : CallbackOp Callback → Option (CallbackNode Callback)
  | add xid c => some { xid := xid, callback := c }
  | del _ => none

end CallbackOp

/-- The registrations, and the answers of the deletions. -/
inductive CallbackEvent (Callback : Type) where
  | added (xid : UInt32) (c : Callback)
  | deleted (xid : UInt32) (found : Option Callback)
deriving DecidableEq, Repr

/-- A deletion that returned a callback. -/
def CallbackEvent.found? : CallbackEvent Callback → Option UInt32
  | deleted xid (some _) => some xid
  | _ => none

/-- The list operations; a failing assertion ends the process. -/
def callbackMachine (Callback : Type) (callbackListLength : Nat) :
    Machine (Option (CallbackList Callback callbackListLength)) (CallbackOp Callback)
      (CallbackEvent Callback) where
  step := fun state op =>
    match state, op with
    | none, _ => (none, [])
    | some list, .add xid c =>
        match list.callbackAdd xid c with
        | none => (none, [])
        | some next => (some next, [.added xid c])
    | some list, .del xid =>
        match list.callbackDel xid with
        | none => (none, [])
        | some (found, next) => (some next, [.deleted xid found])

/-- The run of the list operations from the zeroed list. -/
def callbackRun (callbackListLength : Nat) (positive : 0 < callbackListLength) (nul : Callback)
    (ops : List (CallbackOp Callback)) :
    Option (CallbackList Callback callbackListLength) × List (CallbackEvent Callback) :=
  (callbackMachine Callback callbackListLength).run
    (some (CallbackList.callbackInit callbackListLength positive nul)) ops

/-- The nodes registered so far, by number. -/
def registrations (ops : List (CallbackOp Callback)) : List (CallbackNode Callback) :=
  ops.filterMap CallbackOp.node?

/-- What was registered, and what the deletions have returned. -/
def historyOf (ops : List (CallbackOp Callback)) (trace : List (CallbackEvent Callback)) :
    History Callback where
  added := registrations ops
  deleted := trace.filterMap CallbackEvent.found?

/-- Some deletion asked for the newest identifier after its registration. -/
def NewestDeleted (ops : List (CallbackOp Callback)) : Prop :=
  ∃ newest, (registrations ops).getLast? = some newest ∧
    CallbackOp.del newest.xid ∈ ops.rtakeWhile fun op => !op.isAdd

/-- Since the registration `number`, every identifier followed its predecessor
without a gap: the newest one is ahead by the number of later registrations. -/
def ConsecutiveFrom (ops : List (CallbackOp Callback)) (number : Nat) : Prop :=
  ∀ node newest, (registrations ops)[number]? = some node →
    (registrations ops).getLast? = some newest →
      newest.xid.toNat = node.xid.toNat + ((registrations ops).length - (number + 1))

/-- The identifiers of the registrations increase from above zero, and no
deletion asks for zero. -/
structure WellUsed (ops : List (CallbackOp Callback)) : Prop where
  positive : ∀ node ∈ registrations ops, 0 < node.xid
  increasing : (registrations ops).Pairwise fun first second => first.xid < second.xid
  asked : ∀ xid, .del xid ∈ ops → 0 < xid

/-- What `callback_del` should answer: a pending callback is returned, and
otherwise the answer is -1 and the list stays as it is. -/
structure AnswersPending {callbackListLength : Nat}
    (list : CallbackList Callback callbackListLength) (history : History Callback)
    (xid : UInt32) : Prop where
  found : ∀ c, (∃ next, list.callbackDel xid = some (some c, next)) ↔
    ∃ number, history.Pending callbackListLength number { xid := xid, callback := c }
  otherwise : (∀ number c,
      ¬ history.Pending callbackListLength number { xid := xid, callback := c }) →
    list.callbackDel xid = some (none, list)

theorem registrations_concat_add (ops : List (CallbackOp Callback)) (xid : UInt32)
    (c : Callback) : registrations (ops ++ [.add xid c]) =
      registrations ops ++ [{ xid := xid, callback := c }] := by
  simp [registrations, CallbackOp.node?]

theorem registrations_concat_del (ops : List (CallbackOp Callback)) (xid : UInt32) :
    registrations (ops ++ [.del xid]) = registrations ops := by
  simp [registrations, CallbackOp.node?]

theorem not_newestDeleted_concat_add (ops : List (CallbackOp Callback)) (xid : UInt32)
    (c : Callback) : ¬ NewestDeleted (ops ++ [.add xid c]) := by
  rintro ⟨newest, _, asked⟩
  rw [List.rtakeWhile_concat_neg _ _ _ (by simp [CallbackOp.isAdd])] at asked
  cases asked

theorem newestDeleted_concat_del (ops : List (CallbackOp Callback)) (xid : UInt32) :
    NewestDeleted (ops ++ [.del xid]) ↔ NewestDeleted ops ∨
      ∃ newest, (registrations ops).getLast? = some newest ∧ newest.xid = xid := by
  unfold NewestDeleted
  rw [registrations_concat_del, List.rtakeWhile_concat_pos _ _ _ (by simp [CallbackOp.isAdd])]
  simp only [List.mem_append, List.mem_singleton, CallbackOp.del.injEq]
  constructor
  · rintro ⟨newest, last, old | same⟩
    · exact Or.inl ⟨newest, last, old⟩
    · exact Or.inr ⟨newest, last, same⟩
  · rintro (⟨newest, last, old⟩ | ⟨newest, last, same⟩)
    · exact ⟨newest, last, Or.inl old⟩
    · exact ⟨newest, last, Or.inr same⟩

/-! ## The invariant of a run -/

/-- The list is tracked, and its newest element is gone only if a deletion has
asked for it. -/
structure Followed {callbackListLength : Nat} (ops : List (CallbackOp Callback))
    (trace : List (CallbackEvent Callback)) (list : CallbackList Callback callbackListLength)
    (window : Window (CallbackNode Callback)) : Prop where
  tracks : Tracks list (historyOf ops trace) window
  newest : window.held (window.count - 1) = none ↔ window.count = 0 ∨ NewestDeleted ops

namespace Followed

variable {callbackListLength : Nat} {ops : List (CallbackOp Callback)}
  {trace : List (CallbackEvent Callback)} {list : CallbackList Callback callbackListLength}
  {window : Window (CallbackNode Callback)}

theorem getLast?_eq (followed : Followed ops trace list window) :
    (registrations ops).getLast? = (registrations ops)[window.count - 1]? := by
  rw [followed.tracks.counted, List.getLast?_eq_getElem?]
  rfl

theorem add (followed : Followed ops trace list window) {xid : UInt32} {c : Callback}
    {next : CallbackList Callback callbackListLength} (added : list.callbackAdd xid c = some next) :
    Followed (ops ++ [.add xid c]) (trace ++ [.added xid c]) next
      (window.push callbackListLength { xid := xid, callback := c }) where
  tracks := by
    have same : historyOf (ops ++ [.add xid c]) (trace ++ [.added xid c]) =
        (historyOf ops trace).add xid c := by
      unfold historyOf History.add
      rw [registrations_concat_add, List.filterMap_append]
      simp [CallbackEvent.found?]
    rw [same]
    exact followed.tracks.callbackAdd added
  newest := by
    rw [Window.push_count, Nat.add_sub_cancel, Window.push_held_count]
    refine iff_of_false (Option.some_ne_none _) ?_
    rintro (empty | asked)
    · exact Nat.succ_ne_zero _ empty
    · exact not_newestDeleted_concat_add ops xid c asked

theorem del (followed : Followed ops trace list window) {xid : UInt32} (positive : 0 < xid) :
    ∃ found next window', list.callbackDel xid = some (found, next) ∧
      Followed (ops ++ [.del xid]) (trace ++ [.deleted xid found]) next window' := by
  have tracks := followed.tracks
  cases tracks.callbackDel_step positive with
  | misses same =>
      refine ⟨none, list, window, same, ?_, ?_⟩
      · have unchanged : historyOf (ops ++ [.del xid]) (trace ++ [.deleted xid none]) =
            historyOf ops trace := by
          unfold historyOf
          rw [registrations_concat_del, List.filterMap_append]
          simp [CallbackEvent.found?]
        rw [unchanged]
        exact tracks
      · rw [newestDeleted_concat_del, ← or_assoc, ← followed.newest]
        refine (or_iff_left_of_imp ?_).symm
        rintro ⟨newest, last, named⟩
        by_contra present
        rcases Option.ne_none_iff_exists'.mp present with ⟨node, held⟩
        have added := ((tracks.pending _ node).mp held).1
        change (registrations ops)[window.count - 1]? = some node at added
        rw [followed.getLast?_eq, added] at last
        have equal : node = newest := Option.some.inj last
        subst equal
        subst named
        -- The head slot holds the newest identifier, at distance zero.
        have inside := tracks.holds.bounded _ node held
        have headXid : list.callbackList list.callbackListHead = node := by
          rw [tracks.holds.head_eq (by omega)]
          exact tracks.holds.present _ node held
        have located : Tracks.Located list window node.xid (window.count - 1) := by
          unfold Tracks.Located CallbackList.offset
          rw [headXid, UInt32.sub_self]
          exact (Nat.sub_self _).symm
        rw [tracks.callbackDel_of_located held located] at same
        cases same
  | finds number node held named located found =>
      refine ⟨some node.callback, _, window.take number, found, ?_, ?_⟩
      · have same : historyOf (ops ++ [.del xid]) (trace ++ [.deleted xid (some node.callback)]) =
            (historyOf ops trace).del node.xid := by
          unfold historyOf History.del
          rw [registrations_concat_del, List.filterMap_append, named]
          simp [CallbackEvent.found?]
        rw [same]
        exact tracks.release held
      · rw [newestDeleted_concat_del, ← or_assoc, Window.take_count]
        have added := ((tracks.pending number node).mp held).1
        by_cases here : window.count - 1 = number
        · rw [here, Window.take_held_self]
          refine iff_of_true rfl (Or.inr ⟨node, ?_, named⟩)
          rw [followed.getLast?_eq, here]
          exact added
        · rw [window.take_held_of_ne here, ← followed.newest]
          refine (or_iff_left_of_imp ?_).symm
          rintro ⟨newest, last, same⟩
          rw [followed.getLast?_eq] at last
          exact absurd (tracks.number_unique last added (same.trans named.symm)) here

/-- A slot whose element is gone has no identifier. -/
theorem headXid_of_newestDeleted (followed : Followed ops trace list window)
    (nonempty : 0 < window.count) (gone : window.held (window.count - 1) = none) :
    (list.callbackList list.callbackListHead).xid = 0 := by
  have holds := followed.tracks.holds
  rw [holds.head_eq nonempty]
  apply holds.vacant
  intro number node held same
  have inside := holds.bounded number node held
  have newest : number = window.count - 1 :=
    slot_injective (by omega) (by omega) (Fin.ext_iff.mp same)
  rw [newest, gone] at held
  cases held

/-- A pending callback is located exactly when the newest identifier has not
been deleted and there is no gap behind it. -/
theorem located_iff (followed : Followed ops trace list window) {number : Nat}
    {node : CallbackNode Callback} (held : window.held number = some node) :
    Tracks.Located list window node.xid number ↔
      ¬ NewestDeleted ops ∧ ConsecutiveFrom ops number := by
  have tracks := followed.tracks
  have inside := tracks.holds.bounded number node held
  have added : (registrations ops)[number]? = some node :=
    ((tracks.pending number node).mp held).1
  have length : window.count = (registrations ops).length := tracks.counted
  have newestAt : ∃ newest, (registrations ops)[window.count - 1]? = some newest :=
    ⟨_, List.getElem?_eq_getElem (by omega)⟩
  rcases newestAt with ⟨newest, last⟩
  have spread := tracks.spread (Nat.le_sub_one_of_lt inside.1) added last
  unfold Tracks.Located CallbackList.offset
  cases pending : window.held (window.count - 1) with
  | some latest =>
      have same : latest = newest := by
        have own := ((tracks.pending _ latest).mp pending).1
        exact Option.some.inj (own.symm.trans last)
      subst same
      have headXid : (list.callbackList list.callbackListHead).xid = latest.xid := by
        rw [tracks.holds.head_eq (by omega), tracks.holds.present _ latest pending]
      have kept : ¬ NewestDeleted ops := by
        intro deleted
        rw [followed.newest.mpr (Or.inr deleted)] at pending
        cases pending
      have distance : (latest.xid - node.xid).toNat = latest.xid.toNat - node.xid.toNat := by
        apply UInt32.toNat_sub_of_le
        rw [UInt32.le_iff_toNat_le]
        omega
      rw [headXid, distance]
      constructor
      · intro located
        refine ⟨kept, ?_⟩
        intro other final otherAdded finalLast
        rw [added] at otherAdded
        rw [followed.getLast?_eq, last] at finalLast
        cases otherAdded
        cases finalLast
        omega
      · rintro ⟨_, consecutive⟩
        have ahead := consecutive node latest added (followed.getLast?_eq.trans last)
        omega
  | none =>
      have deleted : NewestDeleted ops :=
        (followed.newest.mp pending).resolve_left (by omega)
      -- The distance to identifier zero is more than there are later registrations.
      have above := tracks.positive node (List.mem_of_getElem? added)
      rw [UInt32.lt_iff_toNat_lt] at above
      change 0 < node.xid.toNat at above
      have bound := newest.xid.toNat_lt
      rw [followed.headXid_of_newestDeleted (by omega) pending]
      refine iff_of_false ?_ (fun located => located.1 deleted)
      rw [UInt32.toNat_sub]
      change ¬ (2 ^ 32 - node.xid.toNat + 0) % 2 ^ 32 = _
      omega

end Followed

theorem callbackRun_concat (callbackListLength : Nat) (positive : 0 < callbackListLength)
    (nul : Callback) (ops : List (CallbackOp Callback)) (op : CallbackOp Callback) :
    callbackRun callbackListLength positive nul (ops ++ [op]) =
      (((callbackMachine Callback callbackListLength).step
        (callbackRun callbackListLength positive nul ops).1 op).1,
        (callbackRun callbackListLength positive nul ops).2 ++
          ((callbackMachine Callback callbackListLength).step
            (callbackRun callbackListLength positive nul ops).1 op).2) :=
  Machine.run_concat _ _ _ _

/-- A well used list never fails an assertion, and every run has a window. -/
theorem exists_followed (callbackListLength : Nat) (positive : 0 < callbackListLength)
    (nul : Callback) {ops : List (CallbackOp Callback)} (used : WellUsed ops) :
    ∃ list window, (callbackRun callbackListLength positive nul ops).1 = some list ∧
      Followed ops (callbackRun callbackListLength positive nul ops).2 list window := by
  induction ops using List.reverseRecOn with
  | nil =>
      refine ⟨_, Window.empty, rfl, Tracks.start callbackListLength positive nul, ?_⟩
      exact iff_of_true rfl (Or.inl rfl)
  | append_singleton ops op inductionHypothesis =>
      rw [callbackRun_concat]
      have asked : ∀ xid, .del xid ∈ ops → 0 < xid :=
        fun xid member => used.asked xid (List.mem_append_left _ member)
      cases op with
      | add xid c =>
          have positives := used.positive
          have increasing := used.increasing
          rw [registrations_concat_add] at positives increasing
          have parts := List.pairwise_append.mp increasing
          rcases inductionHypothesis ⟨fun node member =>
            positives node (List.mem_append_left _ member), parts.1, asked⟩ with
            ⟨list, window, reached, followed⟩
          have above : 0 < xid :=
            positives _ (List.mem_append_right _ (List.mem_singleton.mpr rfl))
          have later : list.lastXid < xid := by
            have last := followed.tracks.last
            change ((registrations ops).getLast?.map CallbackNode.xid).getD 0 = _ at last
            rw [← last]
            cases newest : (registrations ops).getLast? with
            | none => exact above
            | some node =>
                exact parts.2.2 node (List.mem_of_getLast? newest) _ (List.mem_singleton.mpr rfl)
          have admits : list.Admits xid := ⟨above, fun _ _ => later⟩
          rcases Option.isSome_iff_exists.mp (show (list.callbackAdd xid c).isSome by
            unfold CallbackList.callbackAdd
            rw [if_pos admits]
            rfl) with ⟨next, added⟩
          refine ⟨next, window.push callbackListLength { xid := xid, callback := c }, ?_, ?_⟩
          · rw [reached]
            simp only [callbackMachine, added]
          · rw [reached]
            simp only [callbackMachine, added]
            exact followed.add added
      | del xid =>
          have kept := registrations_concat_del ops xid
          rcases inductionHypothesis ⟨kept ▸ used.positive, kept ▸ used.increasing, asked⟩ with
            ⟨list, window, reached, followed⟩
          have deletion := used.asked xid (List.mem_append_right _ (List.mem_singleton.mpr rfl))
          rcases followed.del deletion with ⟨found, next, window', deleted, after⟩
          refine ⟨next, window', ?_, ?_⟩
          · rw [reached]
            simp only [callbackMachine, deleted]
          · rw [reached]
            simp only [callbackMachine, deleted]
            exact after

/-- In every run `callback_del` answers as it should exactly when the
identifier is not pending, or the identifiers from it on are consecutive and no
deletion has asked for the newest one since its registration. -/
theorem answersPending_iff (callbackListLength : Nat) (positive : 0 < callbackListLength)
    (nul : Callback) (ops : List (CallbackOp Callback)) (used : WellUsed ops) (xid : UInt32)
    (asked : 0 < xid) :
    ∃ list, (callbackRun callbackListLength positive nul ops).1 = some list ∧
      (AnswersPending list
          (historyOf ops (callbackRun callbackListLength positive nul ops).2) xid ↔
        ∀ number c,
          (historyOf ops (callbackRun callbackListLength positive nul ops).2).Pending
              callbackListLength number { xid := xid, callback := c } →
            ¬ NewestDeleted ops ∧ ConsecutiveFrom ops number) := by
  rcases exists_followed callbackListLength positive nul used with
    ⟨list, window, reached, followed⟩
  refine ⟨list, reached, ?_⟩
  have tracks := followed.tracks
  constructor
  · intro answers number c pending
    rcases (answers.found c).mpr ⟨number, pending⟩ with ⟨next, returned⟩
    have held := (tracks.pending number _).mpr pending
    cases tracks.callbackDel_step asked with
    | misses same =>
        rw [returned] at same
        cases same
    | finds other node otherHeld named located _ =>
        have own := ((tracks.pending other node).mp otherHeld).1
        have equal : other = number := tracks.number_unique own pending.1 named
        rw [equal] at located
        exact (followed.located_iff held).mp located
  · intro located
    have finds : ∀ number c, (historyOf ops (callbackRun callbackListLength positive nul
        ops).2).Pending callbackListLength number { xid := xid, callback := c } →
          ∃ next, list.callbackDel xid = some (some c, next) := by
      intro number c pending
      have held := (tracks.pending number _).mpr pending
      exact ⟨_, tracks.callbackDel_of_located held
        ((followed.located_iff held).mpr (located number c pending))⟩
    constructor
    · intro c
      constructor
      · rintro ⟨next, returned⟩
        cases tracks.callbackDel_step asked with
        | misses same =>
            rw [returned] at same
            cases same
        | finds number node held named _ found =>
            rw [returned] at found
            cases found
            cases named
            exact ⟨number, (tracks.pending number node).mp held⟩
      · rintro ⟨number, pending⟩
        exact finds number c pending
    · intro absent
      cases tracks.callbackDel_step asked with
      | misses same => exact same
      | finds number node held named _ _ =>
          cases named
          exact absurd ((tracks.pending number node).mp held) (absent number node.callback)

/-- Two outstanding calls with a gap-free pair of identifiers. -/
theorem answersPending_iff_twoCalls :
    ∃ list, (callbackRun 4 (by decide) 0 [.add 101 1, .add 102 2]).1 = some list ∧
      (AnswersPending list (historyOf [.add 101 1, .add 102 2]
          (callbackRun 4 (by decide) 0 [.add 101 1, .add 102 2]).2) 101 ↔
        ∀ number c, (historyOf [.add 101 1, .add 102 2]
            (callbackRun 4 (by decide) 0 [.add 101 1, .add 102 2]).2).Pending 4 number
              { xid := 101, callback := c } →
          ¬ NewestDeleted [CallbackOp.add 101 1, .add 102 2] ∧
            ConsecutiveFrom [CallbackOp.add 101 1, .add 102 2] number) :=
  answersPending_iff 4 (by decide) 0 [.add 101 1, .add 102 2]
    { positive := by decide
      increasing := by decide
      asked := by simp } 101 (by decide)

/-- The replies to consecutive identifiers in reverse order, and a gap between
two identifiers: either way the older call is pending, but its reply is turned
away. -/
theorem pendingReply_lost :
    (let run := callbackRun 4 (by decide) 0 [CallbackOp.add 101 1, .add 102 2, .del 102];
      (historyOf [CallbackOp.add 101 1, .add 102 2, .del 102] run.2).Pending 4 0
          { xid := 101, callback := 1 } ∧
        (run.1.bind fun list => (list.callbackDel 101).map Prod.fst) = some none) ∧
      (let run := callbackRun 4 (by decide) 0 [CallbackOp.add 101 1, .add 106 2];
        (historyOf [CallbackOp.add 101 1, .add 106 2] run.2).Pending 4 0
            { xid := 101, callback := 1 } ∧
          (run.1.bind fun list => (list.callbackDel 101).map Prod.fst) = some none) := by
  refine ⟨⟨⟨?_, ?_, ?_⟩, ?_⟩, ⟨⟨?_, ?_, ?_⟩, ?_⟩⟩ <;> decide

end Nfs
end Ipbench
