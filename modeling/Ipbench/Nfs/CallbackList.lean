import Ipbench.Foundation.SlotTable
import Mathlib.Data.List.Pairwise

namespace Ipbench
namespace Nfs

open Foundation

/-!
# The callback list of the NFS client

Outstanding RPC calls are kept in a ring of nodes.  `callbackAdd` advances the
head and overwrites its slot; `callbackDel` walks back from the head by the
difference between the transaction identifier in the head slot and the one it
is asked for, and clears only the identifier of the slot that it finds.  A
failing assertion ends the process; both operations are `none` then.

`Tracks` connects the list to the calls made so far.  The assertions of
`callbackAdd` alone make the identifiers increase, so an identifier names one
registration for ever, and a deletion that succeeds has found the callback
registered under it.  A registered callback is located exactly when the
difference of identifiers equals the number of later registrations.
-/

variable {Callback : Type}

structure CallbackNode (Callback : Type) where
  xid : UInt32
  callback : Callback
deriving DecidableEq, Repr

/-- The static variables of the callback list.  The head is a slot of the list,
so no list of length zero can be built. -/
structure CallbackList (Callback : Type) (callbackListLength : Nat) where
  callbackList : Fin callbackListLength → CallbackNode Callback
  callbackListHead : Fin callbackListLength
  drops : UInt64
  lastXid : UInt32

namespace CallbackList

variable {callbackListLength : Nat}

/-- The zeroed list of `callback_init`; `nul` is the zeroed callback. -/
def callbackInit (slots : Nat) (positive : 0 < slots) (nul : Callback) :
    CallbackList Callback slots where
  callbackList := fun _ => { xid := 0, callback := nul }
  callbackListHead := ⟨0, positive⟩
  drops := 0
  lastXid := 0

/-- The assertions of `callback_add`. -/
def Admits (list : CallbackList Callback callbackListLength) (xid : UInt32) : Prop :=
  0 < xid ∧ (0 < list.lastXid → xid ≠ list.lastXid + 1 → list.lastXid < xid)

instance (list : CallbackList Callback callbackListLength) (xid : UInt32) :
    Decidable (list.Admits xid) :=
  inferInstanceAs (Decidable (_ ∧ _))

/-- Register a callback in the slot after the head. -/
def callbackAdd (list : CallbackList Callback callbackListLength) (xid : UInt32)
    (c : Callback) : Option (CallbackList Callback callbackListLength) :=
  if list.Admits xid then
    let callbackListHead := advance list.callbackListHead
    some
      { callbackList := Function.update list.callbackList callbackListHead
          { xid := xid, callback := c }
        callbackListHead := callbackListHead
        drops := list.drops +
          if (list.callbackList callbackListHead).xid ≠ 0 then 1 else 0
        lastXid := xid }
  else none

/-- The unsigned distance from the identifier in the head slot. -/
def offset (list : CallbackList Callback callbackListLength) (xid : UInt32) : Nat :=
  ((list.callbackList list.callbackListHead).xid - xid).toNat

/-- The slot a deletion looks at.  It is always a slot of the list, which is
the second assertion of `callback_del`. -/
def index (list : CallbackList Callback callbackListLength) (xid : UInt32) :
    Fin callbackListLength :=
  ⟨stepBack callbackListLength list.callbackListHead.val (list.offset xid),
    stepBack_lt list.callbackListHead.isLt _⟩

def release (list : CallbackList Callback callbackListLength) (place : Fin callbackListLength) :
    CallbackList Callback callbackListLength :=
  { list with
    callbackList := Function.update list.callbackList place
      { list.callbackList place with xid := 0 } }

/-- Look an identifier up; the status is 0 when a callback is returned and -1
otherwise. -/
def callbackDel (list : CallbackList Callback callbackListLength) (xid : UInt32) :
    Option (Option Callback × CallbackList Callback callbackListLength) :=
  if 0 < xid then
    if callbackListLength ≤ list.offset xid then some (none, list)
    else
      let index := list.index xid
      if (list.callbackList index).xid ≠ xid then some (none, list)
      else some (some (list.callbackList index).callback, list.release index)
  else none

/-- The callback in the head slot is found under its identifier. -/
theorem callbackDel_head {list : CallbackList Callback callbackListLength} {xid : UInt32}
    {c : Callback} (positive : 0 < xid)
    (newest : list.callbackList list.callbackListHead = { xid := xid, callback := c }) :
    list.callbackDel xid = some (some c, list.release list.callbackListHead) := by
  have near : list.offset xid = 0 := by
    rw [offset, newest, UInt32.sub_self]
    rfl
  have place : list.index xid = list.callbackListHead := by
    apply Fin.ext
    change stepBack _ _ (list.offset xid) = _
    rw [near]
    exact if_pos (Nat.zero_le _)
  unfold callbackDel
  rw [if_pos positive, near, if_neg (Nat.not_le_of_lt list.callbackListHead.pos)]
  dsimp only
  rw [place, newest, if_neg (not_not_intro rfl)]

/-- A deletion leaves the list alone, or clears a node of its identifier. -/
theorem callbackDel_cases {list : CallbackList Callback callbackListLength} {xid : UInt32}
    (positive : 0 < xid) :
    list.callbackDel xid = some (none, list) ∨
      ∃ place, (list.callbackList place).xid = xid ∧
        list.callbackDel xid =
          some (some (list.callbackList place).callback, list.release place) := by
  unfold callbackDel
  rw [if_pos positive]
  split
  · exact Or.inl rfl
  · dsimp only
    split
    · exact Or.inl rfl
    · next other => exact Or.inr ⟨_, not_not.mp other, rfl⟩

/-- A cleared node is free, and the others are as they were. -/
theorem release_cases (list : CallbackList Callback callbackListLength)
    (place slot : Fin callbackListLength) :
    (slot = place ∧ ((list.release place).callbackList slot).xid = 0) ∨
      (slot ≠ place ∧ (list.release place).callbackList slot = list.callbackList slot) := by
  unfold release
  dsimp only
  by_cases same : slot = place
  · rw [same, Function.update_self]
    exact Or.inl ⟨rfl, rfl⟩
  · rw [Function.update_of_ne same]
    exact Or.inr ⟨same, rfl⟩

theorem callbackAdd_newer {list : CallbackList Callback callbackListLength} {xid : UInt32}
    (newer : list.lastXid < xid) (c : Callback) :
    ∃ next, list.callbackAdd xid c = some next ∧ next.lastXid = xid ∧
      next.callbackList = Function.update list.callbackList next.callbackListHead
        { xid := xid, callback := c } := by
  have positive : 0 < xid := UInt32.pos_iff_ne_zero.mpr fun zero => by
    rw [zero] at newer
    exact UInt32.not_lt_zero newer
  have admits : list.Admits xid := ⟨positive, fun _ _ => newer⟩
  unfold callbackAdd
  rw [if_pos admits]
  exact ⟨_, rfl, rfl, rfl⟩

end CallbackList

/-! ## The calls made so far -/

/-- The registrations in order, and the identifiers that deletions have found. -/
structure History (Callback : Type) where
  added : List (CallbackNode Callback)
  deleted : List UInt32

namespace History

variable (history : History Callback)

def empty : History Callback where
  added := []
  deleted := []

def add (xid : UInt32) (c : Callback) : History Callback :=
  { history with added := history.added ++ [{ xid := xid, callback := c }] }

def del (xid : UInt32) : History Callback :=
  { history with deleted := history.deleted ++ [xid] }

/-- The callback registered as number `number` has neither been deleted nor
overwritten. -/
def Pending (callbackListLength number : Nat) (node : CallbackNode Callback) : Prop :=
  history.added[number]? = some node ∧ node.xid ∉ history.deleted ∧
    history.added.length - (number + 1) < callbackListLength

end History

/-- What a window says about the list and the calls that led to it. -/
structure Tracks {callbackListLength : Nat} (list : CallbackList Callback callbackListLength)
    (history : History Callback) (window : Window (CallbackNode Callback)) : Prop where
  holds : Holds (fun node => node.xid = 0) list.callbackList list.callbackListHead window
  counted : window.count = history.added.length
  last : (history.added.getLast?.map CallbackNode.xid).getD 0 = list.lastXid
  positive : ∀ node ∈ history.added, 0 < node.xid
  increasing : history.added.Pairwise fun first second => first.xid < second.xid
  known : ∀ xid ∈ history.deleted, ∃ node ∈ history.added, node.xid = xid
  once : history.deleted.Nodup
  pending : ∀ number node, window.held number = some node ↔
    history.Pending callbackListLength number node

namespace Tracks

variable {callbackListLength : Nat} {list : CallbackList Callback callbackListLength}
  {history : History Callback} {window : Window (CallbackNode Callback)}

theorem start (slots : Nat) (positive : 0 < slots) (nul : Callback) :
    Tracks (CallbackList.callbackInit slots positive nul) History.empty Window.empty where
  holds := by
    apply Holds.start
    exact fun _ => rfl
  counted := rfl
  last := rfl
  positive := fun _ member => absurd member List.not_mem_nil
  increasing := List.Pairwise.nil
  known := fun _ member => absurd member List.not_mem_nil
  once := List.nodup_nil
  pending := by
    intro number node
    constructor
    · intro held
      cases held
    · rintro ⟨added, _⟩
      cases added

theorem number_unique (tracks : Tracks list history window) {first second : Nat}
    {firstNode secondNode : CallbackNode Callback}
    (firstAdded : history.added[first]? = some firstNode)
    (secondAdded : history.added[second]? = some secondNode)
    (same : firstNode.xid = secondNode.xid) : first = second := by
  rcases List.getElem?_eq_some_iff.mp firstAdded with ⟨firstLt, firstAt⟩
  rcases List.getElem?_eq_some_iff.mp secondAdded with ⟨secondLt, secondAt⟩
  have ordered := List.pairwise_iff_getElem.mp tracks.increasing
  rcases Nat.lt_trichotomy first second with before | equal | behind
  · have less := ordered first second firstLt secondLt before
    rw [firstAt, secondAt, same] at less
    exact absurd less (UInt32.lt_irrefl _)
  · exact equal
  · have less := ordered second first secondLt firstLt behind
    rw [firstAt, secondAt, same] at less
    exact absurd less (UInt32.lt_irrefl _)

theorem le_lastXid (tracks : Tracks list history window) {node : CallbackNode Callback}
    (added : node ∈ history.added) : node.xid ≤ list.lastXid := by
  rcases List.eq_nil_or_concat history.added with empty | ⟨earlier, final, split⟩
  · rw [empty] at added
    cases added
  · have last := tracks.last
    have increasing := tracks.increasing
    rw [List.concat_eq_append] at split
    rw [split, List.getLast?_append_of_ne_nil _ (List.cons_ne_nil _ _)] at last
    rw [split] at added increasing
    change final.xid = _ at last
    rw [← last]
    rcases List.mem_append.mp added with old | newest
    · exact UInt32.le_of_lt ((List.pairwise_append.mp increasing).2.2 node old final
        (List.mem_singleton.mpr rfl))
    · rw [List.mem_singleton.mp newest]
      exact UInt32.le_refl _

/-- Identifiers are at least as far apart as their registrations. -/
theorem spread (tracks : Tracks list history window) {first second : Nat}
    {firstNode secondNode : CallbackNode Callback} (ordered : first ≤ second)
    (firstAdded : history.added[first]? = some firstNode)
    (secondAdded : history.added[second]? = some secondNode) :
    firstNode.xid.toNat + (second - first) ≤ secondNode.xid.toNat := by
  induction second, ordered using Nat.le_induction generalizing secondNode with
  | base =>
      rw [firstAdded] at secondAdded
      cases secondAdded
      omega
  | succ second ordered inductionHypothesis =>
      rcases List.getElem?_eq_some_iff.mp secondAdded with ⟨bound, at_⟩
      have near := inductionHypothesis
        (List.getElem?_eq_getElem (Nat.lt_of_succ_lt bound))
      have less := List.pairwise_iff_getElem.mp tracks.increasing second (second + 1)
        (Nat.lt_of_succ_lt bound) bound (Nat.lt_succ_self second)
      rw [at_, UInt32.lt_iff_toNat_lt] at less
      omega

theorem lastXid_lt {xid : UInt32} (admits : list.Admits xid) : list.lastXid < xid := by
  rcases admits with ⟨positive, next⟩
  by_cases first : 0 < list.lastXid
  · by_cases successor : xid = list.lastXid + 1
    · rw [successor] at positive ⊢
      rw [UInt32.lt_iff_toNat_lt] at positive ⊢
      rw [UInt32.toNat_add] at positive ⊢
      have bound := list.lastXid.toNat_lt
      change 0 < (_ + 1) % 2 ^ 32 at positive
      change _ < (_ + 1) % 2 ^ 32
      omega
    · exact next first successor
  · rw [UInt32.lt_iff_toNat_lt] at first positive ⊢
    omega

theorem pending_add (tracks : Tracks list history window) {xid : UInt32} (c : Callback)
    (undeleted : xid ∉ history.deleted) (number : Nat) (node : CallbackNode Callback) :
    (window.push callbackListLength { xid := xid, callback := c }).held number = some node ↔
      (history.add xid c).Pending callbackListLength number node := by
  unfold History.Pending History.add
  rw [List.length_append, List.length_singleton]
  by_cases newest : number = window.count
  · rw [newest, Window.push_held_count, tracks.counted, List.getElem?_concat_length]
    constructor
    · intro same
      refine ⟨same, ?_, ?_⟩
      · rw [← Option.some.inj same]
        exact undeleted
      · have positive := list.callbackListHead.pos
        omega
    · exact fun pending => pending.1
  · have kept : (window.push callbackListLength { xid := xid, callback := c }).held number =
        if number + callbackListLength = window.count then none else window.held number := by
      simp only [Window.push, if_neg newest]
    rw [kept]
    by_cases oldest : number + callbackListLength = window.count
    · rw [if_pos oldest]
      constructor
      · intro held
        cases held
      · rintro ⟨_, _, inside⟩
        rw [← tracks.counted, ← oldest] at inside
        omega
    · rw [if_neg oldest, tracks.pending]
      unfold History.Pending
      by_cases older : number < history.added.length
      · rw [List.getElem?_append_left older]
        rw [tracks.counted] at oldest
        exact and_congr_right fun _ => and_congr_right fun _ => by omega
      · have absent : history.added[number]? = none := by
          rw [List.getElem?_eq_none_iff]
          omega
        have beyond : (history.added ++ [{ xid := xid, callback := c }])[number]? = none := by
          rw [List.getElem?_eq_none_iff, List.length_append, List.length_singleton]
          rw [tracks.counted] at newest
          omega
        rw [absent, beyond]
        refine iff_of_false ?_ ?_
        · exact fun pending => Option.some_ne_none node pending.1.symm
        · exact fun pending => Option.some_ne_none node pending.1.symm

/-- A registration is pending until it is deleted or overwritten. -/
theorem callbackAdd (tracks : Tracks list history window) {xid : UInt32} {c : Callback}
    {next : CallbackList Callback callbackListLength} (added : list.callbackAdd xid c = some next) :
    Tracks next (history.add xid c)
      (window.push callbackListLength { xid := xid, callback := c }) := by
  unfold CallbackList.callbackAdd at added
  by_cases admits : list.Admits xid
  · rw [if_pos admits] at added
    cases added
    have later := lastXid_lt admits
    have fresh : ∀ node ∈ history.added, node.xid < xid :=
      fun node member => UInt32.lt_of_le_of_lt (tracks.le_lastXid member) later
    constructor
    · exact tracks.holds.insert { xid := xid, callback := c }
    · rw [Window.push_count, tracks.counted, History.add, List.length_append]
      rfl
    · rw [History.add, List.getLast?_append_of_ne_nil _ (List.cons_ne_nil _ _)]
      rfl
    · intro node member
      rcases List.mem_append.mp member with old | newest
      · exact tracks.positive node old
      · rw [List.mem_singleton.mp newest]
        exact admits.1
    · refine List.pairwise_append.mpr ⟨tracks.increasing, List.pairwise_singleton _ _, ?_⟩
      intro node member newest same
      rw [List.mem_singleton.mp same]
      exact fresh node member
    · intro other deleted
      rcases tracks.known other deleted with ⟨node, member, same⟩
      exact ⟨node, List.mem_append_left _ member, same⟩
    · exact tracks.once
    · intro number node
      have undeleted : xid ∉ history.deleted := by
        intro deleted
        rcases tracks.known xid deleted with ⟨old, member, same⟩
        exact UInt32.lt_irrefl xid (same ▸ fresh old member)
      exact tracks.pending_add c undeleted number node
  · rw [if_neg admits] at added
    cases added

/-! ## Deletion -/

/-- The distance that is computed for an identifier is the number of callbacks
registered after it. -/
def Located (list : CallbackList Callback callbackListLength)
    (window : Window (CallbackNode Callback)) (xid : UInt32) (number : Nat) : Prop :=
  list.offset xid = window.count - 1 - number

/-- A callback that is located is returned, and its identifier is cleared. -/
theorem callbackDel_of_located (tracks : Tracks list history window) {number : Nat}
    {node : CallbackNode Callback} (held : window.held number = some node)
    (located : Located list window node.xid number) :
    list.callbackDel node.xid = some (some node.callback,
      list.release (slotAt list.callbackListHead number)) := by
  have inside := tracks.holds.bounded number node held
  have near : list.offset node.xid < callbackListLength := by
    rw [located]
    omega
  have place : list.index node.xid = slotAt list.callbackListHead number :=
    Fin.ext ((tracks.holds.stepBack_eq_iff held near).mpr located)
  have positive := tracks.positive node
    (List.mem_of_getElem? ((tracks.pending number node).mp held).1)
  unfold CallbackList.callbackDel
  rw [if_pos positive, if_neg (Nat.not_le_of_lt near)]
  dsimp only
  rw [place, tracks.holds.present number node held, if_neg (not_not_intro rfl)]

/-- Nothing is returned for an identifier that is not located, and the list
stays as it is. -/
theorem callbackDel_of_not_located (tracks : Tracks list history window) {xid : UInt32}
    (positive : 0 < xid)
    (missed : ∀ number node, window.held number = some node → node.xid = xid →
      ¬ Located list window xid number) :
    list.callbackDel xid = some (none, list) := by
  unfold CallbackList.callbackDel
  rw [if_pos positive]
  by_cases far : callbackListLength ≤ list.offset xid
  · rw [if_pos far]
  · rw [if_neg far]
    dsimp only
    rw [if_pos]
    intro found
    rcases tracks.holds.cases (list.index xid) with free | ⟨number, node, held, place, same⟩
    · rw [found] at free
      rw [free] at positive
      exact absurd positive (UInt32.lt_irrefl 0)
    · refine missed number node held (same ▸ found) ?_
      exact (tracks.holds.stepBack_eq_iff held (Nat.lt_of_not_le far)).mp
        (Fin.ext_iff.mp place).symm

/-- What a deletion does, for any identifier that passes its assertion. -/
inductive DelStep (list : CallbackList Callback callbackListLength)
    (window : Window (CallbackNode Callback)) (xid : UInt32)
    (result : Option (Option Callback × CallbackList Callback callbackListLength)) : Prop where
  | misses (same : result = some (none, list))
  | finds (number : Nat) (node : CallbackNode Callback) (held : window.held number = some node)
      (named : node.xid = xid) (located : Located list window xid number)
      (found : result = some (some node.callback,
        list.release (slotAt list.callbackListHead number)))

theorem callbackDel_step (tracks : Tracks list history window) {xid : UInt32}
    (positive : 0 < xid) : DelStep list window xid (list.callbackDel xid) := by
  by_cases present : ∃ number node, window.held number = some node ∧ node.xid = xid ∧
    Located list window xid number
  · rcases present with ⟨number, node, held, named, located⟩
    subst named
    exact .finds number node held rfl located (tracks.callbackDel_of_located held located)
  · refine .misses (tracks.callbackDel_of_not_located positive ?_)
    exact fun number node held named located => present ⟨number, node, held, named, located⟩

/-- A deletion that finds a callback takes it out of the window. -/
theorem release (tracks : Tracks list history window) {number : Nat}
    {node : CallbackNode Callback} (held : window.held number = some node) :
    Tracks (list.release (slotAt list.callbackListHead number)) (history.del node.xid)
      (window.take number) where
  holds := tracks.holds.clear held rfl
  counted := tracks.counted
  last := tracks.last
  positive := tracks.positive
  increasing := tracks.increasing
  known := by
    intro xid deleted
    rcases List.mem_append.mp deleted with old | newest
    · exact tracks.known xid old
    · rw [List.mem_singleton.mp newest]
      exact ⟨node, List.mem_of_getElem? ((tracks.pending number node).mp held).1, rfl⟩
  once := by
    refine List.nodup_append.mpr ⟨tracks.once, List.nodup_singleton _, ?_⟩
    intro old deleted newest member same
    rw [List.mem_singleton.mp member] at same
    exact ((tracks.pending number node).mp held).2.1 (same ▸ deleted)
  pending := by
    intro other found
    have own := (tracks.pending number node).mp held
    by_cases same : other = number
    · rw [same, Window.take_held_self]
      constructor
      · intro impossible
        cases impossible
      · rintro ⟨added, undeleted, _⟩
        have equal : node = found := Option.some.inj (own.1.symm.trans added)
        rw [← equal] at undeleted
        exact absurd (List.mem_append_right _ (List.mem_singleton.mpr rfl)) undeleted
    · rw [window.take_held_of_ne same, tracks.pending]
      refine and_congr_right fun added => and_congr_left fun _ => not_congr ?_
      rw [History.del, List.mem_append, List.mem_singleton]
      have different : found.xid ≠ node.xid :=
        fun equal => same (tracks.number_unique added own.1 equal)
      exact (or_iff_left different).symm

end Tracks

end Nfs
end Ipbench
