import Ipbench.Foundation.Machine
import Ipbench.Foundation.SlotTable
import Mathlib.Data.List.DropRight

namespace Ipbench
namespace Latency

open Foundation

/-!
# The packet table of the latency test

`packetListAdd` and `packetListDel` are the two ring operations of the latency
client.  A packet's slot is not stored anywhere: it is found by walking back
from the head by the difference between the identifier in the head slot and
the identifier asked for.  Zero is both the first identifier and the mark of an
empty slot.

`Represents` connects the table to `Window`, which says what it is for.  While
the newest packet is still held, a deletion takes exactly what the window
holds.  Once the newest packet has been answered its slot reads as identifier
zero, and no other packet can be located until the next insertion.
-/

structure PacketListNode where
  packetId : UInt64
  sendTime : UInt64
deriving DecidableEq, Repr

/-- The contents written by `bzero` and by a successful deletion. -/
def PacketListNode.cleared : PacketListNode where
  packetId := 0
  sendTime := 0

/-- The table and its head.  The head is a slot of the table, so no table
of length zero can be built. -/
structure PacketList (packetListLength : Nat) where
  packetList : Fin packetListLength → PacketListNode
  packetListHead : Fin packetListLength

namespace PacketList

variable {packetListLength : Nat}

/-- The table that `latency_setup` allocates and zeroes. -/
def zeroed (packetListLength : Nat) (positive : 0 < packetListLength) :
    PacketList packetListLength where
  packetList := fun _ => PacketListNode.cleared
  packetListHead := ⟨0, positive⟩

theorem length_pos (table : PacketList packetListLength) : 0 < packetListLength :=
  Nat.lt_of_le_of_lt (Nat.zero_le _) table.packetListHead.isLt

/-- The slot at an insertion number. -/
def slotOf (table : PacketList packetListLength) (index : Nat) : Fin packetListLength :=
  ⟨slot packetListLength index, slot_lt table.length_pos index⟩

/-- Advance the head and overwrite its slot.  The result is the number of
packets dropped by that, zero or one. -/
def packetListAdd (table : PacketList packetListLength) (packetId sendTime : UInt64) :
    UInt64 × PacketList packetListLength :=
  let packetListHead : Fin packetListLength :=
    ⟨(table.packetListHead.val + 1) % packetListLength, Nat.mod_lt _ table.length_pos⟩
  let drops := if (table.packetList packetListHead).packetId ≠ 0 then 1 else 0
  (drops,
    { packetList := Function.update table.packetList packetListHead
        { packetId := packetId, sendTime := sendTime }
      packetListHead := packetListHead })

/-- The unsigned distance from the identifier in the head slot. -/
def offset (table : PacketList packetListLength) (packetId : UInt64) : UInt64 :=
  (table.packetList table.packetListHead).packetId - packetId

/-- The slot a deletion looks at.  It is always a slot of the table, which is
the assertion of the source. -/
def index (table : PacketList packetListLength) (packetId : UInt64) : Fin packetListLength :=
  ⟨stepBack packetListLength table.packetListHead.val (table.offset packetId).toNat,
    stepBack_lt table.packetListHead.isLt _⟩

def clear (table : PacketList packetListLength) (place : Fin packetListLength) :
    PacketList packetListLength where
  packetList := Function.update table.packetList place PacketListNode.cleared
  packetListHead := table.packetListHead

/-- Clear the packet's slot and return its send time, or return zero and
leave the table alone when the packet is too old or absent. -/
def packetListDel (table : PacketList packetListLength) (packetId : UInt64) :
    UInt64 × PacketList packetListLength :=
  if packetListLength ≤ (table.offset packetId).toNat then
    (0, table)
  else
    let index := table.index packetId
    if (table.packetList index).packetId = packetId then
      ((table.packetList index).sendTime, table.clear index)
    else
      (0, table)

/-- The table holds exactly the packets of the window, each in the slot of its
insertion number, under its number as identifier and with its send time. -/
structure Represents (table : PacketList packetListLength) (window : Window UInt64) : Prop where
  head : table.packetListHead.val = window.count % packetListLength
  bounded : window.Bounded packetListLength
  nonzero : ∀ number time, window.held number = some time → time ≠ 0
  present : ∀ number time, window.held number = some time →
    table.packetList (table.slotOf number) =
      { packetId := UInt64.ofNat number, sendTime := time }
  vacant : ∀ place : Fin packetListLength,
    (∀ number time, window.held number = some time → table.slotOf number ≠ place) →
      table.packetList place = PacketListNode.cleared

/-- The node of a packet under its number. -/
def node (number : Nat) (time : UInt64) : PacketListNode where
  packetId := UInt64.ofNat number
  sendTime := time

theorem represents_iff (table : PacketList packetListLength) (window : Window UInt64) :
    table.Represents window ↔
      Holds (· = PacketListNode.cleared) table.packetList table.packetListHead
          (window.map node) ∧
        ∀ number time, window.held number = some time → time ≠ 0 := by
  constructor
  · intro represents
    refine ⟨⟨represents.head, ?_, ?_, ?_⟩, represents.nonzero⟩
    · intro number found held
      rcases Window.map_held_eq_some held with ⟨time, kept, _⟩
      exact represents.bounded number time kept
    · intro number found held
      rcases Window.map_held_eq_some held with ⟨time, kept, same⟩
      exact same ▸ represents.present number time kept
    · intro place unused
      apply represents.vacant
      exact fun number time kept => unused number _ (Window.map_held kept)
  · rintro ⟨holds, nonzero⟩
    refine ⟨holds.position, ?_, nonzero, ?_, ?_⟩
    · exact fun number time kept => holds.bounded number _ (Window.map_held kept)
    · exact fun number time kept => holds.present number _ (Window.map_held kept)
    · intro place unused
      apply holds.vacant
      intro number found held
      rcases Window.map_held_eq_some held with ⟨time, kept, _⟩
      exact unused number time kept

theorem Represents.holds {table : PacketList packetListLength} {window : Window UInt64}
    (represents : table.Represents window) :
    Holds (· = PacketListNode.cleared) table.packetList table.packetListHead
      (window.map node) :=
  ((table.represents_iff window).mp represents).1

theorem represents_zeroed (packetListLength : Nat) (positive : 0 < packetListLength) :
    (zeroed packetListLength positive).Represents Window.empty := by
  have empty : ∀ place, (zeroed packetListLength positive).packetList place =
      PacketListNode.cleared := fun _ => rfl
  apply (represents_iff _ _).mpr
  refine ⟨Holds.start empty positive, ?_⟩
  intro number time held
  cases held

/-- Inserting under the next number keeps the representation. -/
theorem packetListAdd_represents (table : PacketList packetListLength) {window : Window UInt64}
    (represents : table.Represents window) {sendTime : UInt64} (sent : sendTime ≠ 0) :
    (table.packetListAdd (UInt64.ofNat window.count) sendTime).2.Represents
      (window.push packetListLength sendTime) := by
  apply (represents_iff _ _).mpr
  constructor
  · rw [Window.map_push]
    exact represents.holds.insert (node window.count sendTime)
  · intro number time held
    rcases Window.push_held_eq_some held with ⟨_, same⟩ | ⟨_, _, old⟩
    · exact same ▸ sent
    · exact represents.nonzero number time old

/-! ## Deletion -/

/-- A slot that carries an identifier belongs to a held packet of that
number, unless it is vacant. -/
theorem packetList_cases (table : PacketList packetListLength) {window : Window UInt64}
    (represents : table.Represents window) (place : Fin packetListLength) :
    table.packetList place = PacketListNode.cleared ∨
      ∃ number time, window.held number = some time ∧ table.slotOf number = place ∧
        table.packetList place = { packetId := UInt64.ofNat number, sendTime := time } := by
  rcases represents.holds.cases place with free | ⟨number, found, held, same, occupied⟩
  · exact Or.inl free
  · rcases Window.map_held_eq_some held with ⟨time, kept, rfl⟩
    exact Or.inr ⟨number, time, kept, same, occupied⟩

theorem toNat_ofNat_of_held {table : PacketList packetListLength} {window : Window UInt64}
    (represents : table.Represents window) (fits : window.count ≤ 2 ^ 64) {number : Nat}
    {time : UInt64} (held : window.held number = some time) :
    (UInt64.ofNat number).toNat = number := by
  have inside := represents.bounded number time held
  exact UInt64.toNat_ofNat_of_lt' (Nat.lt_of_lt_of_le inside.1 fits)

theorem clear_of_cleared (table : PacketList packetListLength) (place : Fin packetListLength)
    (empty : table.packetList place = PacketListNode.cleared) : table.clear place = table := by
  unfold clear
  rw [← empty, Function.update_eq_self]

/-- Clearing a vacant slot, and looking at an occupied slot of another
packet, both return zero and change nothing. -/
theorem packetListDel_eq_of_index (table : PacketList packetListLength) (packetId : UInt64)
    (missed : (table.packetList (table.index packetId)).packetId = packetId →
      table.packetList (table.index packetId) = PacketListNode.cleared) :
    table.packetListDel packetId = (0, table) := by
  unfold packetListDel
  split
  · rfl
  · by_cases found : (table.packetList (table.index packetId)).packetId = packetId
    · have empty := missed found
      have time : (table.packetList (table.index packetId)).sendTime = 0 := by
        rw [empty, PacketListNode.cleared]
      rw [if_pos found, time, table.clear_of_cleared _ empty]
    · rw [if_neg found]

/-- A packet that is not held is never reported, and asking for it leaves the
table unchanged. -/
theorem packetListDel_of_not_held (table : PacketList packetListLength) {window : Window UInt64}
    (represents : table.Represents window) (fits : window.count ≤ 2 ^ 64) {packetId : UInt64}
    (absent : window.held packetId.toNat = none) : table.packetListDel packetId = (0, table) := by
  apply table.packetListDel_eq_of_index
  intro found
  rcases table.packetList_cases represents (table.index packetId) with
    empty | ⟨number, time, held, _, node⟩
  · exact empty
  · have same : packetId = UInt64.ofNat number := by rw [← found, node]
    rw [same, toNat_ofNat_of_held represents fits held, held] at absent
    cases absent

/-- Where a held packet lies, relative to the newest one. -/
theorem stepBack_slotOf (table : PacketList packetListLength) {window : Window UInt64}
    (represents : table.Represents window) {number : Nat} {time : UInt64}
    (held : window.held number = some time) :
    window.count - 1 - number < packetListLength ∧
      stepBack packetListLength table.packetListHead.val (window.count - 1 - number) =
        (table.slotOf number).val := by
  have inside := represents.bounded number time held
  have near : window.count - 1 - number < packetListLength := by omega
  exact ⟨near, (represents.holds.stepBack_eq_iff (Window.map_held held) near).mpr rfl⟩

/-- While the newest packet is held, the head slot carries its number and
every held packet is found, reported and cleared. -/
theorem packetListDel_of_held (table : PacketList packetListLength) {window : Window UInt64}
    (represents : table.Represents window) (fits : window.count ≤ 2 ^ 64)
    {newest : UInt64} (pending : window.held (window.count - 1) = some newest)
    {packetId time : UInt64} (held : window.held packetId.toNat = some time) :
    table.packetListDel packetId = (time, table.clear (table.slotOf packetId.toNat)) := by
  have inside := represents.bounded _ _ held
  have headId : (table.packetList table.packetListHead).packetId =
      UInt64.ofNat (window.count - 1) := by
    rw [represents.holds.head_eq (show 0 < window.count by omega)]
    exact congrArg PacketListNode.packetId (represents.present _ _ pending)
  have distance : (table.offset packetId).toNat = window.count - 1 - packetId.toNat := by
    have newestNat := toNat_ofNat_of_held represents fits pending
    unfold offset
    rw [headId, UInt64.toNat_sub_of_le, newestNat]
    rw [UInt64.le_iff_toNat_le, newestNat]
    omega
  have place := table.stepBack_slotOf represents held
  have found : table.index packetId = table.slotOf packetId.toNat := by
    apply Fin.ext
    simp only [index, distance, place.2]
  unfold packetListDel
  rw [if_neg (by rw [distance]; omega)]
  simp only [found, represents.present _ _ held, UInt64.ofNat_toNat, if_true]

/-- Taking a packet out of the table takes it out of the window. -/
theorem clear_represents (table : PacketList packetListLength) {window : Window UInt64}
    (represents : table.Represents window) {number : Nat} {time : UInt64}
    (held : window.held number = some time) :
    (table.clear (table.slotOf number)).Represents (window.take number) := by
  apply (represents_iff _ _).mpr
  constructor
  · rw [Window.map_take]
    exact represents.holds.clear (Window.map_held held) rfl
  · intro other found remains
    exact represents.nonzero other found (Window.take_held_eq_some remains).2

/-- Once the newest packet has been answered the head slot reads as identifier
zero.  The distance is then measured from zero, and a slot found that way is
never the packet's own. -/
theorem packetListDel_of_newest_answered (table : PacketList packetListLength)
    {window : Window UInt64} (represents : table.Represents window)
    (fits : window.count ≤ 2 ^ 64) (answered : window.held (window.count - 1) = none)
    (packetId : UInt64) : table.packetListDel packetId = (0, table) := by
  cases found : window.held packetId.toNat with
  | none => exact table.packetListDel_of_not_held represents fits found
  | some time =>
      have inside := represents.bounded _ _ found
      have headEmpty : table.packetList table.packetListHead = PacketListNode.cleared := by
        apply represents.vacant
        intro number other held same
        have bounds := represents.bounded number other held
        have equal : number = window.count - 1 :=
          slot_injective (by omega) (by omega) (Fin.ext_iff.mp
            (same.trans (represents.holds.head_eq (show 0 < window.count by omega))))
        rw [equal, answered] at held
        cases held
      have distance : table.offset packetId = 0 - packetId := by
        unfold offset
        rw [headEmpty, PacketListNode.cleared]
      by_cases near : packetListLength ≤ (table.offset packetId).toNat
      · unfold packetListDel
        rw [if_pos near]
      · apply table.packetListDel_eq_of_index
        intro matched
        rcases table.packetList_cases represents (table.index packetId) with
          empty | ⟨number, other, held, same, node⟩
        · exact empty
        · have own : UInt64.ofNat number = packetId := by rw [← matched, node]
          have ownNat : number = packetId.toNat := by
            rw [← own, toNat_ofNat_of_held represents fits held]
          have place := table.stepBack_slotOf represents found
          have equal : (table.offset packetId).toNat = window.count - 1 - packetId.toNat := by
            apply stepBack_injective (by omega) place.1
            rw [place.2, ← ownNat, same]
            rfl
          have zero : packetId = 0 := by
            apply UInt64.toNat_inj.mp
            rw [distance, UInt64.toNat_sub] at equal
            have bound := packetId.toNat_lt
            simp only [UInt64.toNat_zero] at equal ⊢
            omega
          rw [zero] at distance
          have atHead : table.index packetId = table.packetListHead := by
            apply Fin.ext
            simp only [index, zero, distance]
            rfl
          rw [atHead]
          exact headEmpty

/-- Everything a deletion can do: miss, or take a held packet. -/
theorem packetListDel_cases (table : PacketList packetListLength) {window : Window UInt64}
    (represents : table.Represents window) (fits : window.count ≤ 2 ^ 64) (packetId : UInt64) :
    table.packetListDel packetId = (0, table) ∨
      ∃ time, window.held packetId.toNat = some time ∧
        table.packetListDel packetId = (time, table.clear (table.slotOf packetId.toNat)) := by
  cases held : window.held packetId.toNat with
  | none => exact Or.inl (table.packetListDel_of_not_held represents fits held)
  | some time =>
      cases pending : window.held (window.count - 1) with
      | none =>
          exact Or.inl (table.packetListDel_of_newest_answered represents fits pending packetId)
      | some newest =>
          exact Or.inr ⟨time, rfl, table.packetListDel_of_held represents fits pending held⟩

end PacketList

end Latency
end Ipbench
