import Ipbench.Foundation.Ring
import Mathlib.Algebra.BigOperators.Group.Finset.Piecewise
import Mathlib.Data.Fintype.Card

namespace Ipbench
namespace Foundation

/-!
# Tables of slots

A ring in memory is a table of slots with a head.  `Holds` connects it to the
window that it stands for: the node of an element lies in the slot of its
number, and every slot that belongs to no held element is free.  What a free
node looks like is a parameter, since a deletion may clear a part of it only.
-/

universe u

variable {length : Nat} {Node : Type u}

/-- The slot of an element, in a table that has a head. -/
def slotAt (head : Fin length) (number : Nat) : Fin length :=
  ⟨slot length number, slot_lt head.pos number⟩

/-- The head before the next insertion. -/
def advance (head : Fin length) : Fin length :=
  ⟨(head.val + 1) % length, Nat.mod_lt _ head.pos⟩

/-- The table holds exactly the elements of the window. -/
structure Holds (free : Node → Prop) (slots : Fin length → Node) (head : Fin length)
    (window : Window Node) : Prop where
  position : head.val = window.count % length
  bounded : window.Bounded length
  present : ∀ number node, window.held number = some node → slots (slotAt head number) = node
  vacant : ∀ place : Fin length,
    (∀ number node, window.held number = some node → slotAt head number ≠ place) →
      free (slots place)

theorem slotAt_eq (first second : Fin length) (number : Nat) :
    slotAt first number = slotAt second number := rfl

def occupied (taken : Node → Bool) (slots : Fin length → Node) : Nat :=
  (Finset.univ.filter fun place => taken (slots place) = true).card

/-- Writing a slot counts what is written instead of what was there. -/
theorem occupied_update (taken : Node → Bool) (slots : Fin length → Node) (place : Fin length)
    (node : Node) :
    occupied taken (Function.update slots place node) + (taken (slots place)).toNat =
      occupied taken slots + (taken node).toNat := by
  have count : ∀ other : Fin length → Node, occupied taken other =
      (taken (other place)).toNat +
        ∑ index ∈ Finset.univ.erase place, (taken (other index)).toNat := by
    intro other
    rw [occupied, Finset.card_filter,
      Finset.add_sum_erase _ (fun index => (taken (other index)).toNat) (Finset.mem_univ place)]
    apply Finset.sum_congr rfl
    intro index _
    cases taken (other index) with
    | true => rfl
    | false => rfl
  have rest : ∑ index ∈ Finset.univ.erase place,
      (taken (Function.update slots place node index)).toNat =
        ∑ index ∈ Finset.univ.erase place, (taken (slots index)).toNat := by
    apply Finset.sum_congr rfl
    intro index member
    rw [Function.update_of_ne (Finset.ne_of_mem_erase member)]
  rw [count (Function.update slots place node), count slots, rest, Function.update_self]
  omega

theorem occupied_free {taken : Node → Bool} {slots : Fin length → Node}
    (free : ∀ place, taken (slots place) = false) : occupied taken slots = 0 := by
  rw [occupied, Finset.card_eq_zero, Finset.filter_eq_empty_iff]
  intro place _
  rw [free place]
  exact Bool.false_ne_true

namespace Holds

variable {free : Node → Prop} {slots : Fin length → Node} {head : Fin length}
  {window : Window Node}

theorem start {slots : Fin length → Node} (cleared : ∀ place, free (slots place))
    (positive : 0 < length) : Holds free slots ⟨0, positive⟩ Window.empty where
  position := (Nat.zero_mod length).symm
  bounded := Window.bounded_empty length
  present := by intro number node held; cases held
  vacant := fun place _ => cleared place

theorem advance_eq (holds : Holds free slots head window) :
    advance head = slotAt head window.count := by
  apply Fin.ext
  change (head.val + 1) % length = (window.count + 1) % length
  rw [holds.position, Nat.mod_add_mod]

theorem slotAt_injective (holds : Holds free slots head window) {first second : Nat}
    {firstNode secondNode : Node} (firstHeld : window.held first = some firstNode)
    (secondHeld : window.held second = some secondNode)
    (same : slotAt head first = slotAt head second) : first = second := by
  have firstIn := holds.bounded first firstNode firstHeld
  have secondIn := holds.bounded second secondNode secondHeld
  rcases Nat.le_total first second with ordered | ordered
  · exact slot_injective ordered (by omega) (Fin.ext_iff.mp same)
  · exact (slot_injective ordered (by omega) (Fin.ext_iff.mp same).symm).symm

/-- Overwriting the slot after the head inserts the next element. -/
theorem insert (holds : Holds free slots head window) (node : Node) :
    Holds free (Function.update slots (advance head) node) (advance head)
      (window.push length node) where
  position := by
    rw [holds.advance_eq]
    rfl
  bounded := holds.bounded.push head.pos node
  present := by
    intro number found held
    rw [slotAt_eq _ head]
    rcases Window.push_held_eq_some held with ⟨newest, same⟩ | ⟨newest, kept, old⟩
    · rw [newest, same, holds.advance_eq, Function.update_self]
    · have inside := holds.bounded number found old
      have apart : slotAt head number ≠ advance head := by
        rw [holds.advance_eq]
        intro same
        exact newest (slot_injective (by omega) (by omega) (Fin.ext_iff.mp same))
      rw [Function.update_of_ne apart]
      exact holds.present number found old
  vacant := by
    intro place unused
    have different : place ≠ advance head := by
      rw [holds.advance_eq]
      intro same
      exact unused window.count node (window.push_held_count length node) same.symm
    rw [Function.update_of_ne different]
    apply holds.vacant
    intro number found held same
    have inside := holds.bounded number found held
    by_cases oldest : number + length = window.count
    · apply different
      rw [← same, holds.advance_eq]
      apply Fin.ext
      change (number + 1) % length = (window.count + 1) % length
      rw [← oldest, show number + length + 1 = number + 1 + length by omega, Nat.add_mod_right]
    · apply unused number found ?_ same
      rw [Window.push_held_of_lt window node inside.1 (by omega)]
      exact held

/-- Clearing the slot of a held element takes it out of the window. -/
theorem clear (holds : Holds free slots head window) {number : Nat} {node cleared : Node}
    (held : window.held number = some node) (gone : free cleared) :
    Holds free (Function.update slots (slotAt head number) cleared) head
      (window.take number) where
  position := holds.position
  bounded := holds.bounded.take number
  present := by
    intro other found remains
    have kept := Window.take_held_eq_some remains
    have apart : slotAt head other ≠ slotAt head number :=
      fun same => kept.1 (holds.slotAt_injective kept.2 held same)
    rw [Function.update_of_ne apart]
    exact holds.present other found kept.2
  vacant := by
    intro place unused
    by_cases here : place = slotAt head number
    · rw [here, Function.update_self]
      exact gone
    · rw [Function.update_of_ne here]
      apply holds.vacant
      intro other found old same
      by_cases taken : other = number
      · exact here (by rw [← same, taken])
      · exact unused other found ((window.take_held_of_ne taken).trans old) same

theorem cases (holds : Holds free slots head window) (place : Fin length) :
    free (slots place) ∨ ∃ number node, window.held number = some node ∧
      slotAt head number = place ∧ slots place = node := by
  by_cases occupied : ∃ number node, window.held number = some node ∧ slotAt head number = place
  · rcases occupied with ⟨number, node, held, same⟩
    exact Or.inr ⟨number, node, held, same, same ▸ holds.present number node held⟩
  · refine Or.inl (holds.vacant place ?_)
    intro number node held same
    exact occupied ⟨number, node, held, same⟩

/-- After any insertion the head is the slot of the newest element. -/
theorem head_eq (holds : Holds free slots head window) (nonempty : 0 < window.count) :
    head = slotAt head (window.count - 1) := by
  apply Fin.ext
  change head.val = (window.count - 1 + 1) % length
  rw [Nat.sub_add_cancel nonempty, holds.position]

/-- Walking back from the head by `offset` slots reaches a held element
exactly when that many elements are newer. -/
theorem stepBack_eq_iff (holds : Holds free slots head window) {number offset : Nat} {node : Node}
    (held : window.held number = some node) (near : offset < length) :
    stepBack length head.val offset = (slotAt head number).val ↔
      offset = window.count - 1 - number := by
  have inside := holds.bounded number node held
  have within : window.count - 1 - number < length := by omega
  have back : stepBack length head.val (window.count - 1 - number) =
      (slotAt head number).val := by
    rw [holds.head_eq (by omega)]
    exact stepBack_slot head.pos (by omega) within
  constructor
  · intro same
    exact stepBack_injective near within (same.trans back.symm)
  · intro same
    rw [same, back]

end Holds

end Foundation
end Ipbench
