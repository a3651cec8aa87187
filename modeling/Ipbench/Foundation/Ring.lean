import Mathlib.Data.Nat.ModEq
import Mathlib.Logic.Function.Basic
import Mathlib.Tactic.Ring

namespace Ipbench
namespace Foundation

/-!
# Rings of the most recent elements

Elements are numbered from zero in the order of their insertion.  A ring of
`length` slots advances its head before each insertion, so element `index`
occupies slot `(index + 1) % length` until `length` further elements have been
inserted.

`Window` is the purpose of such a ring without its slots: a count of the
insertions and the elements still held, none of them older than the window.
-/

/-- The slot of the element inserted after `index` others. -/
def slot (length index : Nat) : Nat :=
  (index + 1) % length

theorem slot_lt {length : Nat} (positive : 0 < length) (index : Nat) :
    slot length index < length :=
  Nat.mod_lt _ positive

/-- Walk back from the head, wrapping at most once below slot zero. -/
def stepBack (length head offset : Nat) : Nat :=
  if offset ≤ head then head - offset else length - (offset - head)

theorem stepBack_lt {length head : Nat} (headLt : head < length) (offset : Nat) :
    stepBack length head offset < length := by
  unfold stepBack
  split <;> omega

/-- Walking back and forth again returns to the head. -/
theorem stepBack_add_mod {length head offset : Nat} (headLt : head < length)
    (offsetLt : offset < length) : (stepBack length head offset + offset) % length = head := by
  unfold stepBack
  by_cases within : offset ≤ head
  · rw [if_pos within, Nat.sub_add_cancel within, Nat.mod_eq_of_lt headLt]
  · rw [if_neg within]
    have wrapped : length - (offset - head) + offset = head + length := by omega
    rw [wrapped, Nat.add_mod_right, Nat.mod_eq_of_lt headLt]

/-- Distinct offsets inside the ring name distinct slots. -/
theorem stepBack_injective {length head first second : Nat}
    (firstLt : first < length) (secondLt : second < length)
    (same : stepBack length head first = stepBack length head second) : first = second := by
  unfold stepBack at same
  split at same <;> split at same <;> omega

/-- Two elements of one window that share a slot are the same element. -/
theorem slot_injective {length first second : Nat} (ordered : first ≤ second)
    (window : second < first + length) (same : slot length first = slot length second) :
    first = second := by
  have divides : length ∣ (second + 1) - (first + 1) :=
    (Nat.modEq_iff_dvd' (by omega)).mp same
  have zero : (second + 1) - (first + 1) = 0 := Nat.eq_zero_of_dvd_of_lt divides (by omega)
  omega

/-- The newest element lies at the head; walking back by the difference of two
insertion numbers reaches the older one. -/
theorem stepBack_slot {length newest index : Nat} (positive : 0 < length)
    (ordered : index ≤ newest) (window : newest - index < length) :
    stepBack length (slot length newest) (newest - index) = slot length index := by
  have headLt := slot_lt positive newest
  have bounded := stepBack_lt headLt (newest - index)
  have back := stepBack_add_mod headLt window
  have forth : (slot length index + (newest - index)) % length = slot length newest := by
    unfold slot
    rw [Nat.mod_add_mod, show index + 1 + (newest - index) = newest + 1 by omega]
  have congruent : stepBack length (slot length newest) (newest - index) + (newest - index) ≡
      slot length index + (newest - index) [MOD length] := back.trans forth.symm
  have cancelled := Nat.ModEq.add_right_cancel' (newest - index) congruent
  exact Nat.ModEq.eq_of_lt_of_lt cancelled bounded (slot_lt positive index)

universe u v

/-- What a ring is for: the elements inserted and not yet taken, by number. -/
@[ext] structure Window (Element : Type u) where
  count : Nat
  held : Nat → Option Element

namespace Window

variable {Element : Type u}

def empty : Window Element where
  count := 0
  held := fun _ => none

/-- Insert the next element; the element `length` places older is overwritten. -/
def push (length : Nat) (window : Window Element) (element : Element) : Window Element where
  count := window.count + 1
  held := fun index =>
    if index = window.count then some element
    else if index + length = window.count then none
    else window.held index

/-- Take an element out of the window. -/
def take (window : Window Element) (index : Nat) : Window Element where
  count := window.count
  held := Function.update window.held index none

/-- Only elements inside the window are held. -/
def Bounded (length : Nat) (window : Window Element) : Prop :=
  ∀ index element, window.held index = some element →
    index < window.count ∧ window.count ≤ index + length

@[simp] theorem push_count (length : Nat) (window : Window Element) (element : Element) :
    (window.push length element).count = window.count + 1 := rfl

@[simp] theorem take_count (window : Window Element) (index : Nat) :
    (window.take index).count = window.count := rfl

theorem push_held_count (length : Nat) (window : Window Element) (element : Element) :
    (window.push length element).held window.count = some element := by
  simp only [push, if_pos]

/-- Insertion leaves every other element of the new window alone. -/
theorem push_held_of_lt {length : Nat} (window : Window Element) (element : Element)
    {index : Nat} (older : index < window.count) (inside : window.count < index + length) :
    (window.push length element).held index = window.held index := by
  simp only [push, if_neg (Nat.ne_of_lt older), if_neg (Nat.ne_of_gt inside)]

theorem push_held_eq_some {length : Nat} {window : Window Element} {element found : Element}
    {index : Nat} (held : (window.push length element).held index = some found) :
    (index = window.count ∧ found = element) ∨
      (index ≠ window.count ∧ index + length ≠ window.count ∧
        window.held index = some found) := by
  simp only [push] at held
  by_cases newest : index = window.count
  · rw [if_pos newest] at held
    exact Or.inl ⟨newest, (Option.some.inj held).symm⟩
  · rw [if_neg newest] at held
    by_cases oldest : index + length = window.count
    · rw [if_pos oldest] at held
      cases held
    · rw [if_neg oldest] at held
      exact Or.inr ⟨newest, oldest, held⟩

@[simp] theorem take_held_self (window : Window Element) (index : Nat) :
    (window.take index).held index = none := by
  simp only [take, Function.update_self]

theorem take_held_of_ne (window : Window Element) {index other : Nat} (different : other ≠ index) :
    (window.take index).held other = window.held other := by
  simp only [take, Function.update_of_ne different]

theorem take_held_eq_some {window : Window Element} {index other : Nat} {found : Element}
    (held : (window.take index).held other = some found) :
    other ≠ index ∧ window.held other = some found := by
  by_cases same : other = index
  · subst same
    rw [take_held_self] at held
    cases held
  · rw [take_held_of_ne window same] at held
    exact ⟨same, held⟩

theorem bounded_empty (length : Nat) : (empty : Window Element).Bounded length := by
  intro index element held
  cases held

theorem Bounded.push {length : Nat} (positive : 0 < length) {window : Window Element}
    (bounded : window.Bounded length) (element : Element) :
    (window.push length element).Bounded length := by
  intro index found held
  rcases push_held_eq_some held with ⟨newest, _⟩ | ⟨_, kept, old⟩
  · subst newest
    exact ⟨Nat.lt_succ_self _, by simp only [push_count]; omega⟩
  · have inside := bounded index found old
    exact ⟨by simp only [push_count]; omega, by simp only [push_count]; omega⟩

theorem Bounded.take {length : Nat} {window : Window Element} (bounded : window.Bounded length)
    (index : Nat) : (window.take index).Bounded length := by
  intro other found held
  exact bounded other found (take_held_eq_some held).2

/-! ## The elements under another form -/

/-- The window of what is made of each element and its number. -/
def map {Other : Type v} (window : Window Element) (form : Nat → Element → Other) :
    Window Other where
  count := window.count
  held := fun index => (window.held index).map (form index)

variable {Other : Type v} {form : Nat → Element → Other}

theorem map_held {window : Window Element} {index : Nat} {element : Element}
    (held : window.held index = some element) :
    (window.map form).held index = some (form index element) :=
  Option.map_eq_some_iff.mpr ⟨element, held, rfl⟩

theorem map_held_eq_some {window : Window Element} {index : Nat} {found : Other}
    (held : (window.map form).held index = some found) :
    ∃ element, window.held index = some element ∧ form index element = found :=
  Option.map_eq_some_iff.mp held

@[simp] theorem map_empty : (empty : Window Element).map form = empty := rfl

theorem map_push (length : Nat) (window : Window Element) (element : Element) :
    (window.push length element).map form =
      (window.map form).push length (form window.count element) := by
  ext1
  · rfl
  · funext index
    by_cases newest : index = window.count
    · simp [map, push, newest]
    · by_cases oldest : index + length = window.count
      · simp [map, push, newest, oldest]
      · simp [map, push, newest, oldest]

theorem map_take (window : Window Element) (number : Nat) :
    (window.take number).map form = (window.map form).take number := by
  ext1
  · rfl
  · funext index
    by_cases taken : index = number
    · simp only [map, take, taken, Function.update_self, Option.map_none]
    · simp only [map, take, Function.update_of_ne taken]

end Window

end Foundation
end Ipbench
