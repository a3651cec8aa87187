import Mathlib.Data.List.Basic
import Mathlib.Data.List.TakeWhile

namespace Ipbench
namespace Foundation

/-!
# Words between separators

The words of a text are its longest parts without a separator.  One equation
finds the first of them the way a scan does: skip separators, then take what
stands before the next one.
-/

universe u

variable {α : Type u} (separates : α → Bool)

/-- The parts of a text that have no separator. -/
def wordsBetween (text : List α) : List (List α) :=
  (text.splitOnP separates).filter fun word => !word.isEmpty

@[simp] theorem wordsBetween_nil : wordsBetween separates ([] : List α) = [] := by
  rw [wordsBetween, List.splitOnP_nil]
  rfl

theorem wordsBetween_skip {front : List α} (all : ∀ item ∈ front, separates item = true)
    (text : List α) : wordsBetween separates (front ++ text) = wordsBetween separates text := by
  induction front with
  | nil => rfl
  | cons item front inductionHypothesis =>
      rcases List.forall_mem_cons.mp all with ⟨here, later⟩
      rw [← inductionHypothesis later, List.cons_append, wordsBetween,
        List.splitOnP_cons_eq_if_modifyHead, if_pos here]
      rfl

theorem wordsBetween_single {word : List α} (nonempty : word ≠ [])
    (none : ∀ item ∈ word, separates item = false) : wordsBetween separates word = [word] := by
  rw [wordsBetween, List.splitOnP_eq_singleton none]
  simp [nonempty]

theorem wordsBetween_word {word : List α} (nonempty : word ≠ [])
    (none : ∀ item ∈ word, separates item = false) {separator : α}
    (ends : separates separator = true) (rest : List α) :
    wordsBetween separates (word ++ separator :: rest) = word :: wordsBetween separates rest := by
  rw [wordsBetween, List.splitOnP_append_cons_of_forall_mem none separator ends]
  simp [nonempty, wordsBetween]

/-- How a text begins: with nothing but separators, or with a word, at its end or before a
separator. -/
inductive FirstWord : List α → Prop where
  | blank {front : List α} (all : ∀ item ∈ front, separates item = true) : FirstWord front
  | last {front word : List α} (all : ∀ item ∈ front, separates item = true)
      (nonempty : word ≠ []) (none : ∀ item ∈ word, separates item = false) :
      FirstWord (front ++ word)
  | before {front word rest : List α} {separator : α}
      (all : ∀ item ∈ front, separates item = true) (nonempty : word ≠ [])
      (none : ∀ item ∈ word, separates item = false) (ends : separates separator = true) :
      FirstWord (front ++ (word ++ separator :: rest))

theorem firstWord (text : List α) : FirstWord separates text := by
  have all : ∀ item ∈ text.takeWhile separates, separates item = true :=
    fun item member => List.mem_takeWhile_imp member
  have whole := text.takeWhile_append_dropWhile (p := separates)
  cases behind : text.dropWhile separates with
  | nil =>
      rw [behind, List.append_nil] at whole
      rw [← whole]
      exact .blank all
  | cons first rest =>
      have starts : separates first = false := by
        have head := List.head?_dropWhile_not separates text
        rw [behind] at head
        simpa using head
      let word := (first :: rest).takeWhile fun item => !separates item
      have nonempty : word ≠ [] := by simp [word, starts]
      have none : ∀ item ∈ word, separates item = false := fun item member => by
        simpa using List.mem_takeWhile_imp member
      have parts := (first :: rest).takeWhile_append_dropWhile (p := fun item => !separates item)
      cases later : (first :: rest).dropWhile fun item => !separates item with
      | nil =>
          rw [later, List.append_nil] at parts
          rw [← whole, behind, ← parts]
          exact .last all nonempty none
      | cons separator others =>
          have ends : separates separator = true := by
            have head := List.head?_dropWhile_not (fun item => !separates item) (first :: rest)
            rw [later] at head
            simpa using head
          rw [later] at parts
          rw [← whole, behind, ← parts]
          exact .before all nonempty none ends

end Foundation
end Ipbench
