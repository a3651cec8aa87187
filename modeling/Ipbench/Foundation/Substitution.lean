import Mathlib.Data.List.Basic
import Mathlib.Data.List.Infix

namespace Ipbench
namespace Foundation

/-!
# Replacing a pattern from the left

`findSub` is the first place of a pattern in a text, and `replaceAll` puts
another text in place of the pattern, from the left and without looking at
what it has put in.
-/

universe u

variable {α : Type u} [DecidableEq α]

def findSub (pattern : List α) : List α → Option Nat
  | [] => if pattern = [] then some 0 else none
  | item :: rest =>
      if pattern <+: item :: rest then some 0
      else (findSub pattern rest).map Nat.succ

/-- Replace behind some items that belong to the last place of the pattern. -/
def replaceFrom (pattern insert : List α) : (skip : Nat) → List α → List α
  | _, [] => []
  | skip + 1, _ :: rest => replaceFrom pattern insert skip rest
  | 0, item :: rest =>
      if pattern <+: item :: rest then
        insert ++ replaceFrom pattern insert (pattern.length - 1) rest
      else item :: replaceFrom pattern insert 0 rest

def replaceAll (pattern insert text : List α) : List α :=
  replaceFrom pattern insert 0 text

variable {pattern insert text : List α}

@[simp] theorem replaceFrom_nil (skip : Nat) :
    replaceFrom pattern insert skip [] = [] := by
  cases skip <;> rfl

theorem replaceFrom_skip (skip : Nat) (text : List α) :
    replaceFrom pattern insert skip text = replaceAll pattern insert (text.drop skip) := by
  induction skip generalizing text with
  | zero => rfl
  | succ skip inductionHypothesis =>
      cases text with
      | nil => rfl
      | cons item rest => exact inductionHypothesis rest

theorem replaceAll_front (nonempty : pattern ≠ []) (behind : List α) :
    replaceAll pattern insert (pattern ++ behind) =
      insert ++ replaceAll pattern insert behind := by
  cases pattern with
  | nil => exact absurd rfl nonempty
  | cons first pattern =>
      have front : first :: pattern <+: first :: (pattern ++ behind) :=
        List.prefix_append (first :: pattern) behind
      unfold replaceAll
      rw [List.cons_append, replaceFrom, if_pos front, replaceFrom_skip, List.length_cons,
        Nat.add_sub_cancel, List.drop_left]
      rfl

theorem replaceAll_of_none (absent : findSub pattern text = none) :
    replaceAll pattern insert text = text := by
  induction text with
  | nil => rfl
  | cons item rest inductionHypothesis =>
      rw [findSub] at absent
      split at absent
      · cases absent
      · next other =>
          have later := inductionHypothesis (Option.map_eq_none_iff.mp absent)
          unfold replaceAll at later ⊢
          rw [replaceFrom, if_neg other, later]

/-- Replacing brings nothing that was in neither text. -/
theorem not_mem_replaceAll {item : α} (inText : item ∉ text) (inInsert : item ∉ insert) :
    item ∉ replaceAll pattern insert text := by
  suffices all : ∀ skip, item ∉ replaceFrom pattern insert skip text from all 0
  induction text with
  | nil =>
      intro skip
      rw [replaceFrom_nil]
      exact List.not_mem_nil
  | cons first rest inductionHypothesis =>
      rcases List.ne_and_not_mem_of_not_mem_cons inText with ⟨here, later⟩
      intro skip
      cases skip with
      | succ skip => exact inductionHypothesis later skip
      | zero =>
          rw [replaceFrom]
          split
          · exact List.not_mem_append inInsert (inductionHypothesis later _)
          · exact List.not_mem_cons_of_ne_of_not_mem here (inductionHypothesis later 0)

/-- The text around the first place of the pattern. -/
theorem findSub_split {place : Nat} (found : findSub pattern text = some place) :
    ∃ front behind, text = front ++ (pattern ++ behind) ∧ front.length = place ∧
      (pattern ≠ [] → ∀ insert, replaceAll pattern insert text =
        front ++ (insert ++ replaceAll pattern insert behind)) := by
  induction text generalizing place with
  | nil =>
      rw [findSub] at found
      split at found
      · next empty =>
          cases found
          exact ⟨[], [], by rw [empty]; rfl, rfl, fun more => absurd empty more⟩
      · cases found
  | cons item rest inductionHypothesis =>
      rw [findSub] at found
      split at found
      · next here =>
          cases found
          rcases here with ⟨behind, whole⟩
          refine ⟨[], behind, whole.symm, rfl, fun nonempty insert => ?_⟩
          rw [← whole, replaceAll_front nonempty]
          rfl
      · next other =>
          rcases Option.map_eq_some_iff.mp found with ⟨place, later, rfl⟩
          rcases inductionHypothesis later with ⟨front, behind, whole, length, replaced⟩
          refine ⟨item :: front, behind, by rw [whole]; rfl, by rw [← length]; rfl,
            fun nonempty insert => ?_⟩
          have rewritten := replaced nonempty insert
          unfold replaceAll at rewritten ⊢
          rw [replaceFrom, if_neg other, rewritten]
          rfl

end Foundation
end Ipbench
