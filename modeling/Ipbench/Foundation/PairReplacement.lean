import Mathlib.Data.List.Infix
import Mathlib.Tactic.Common

namespace Ipbench
namespace Foundation

/-!
# Replacing two items in a row

A mark of two items is replaced by a text, from the left.  A list without the mark stays
as it is.  Another list stays only if the text is the mark itself, as its length is
changed by every other length of the text.
-/

variable {α : Type} [DecidableEq α]

/-- Put a text in the place of each mark. -/
def replacePair (first second : α) (text : List α) : List α → List α
  | [] => []
  | [item] => [item]
  | item :: next :: rest =>
      if item = first ∧ next = second then text ++ replacePair first second text rest
      else item :: replacePair first second text (next :: rest)

variable {first second : α} {text : List α}

theorem replacePair_mark (rest : List α) :
    replacePair first second text (first :: second :: rest) =
      text ++ replacePair first second text rest := by
  rw [replacePair, if_pos ⟨rfl, rfl⟩]

/-- Nothing is replaced before the first item of a mark. -/
theorem replacePair_cons {item : α} (other : item ≠ first) (rest : List α) :
    replacePair first second text (item :: rest) =
      item :: replacePair first second text rest := by
  cases rest with
  | nil => rfl
  | cons next rest => rw [replacePair, if_neg fun mark => other mark.1]

theorem replacePair_append {front : List α} (absent : first ∉ front) (rest : List α) :
    replacePair first second text (front ++ rest) =
      front ++ replacePair first second text rest := by
  induction front with
  | nil => rfl
  | cons item front inductionHypothesis =>
      rw [List.mem_cons, not_or] at absent
      rw [List.cons_append, replacePair_cons (Ne.symm absent.1), inductionHypothesis absent.2,
        List.cons_append]

theorem replacePair_of_not_mem {list : List α} (absent : first ∉ list) :
    replacePair first second text list = list := by
  have whole : replacePair first second text (list ++ []) = list ++ [] :=
    replacePair_append absent []
  rwa [List.append_nil] at whole

/-- Every mark changes the length by the same number. -/
theorem replacePair_length (first second : α) (text list : List α) :
    ∃ marks, (replacePair first second text list).length + marks * 2 =
      list.length + marks * text.length := by
  induction list using replacePair.induct first second with
  | case1 => exact ⟨0, by rw [replacePair, Nat.zero_mul, Nat.zero_mul]⟩
  | case2 item => exact ⟨0, by rw [replacePair, Nat.zero_mul, Nat.zero_mul]⟩
  | case3 item next rest mark inductionHypothesis =>
      rcases inductionHypothesis with ⟨marks, lengths⟩
      refine ⟨marks + 1, ?_⟩
      rw [replacePair, if_pos mark, List.length_append, Nat.succ_mul, Nat.succ_mul]
      simp only [List.length_cons]
      omega
  | case4 item next rest other inductionHypothesis =>
      rcases inductionHypothesis with ⟨marks, lengths⟩
      refine ⟨marks, ?_⟩
      rw [replacePair, if_neg other]
      simp only [List.length_cons] at lengths ⊢
      omega

theorem replacePair_self (list : List α) :
    replacePair first second [first, second] list = list := by
  induction list using replacePair.induct first second with
  | case1 => rfl
  | case2 item => rfl
  | case3 item next rest mark inductionHypothesis =>
      rw [replacePair, if_pos mark, inductionHypothesis, mark.1, mark.2]
      rfl
  | case4 item next rest other inductionHypothesis =>
      rw [replacePair, if_neg other, inductionHypothesis]

/-- A replaced mark leaves the same list only for the mark itself. -/
theorem text_of_replacePair_eq {rest : List α}
    (same : text ++ replacePair first second text rest = first :: second :: rest) :
    text = [first, second] := by
  rcases replacePair_length first second text rest with ⟨marks, changed⟩
  have lengths := congrArg List.length same
  rw [List.length_append, List.length_cons, List.length_cons] at lengths
  have product : (marks + 1) * text.length = (marks + 1) * 2 := by
    rw [Nat.succ_mul, Nat.succ_mul]
    omega
  have two : text.length = 2 := Nat.eq_of_mul_eq_mul_left (Nat.succ_pos marks) product
  have parts : text ++ replacePair first second text rest = [first, second] ++ rest := same
  exact (List.append_inj parts two).1

theorem replacePair_eq_self_iff (list : List α) :
    replacePair first second text list = list ↔
      ¬ [first, second] <:+: list ∨ text = [first, second] := by
  induction list using replacePair.induct first second with
  | case1 => simp [replacePair]
  | case2 item =>
      have shorter : ¬ [first, second] <:+: [item] := fun within =>
        absurd within.length_le (by simp)
      exact iff_of_true rfl (Or.inl shorter)
  | case3 item next rest mark inductionHypothesis =>
      rw [mark.1, mark.2, replacePair_mark]
      constructor
      · exact fun same => Or.inr (text_of_replacePair_eq same)
      · intro either
        rcases either with without | same
        · exact absurd (List.prefix_append [first, second] rest).isInfix without
        · rw [same, replacePair_self]
          rfl
  | case4 item next rest other inductionHypothesis =>
      have elsewhere : [first, second] <:+: item :: next :: rest ↔
          [first, second] <:+: next :: rest := by
        rw [List.infix_cons_iff]
        refine or_iff_right fun front => other ?_
        rw [List.cons_prefix_cons, List.cons_prefix_cons] at front
        exact ⟨front.1.symm, front.2.1.symm⟩
      rw [replacePair, if_neg other, List.cons_inj_right, inductionHypothesis, elsewhere]

end Foundation
end Ipbench
