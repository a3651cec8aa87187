import Mathlib.Data.List.Basic
import Mathlib.Tactic.Common

namespace Ipbench
namespace Lib

/-!
# Tokens of an argument string

`next_token` of the shared library cuts a string at separators.  Quotation
marks are left out of the token, and a separator between them belongs to it.
The function copies to a buffer of the caller without knowing its size.
-/

/-- Copy a token, and what is left behind its separator. -/
def copyToken (sep : List UInt8) : (quoted : Bool) → List UInt8 → List UInt8 × List UInt8
  | _, [] => ([], [])
  | quoted, byte :: rest =>
      if quoted = false ∧ byte ∈ sep then ([], rest)
      else if byte = 34 then copyToken sep (!quoted) rest
      else
        let copied := copyToken sep quoted rest
        (byte :: copied.1, copied.2)

/-- `next_token`; `none` is the result `False`. -/
def nextToken (sep text : List UInt8) : Option (List UInt8 × List UInt8) :=
  match text.dropWhile fun byte => decide (byte ∈ sep) with
  | [] => none
  | first :: rest => some (copyToken sep false (first :: rest))

/-- The tokens of at most so many calls. -/
def tokensFrom (sep : List UInt8) : (fuel : Nat) → List UInt8 → List (List UInt8)
  | 0, _ => []
  | fuel + 1, text =>
      match nextToken sep text with
      | none => []
      | some (token, rest) => token :: tokensFrom sep fuel rest

/-- What the calls of a loop `while (next_token(..))` copy. -/
def tokens (sep text : List UInt8) : List (List UInt8) :=
  tokensFrom sep text.length text

theorem copyToken_rest_length (sep : List UInt8) (quoted : Bool) (text : List UInt8) :
    (copyToken sep quoted text).2.length ≤ text.length := by
  induction text generalizing quoted with
  | nil => exact Nat.le_refl _
  | cons byte rest inductionHypothesis =>
      rw [copyToken]
      split
      · exact Nat.le_succ _
      · split
        · exact Nat.le_succ_of_le (inductionHypothesis _)
        · exact Nat.le_succ_of_le (inductionHypothesis _)

/-- A token that begins with another byte than a separator uses this byte up. -/
theorem copyToken_first_length {sep : List UInt8} {first : UInt8} (other : first ∉ sep)
    (later : List UInt8) : (copyToken sep false (first :: later)).2.length ≤ later.length := by
  rw [copyToken, if_neg fun separator => other separator.2]
  split
  · exact copyToken_rest_length sep _ later
  · exact copyToken_rest_length sep _ later

theorem nextToken_rest_length {sep text token rest : List UInt8}
    (next : nextToken sep text = some (token, rest)) : rest.length < text.length := by
  unfold nextToken at next
  have suffix : (text.dropWhile fun byte => decide (byte ∈ sep)) <:+ text := List.dropWhile_suffix _
  have shorter := suffix.length_le
  cases remaining : text.dropWhile fun byte => decide (byte ∈ sep) with
  | nil =>
      rw [remaining] at next
      cases next
  | cons first later =>
      have more : (text.dropWhile fun byte => decide (byte ∈ sep)) ≠ [] := by simp [remaining]
      have head := List.head_dropWhile_not (fun byte => decide (byte ∈ sep)) more
      have other : first ∉ sep := by simpa [remaining] using head
      rw [remaining] at next shorter
      have copied := copyToken_first_length other later
      rw [show copyToken sep false (first :: later) = (token, rest) from Option.some.inj next]
        at copied
      exact Nat.lt_of_le_of_lt copied shorter

theorem tokensFrom_eq (sep : List UInt8) {fuel more : Nat} {text : List UInt8}
    (enough : text.length ≤ fuel) (alsoEnough : text.length ≤ more) :
    tokensFrom sep fuel text = tokensFrom sep more text := by
  induction fuel generalizing more text with
  | zero =>
      have empty : text = [] := List.eq_nil_of_length_eq_zero (Nat.le_zero.mp enough)
      subst empty
      cases more with
      | zero => rfl
      | succ more => rfl
  | succ fuel inductionHypothesis =>
      cases more with
      | zero =>
          have empty : text = [] := List.eq_nil_of_length_eq_zero (Nat.le_zero.mp alsoEnough)
          subst empty
          rfl
      | succ more =>
          rw [tokensFrom, tokensFrom]
          cases next : nextToken sep text with
          | none => rfl
          | some found =>
              rcases found with ⟨token, rest⟩
              have shorter := nextToken_rest_length next
              exact congrArg (List.cons token)
                (inductionHypothesis (by omega) (by omega))

/-- The fuel suffices: the loop goes on until a call finds nothing. -/
theorem tokens_eq (sep text : List UInt8) :
    tokens sep text =
      match nextToken sep text with
      | none => []
      | some (token, rest) => token :: tokens sep rest := by
  unfold tokens
  cases text with
  | nil => rfl
  | cons first later =>
      rw [List.length_cons, tokensFrom]
      cases next : nextToken sep (first :: later) with
      | none => rfl
      | some found =>
          rcases found with ⟨token, rest⟩
          have shorter := nextToken_rest_length next
          exact congrArg (List.cons token)
            (tokensFrom_eq sep (Nat.le_of_lt_succ shorter) (Nat.le_refl _))

end Lib
end Ipbench
