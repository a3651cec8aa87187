import Ipbench.Lib.Splitting

namespace Ipbench
namespace Lib

/-!
# Loops over tokens and what they write

The callers of `next_token` are loops with a buffer of fixed size, into which every
call copies a token and a zero byte.  A loop ends when there are no more tokens, or in
its body.  What a call writes depends on nothing but the token, so the bounds of the
buffer are a matter of the tokens that the loop comes to.
-/

/-- The offsets that are written while a token is copied, and that of the zero byte. -/
def copyOffsets (sep : List UInt8) : (quoted : Bool) → (offset : Nat) → List UInt8 → List Nat
  | _, offset, [] => [offset]
  | quoted, offset, byte :: rest =>
      if quoted = false ∧ byte ∈ sep then [offset]
      else if byte = 34 then copyOffsets sep (!quoted) offset rest
      else offset :: copyOffsets sep quoted (offset + 1) rest

/-- The offsets in the buffer that one call writes. -/
def tokenOffsets (sep text : List UInt8) : List Nat :=
  match text.dropWhile fun byte => decide (byte ∈ sep) with
  | [] => []
  | first :: rest => copyOffsets sep false 0 (first :: rest)

section Loop

variable {State : Type} (sep : List UInt8) (body : State → List UInt8 → Option State)

/-- A loop `while (next_token(..))` of at most so many turns, with what it writes.  The
body ends the loop with `none`. -/
def tokenLoopFrom : (fuel : Nat) → State → List UInt8 → List Nat
  | 0, _, _ => []
  | fuel + 1, state, text =>
      match nextToken sep text with
      | none => []
      | some (token, rest) =>
          tokenOffsets sep text ++
            match body state token with
            | none => []
            | some next => tokenLoopFrom fuel next rest

def tokenLoop (state : State) (text : List UInt8) : List Nat :=
  tokenLoopFrom sep body text.length state text

/-- The tokens that a loop comes to. -/
def reachedTokens : State → List (List UInt8) → List (List UInt8)
  | _, [] => []
  | state, token :: rest =>
      token ::
        match body state token with
        | none => []
        | some next => reachedTokens next rest

/-! ## The writes of one call -/

theorem copyOffsets_eq (quoted : Bool) (offset : Nat) (text : List UInt8) :
    copyOffsets sep quoted offset text =
      List.range' offset ((copyToken sep quoted text).1.length + 1) := by
  induction text generalizing quoted offset with
  | nil => rfl
  | cons byte rest inductionHypothesis =>
      rw [copyOffsets, copyToken]
      by_cases cut : quoted = false ∧ byte ∈ sep
      · rw [if_pos cut, if_pos cut]
        rfl
      · rw [if_neg cut, if_neg cut]
        by_cases mark : byte = 34
        · rw [if_pos mark, if_pos mark]
          exact inductionHypothesis _ offset
        · rw [if_neg mark, if_neg mark, inductionHypothesis]
          rfl

/-- A call writes the bytes of its token and one more. -/
theorem tokenOffsets_eq {text token rest : List UInt8}
    (next : nextToken sep text = some (token, rest)) :
    tokenOffsets sep text = List.range (token.length + 1) := by
  unfold nextToken at next
  unfold tokenOffsets
  cases remaining : text.dropWhile fun byte => decide (byte ∈ sep) with
  | nil =>
      rw [remaining] at next
      cases next
  | cons first later =>
      rw [remaining] at next
      have copied := congrArg Prod.fst (Option.some.inj next)
      dsimp only at copied ⊢
      rw [copyOffsets_eq, copied, List.range_eq_range']

/-! ## The writes of a loop -/

theorem reachedTokens_sublist (state : State) (tokens : List (List UInt8)) :
    (reachedTokens body state tokens).Sublist tokens := by
  induction tokens generalizing state with
  | nil => exact List.Sublist.refl _
  | cons token rest inductionHypothesis =>
      rw [reachedTokens]
      apply List.Sublist.cons_cons
      cases body state token with
      | none => exact List.nil_sublist rest
      | some next => exact inductionHypothesis next

theorem tokenLoopFrom_eq {fuel : Nat} {state : State} {text : List UInt8}
    (enough : text.length ≤ fuel) :
    tokenLoopFrom sep body fuel state text =
      (reachedTokens body state (tokens sep text)).flatMap fun token =>
        List.range (token.length + 1) := by
  induction fuel generalizing state text with
  | zero =>
      rw [List.eq_nil_of_length_eq_zero (Nat.le_zero.mp enough)]
      rfl
  | succ fuel inductionHypothesis =>
      rw [tokenLoopFrom, tokens_eq]
      cases next : nextToken sep text with
      | none => rfl
      | some found =>
          rcases found with ⟨token, rest⟩
          have shorter := nextToken_rest_length next
          dsimp only
          rw [tokenOffsets_eq sep next, reachedTokens, List.flatMap_cons]
          congr 1
          cases body state token with
          | none => rfl
          | some state => exact inductionHypothesis (by omega)

/-- All writes of a loop are inside a buffer exactly if the tokens that it comes to are
shorter than the buffer. -/
theorem tokenLoop_inside_iff (unmarked : 34 ∉ sep) (size : Nat) (state : State)
    (text : List UInt8) :
    (∀ offset ∈ tokenLoop sep body state text, offset < size) ↔
      ∀ token ∈ reachedTokens body state (splitTokens sep text), token.length < size := by
  rw [tokenLoop, tokenLoopFrom_eq sep body (Nat.le_refl _), tokens_eq_splitTokens unmarked,
    List.forall_mem_flatMap]
  apply forall₂_congr
  intro token _
  constructor
  · exact fun inside => inside _ (List.mem_range.mpr (Nat.lt_succ_self _))
  · intro shorter offset member
    rw [List.mem_range] at member
    omega

end Loop

/-! ## Short texts -/

theorem copyToken_length_le (sep : List UInt8) (quoted : Bool) (text : List UInt8) :
    (copyToken sep quoted text).1.length ≤ text.length := by
  induction text generalizing quoted with
  | nil => exact Nat.le_refl _
  | cons byte rest inductionHypothesis =>
      rw [copyToken]
      split
      · exact Nat.zero_le _
      · split
        · exact Nat.le_succ_of_le (inductionHypothesis _)
        · exact Nat.succ_le_succ (inductionHypothesis _)

theorem nextToken_token_length {sep text token rest : List UInt8}
    (next : nextToken sep text = some (token, rest)) : token.length ≤ text.length := by
  unfold nextToken at next
  have suffix : (text.dropWhile fun byte => decide (byte ∈ sep)) <:+ text := List.dropWhile_suffix _
  cases remaining : text.dropWhile fun byte => decide (byte ∈ sep) with
  | nil =>
      rw [remaining] at next
      cases next
  | cons first later =>
      rw [remaining] at next suffix
      have copied := copyToken_length_le sep false (first :: later)
      rw [Option.some.inj next] at copied
      exact Nat.le_trans copied suffix.length_le

theorem token_length_le {sep : List UInt8} (text : List UInt8) :
    ∀ token ∈ tokens sep text, token.length ≤ text.length := by
  induction length : text.length using Nat.strongRecOn generalizing text with
  | ind count inductionHypothesis =>
      intro token member
      rw [tokens_eq] at member
      cases next : nextToken sep text with
      | none =>
          rw [next] at member
          exact absurd member List.not_mem_nil
      | some found =>
          rcases found with ⟨first, rest⟩
          have shorter := nextToken_rest_length next
          rw [next] at member
          rcases List.mem_cons.mp member with rfl | later
          · exact length ▸ nextToken_token_length next
          · have inside := inductionHypothesis _ (length ▸ shorter) rest rfl token later
            omega

end Lib
end Ipbench
