import Ipbench.Lib.NextToken

namespace Ipbench
namespace Lib

/-!
# Tokens as pieces of the string

The tokens of repeated calls of `next_token` are the pieces of the whole string
between the separators that no quotation marks enclose, without the empty ones and
without the marks.  The function begins each call outside of quotation marks.  This is
where the string is after an unquoted separator, and a token ends at no other place.
-/

/-! ## The pieces of a string -/

/-- Every byte, and whether an odd number of quotation marks stands before it. -/
def quoteMarks : (quoted : Bool) → List UInt8 → List (UInt8 × Bool)
  | _, [] => []
  | quoted, byte :: rest =>
      (byte, quoted) :: quoteMarks (if byte = 34 then !quoted else quoted) rest

/-- A separator outside of quotation marks. -/
def isCut (sep : List UInt8) (entry : UInt8 × Bool) : Bool :=
  !entry.2 && decide (entry.1 ∈ sep)

/-- A piece without its quotation marks. -/
def unquote (piece : List (UInt8 × Bool)) : List UInt8 :=
  (piece.map Prod.fst).filter (· ≠ 34)

/-- The pieces that are not empty, without quotation marks. -/
def unquotedPieces (pieces : List (List (UInt8 × Bool))) : List (List UInt8) :=
  (pieces.filter (· ≠ [])).map unquote

/-- Cut a string, drop the empty pieces and delete the quotation marks. -/
def splitTokens (sep text : List UInt8) : List (List UInt8) :=
  unquotedPieces ((quoteMarks false text).splitOnP (isCut sep))

/-- Repeated calls until one returns `False`, and the tokens that they copy. -/
inductive TokenCalls (sep : List UInt8) : List UInt8 → List (List UInt8) → Prop
  | done {text : List UInt8} (last : nextToken sep text = none) : TokenCalls sep text []
  | more {text token rest : List UInt8} {later : List (List UInt8)}
      (next : nextToken sep text = some (token, rest)) (calls : TokenCalls sep rest later) :
      TokenCalls sep text (token :: later)

/-! ## One piece -/

@[simp] theorem unquotedPieces_nil (pieces : List (List (UInt8 × Bool))) :
    unquotedPieces ([] :: pieces) = unquotedPieces pieces := rfl

theorem unquotedPieces_cons {piece : List (UInt8 × Bool)} (some_ : piece ≠ [])
    (pieces : List (List (UInt8 × Bool))) :
    unquotedPieces (piece :: pieces) = unquote piece :: unquotedPieces pieces := by
  unfold unquotedPieces
  rw [List.filter_cons_of_pos (by simpa using some_), List.map_cons]

section Pieces

variable {sep : List UInt8} (unmarked : 34 ∉ sep)
include unmarked

/-- The state behind a separator is that before it. -/
theorem quoteMarks_separator {byte : UInt8} (separator : byte ∈ sep) (quoted : Bool)
    (rest : List UInt8) :
    quoteMarks quoted (byte :: rest) = (byte, quoted) :: quoteMarks quoted rest := by
  have other : byte ≠ 34 := by
    rintro rfl
    exact unmarked separator
  rw [quoteMarks, if_neg other]

/-- One call copies the first piece, and the next call begins with the others. -/
theorem copyToken_pieces (quoted : Bool) (text : List UInt8) :
    ∃ piece others, (quoteMarks quoted text).splitOnP (isCut sep) = piece :: others ∧
      (copyToken sep quoted text).1 = unquote piece ∧
      unquotedPieces others = splitTokens sep (copyToken sep quoted text).2 := by
  induction text generalizing quoted with
  | nil => exact ⟨[], [], rfl, rfl, rfl⟩
  | cons byte rest inductionHypothesis =>
      by_cases cut : quoted = false ∧ byte ∈ sep
      · obtain ⟨outside, separator⟩ := cut
        subst outside
        refine ⟨[], (quoteMarks false rest).splitOnP (isCut sep), ?_, ?_, ?_⟩
        · rw [quoteMarks_separator unmarked separator, List.splitOnP_cons_eq_if_modifyHead,
            if_pos (by simpa [isCut] using separator)]
        · rw [copyToken, if_pos ⟨rfl, separator⟩]
          rfl
        · rw [copyToken, if_pos ⟨rfl, separator⟩]
          rfl
      · have kept : isCut sep (byte, quoted) = false := by
          cases quoted with
          | true => rfl
          | false => simpa [isCut] using cut
        rcases inductionHypothesis (if byte = 34 then !quoted else quoted) with
          ⟨piece, others, pieces, copied, later⟩
        refine ⟨(byte, quoted) :: piece, others, ?_, ?_, ?_⟩
        · rw [quoteMarks, List.splitOnP_cons_eq_if_modifyHead, if_neg (by simp [kept]), pieces]
          rfl
        · rw [copyToken, if_neg cut]
          by_cases mark : byte = 34
          · rw [if_pos mark] at copied ⊢
            rw [copied, mark]
            rfl
          · rw [if_neg mark] at copied ⊢
            dsimp only
            rw [copied, unquote, unquote, List.map_cons,
              List.filter_cons_of_pos (by simpa using mark)]
        · rw [copyToken, if_neg cut]
          by_cases mark : byte = 34
          · rw [if_pos mark] at later ⊢
            exact later
          · rw [if_neg mark] at later ⊢
            exact later

theorem splitTokens_dropWhile (text : List UInt8) :
    splitTokens sep (text.dropWhile fun byte => decide (byte ∈ sep)) = splitTokens sep text := by
  induction text with
  | nil => rfl
  | cons byte rest inductionHypothesis =>
      by_cases separator : byte ∈ sep
      · have dropped : ((byte :: rest).dropWhile fun byte => decide (byte ∈ sep)) =
            rest.dropWhile fun byte => decide (byte ∈ sep) :=
          List.dropWhile_cons_of_pos (by simpa using separator)
        rw [dropped, inductionHypothesis, splitTokens, splitTokens,
          quoteMarks_separator unmarked separator, List.splitOnP_cons_eq_if_modifyHead,
          if_pos (by simpa [isCut] using separator), unquotedPieces_nil]
      · rw [List.dropWhile_cons_of_neg (by simpa using separator)]

/-- A call returns the first token, or there is none. -/
theorem splitTokens_eq (text : List UInt8) :
    splitTokens sep text =
      match nextToken sep text with
      | none => []
      | some (token, rest) => token :: splitTokens sep rest := by
  have skipped := splitTokens_dropWhile unmarked text
  unfold nextToken
  cases remaining : text.dropWhile fun byte => decide (byte ∈ sep) with
  | nil =>
      rw [remaining] at skipped
      rw [← skipped]
      rfl
  | cons first later =>
      have other : first ∉ sep := by
        have head := List.head_dropWhile_not (fun byte => decide (byte ∈ sep))
          (show (text.dropWhile fun byte => decide (byte ∈ sep)) ≠ [] by simp [remaining])
        simpa [remaining] using head
      rcases copyToken_pieces unmarked false (first :: later) with
        ⟨piece, others, pieces, copied, rest⟩
      have some_ : piece ≠ [] := by
        rintro rfl
        rw [quoteMarks, List.splitOnP_cons_eq_if_modifyHead,
          if_neg (by simpa [isCut] using other)] at pieces
        cases parts : (quoteMarks (if first = 34 then !false else false) later).splitOnP
            (isCut sep) with
        | nil => exact List.splitOnP_ne_nil _ _ parts
        | cons head tail =>
            rw [parts] at pieces
            cases pieces
      rw [remaining] at skipped
      dsimp only
      rw [← skipped, splitTokens, pieces, unquotedPieces_cons some_, copied, rest]

/-- What a loop copies are the tokens of the split string. -/
theorem tokens_eq_splitTokens (text : List UInt8) : tokens sep text = splitTokens sep text := by
  induction length : text.length using Nat.strongRecOn generalizing text with
  | ind count inductionHypothesis =>
      rw [tokens_eq, splitTokens_eq unmarked]
      cases next : nextToken sep text with
      | none => rfl
      | some found =>
          rcases found with ⟨token, rest⟩
          have shorter := nextToken_rest_length next
          exact congrArg (List.cons token) (inductionHypothesis _ (length ▸ shorter) rest rfl)

/-- For every string and all separators other than the quotation mark: the repeated
calls come to an end, and exactly the tokens of the split string have been copied. -/
theorem tokenCalls_iff (text : List UInt8) (result : List (List UInt8)) :
    TokenCalls sep text result ↔ result = splitTokens sep text := by
  constructor
  · intro calls
    induction calls with
    | done last => rw [splitTokens_eq unmarked, last]
    | more next calls inductionHypothesis =>
        rw [splitTokens_eq unmarked, next, inductionHypothesis]
  · rintro rfl
    induction length : text.length using Nat.strongRecOn generalizing text with
    | ind count inductionHypothesis =>
        rw [splitTokens_eq unmarked]
        cases next : nextToken sep text with
        | none => exact .done next
        | some found =>
            rcases found with ⟨token, rest⟩
            have shorter := nextToken_rest_length next
            exact .more next (inductionHypothesis _ (length ▸ shorter) rest rfl)

end Pieces

/-- A separator between quotation marks belongs to its token, and marks alone are an
empty one. -/
theorem tokenCalls_quoted :
    TokenCalls [44] [97, 34, 44, 34, 98, 44, 44, 34, 34] [[97, 44, 98], []] :=
  (tokenCalls_iff (by decide) _ _).mpr (by decide)

end Lib
end Ipbench
