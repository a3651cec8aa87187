import Ipbench.Foundation.CText

namespace Ipbench
namespace Foundation

/-!
# Formats with one conversion

A format of `sscanf` that has a literal text, one conversion and a `%n` behind it.  The
end of the input before the conversion is done and a text that does not match are two
results.  A conversion takes as much of the text as it can, so what is stored and what is
left are determined by where it has to stop.
-/

/-- The result: EOF, 0, or 1 with the stored text and what is left of the input. -/
inductive Scan where
  | ended
  | failed
  | stored (value rest : List UInt8)
deriving DecidableEq, Repr

/-- The literal text of a format, and the conversion behind it. -/
def scanLiteral (conversion : List UInt8 → Scan) : List UInt8 → List UInt8 → Scan
  | [], text => conversion text
  | _ :: _, [] => .ended
  | first :: more, byte :: text =>
      if byte = first then scanLiteral conversion more text else .failed

/-- The conversions of unsigned numbers skip white space and take a sign. -/
def scanUnsigned (text : List UInt8) : Scan :=
  match text.dropWhile isSpaceByte with
  | [] => .ended
  | first :: rest =>
      let sign := if first = 43 ∨ first = 45 then [first] else []
      let digits := if first = 43 ∨ first = 45 then rest else first :: rest
      if digits.takeWhile isDigitByte = [] then .failed
      else .stored (sign ++ digits.takeWhile isDigitByte) (digits.dropWhile isDigitByte)

/-- A conversion `%width[^..]`. -/
def scanSet (width : Nat) (excluded : List UInt8) (text : List UInt8) : Scan :=
  if text = [] then .ended
  else
    let name := (text.takeWhile fun byte => decide (byte ∉ excluded)).take width
    if name = [] then .failed else .stored name (text.drop name.length)

/-- A sign, if there is one, and some digits. -/
def IsNumber (value : List UInt8) : Prop :=
  ∃ sign digits, value = sign ++ digits ∧ (sign = [] ∨ sign = [43] ∨ sign = [45]) ∧
    digits ≠ [] ∧ ∀ byte ∈ digits, isDigitByte byte = true

/-- The front of a text up to where a condition ends. -/
theorem takeWhile_dropWhile_iff {α : Type} {condition : α → Bool} {text front rest : List α} :
    (text.takeWhile condition = front ∧ text.dropWhile condition = rest) ↔
      text = front ++ rest ∧ (∀ item ∈ front, condition item = true) ∧
        ∀ item, rest.head? = some item → condition item = false := by
  constructor
  · rintro ⟨rfl, rfl⟩
    refine ⟨(List.takeWhile_append_dropWhile).symm, fun item member =>
      List.mem_takeWhile_imp member, ?_⟩
    intro item first
    have stopped := List.head?_dropWhile_not condition text
    rw [first] at stopped
    simpa using stopped
  · rintro ⟨rfl, all, stop⟩
    rw [List.takeWhile_append_of_pos all, List.dropWhile_append_of_pos all]
    cases rest with
    | nil => simp
    | cons item rest => simp [stop item rfl]

theorem scanLiteral_eq_stored_iff {conversion : List UInt8 → Scan}
    {front text value rest : List UInt8} :
    scanLiteral conversion front text = .stored value rest ↔
      ∃ behind, text = front ++ behind ∧ conversion behind = .stored value rest := by
  induction front generalizing text with
  | nil => simp [scanLiteral]
  | cons first more inductionHypothesis =>
      cases text with
      | nil => simp [scanLiteral]
      | cons byte text =>
          rw [scanLiteral]
          split
          · rename_i same
            rw [inductionHypothesis, same]
            simp
          · rename_i other
            simp [other]

/-- A format whose literal text begins with another byte fails. -/
theorem scanLiteral_of_head?_ne {conversion : List UInt8 → Scan} {front text : List UInt8}
    (literal : front ≠ []) (nonempty : text ≠ []) (other : front.head? ≠ text.head?) :
    scanLiteral conversion front text = .failed := by
  cases front with
  | nil => exact absurd rfl literal
  | cons first more =>
      cases text with
      | nil => exact absurd rfl nonempty
      | cons byte text =>
          rw [scanLiteral, if_neg fun same => other (congrArg some same.symm)]

theorem isSpaceByte_of_isDigitByte {byte : UInt8} (digit : isDigitByte byte = true) :
    isSpaceByte byte = false := by
  simp only [isDigitByte, isSpaceByte, Bool.and_eq_true, decide_eq_true_eq, Bool.or_eq_false_iff,
    beq_eq_false_iff_ne, Bool.and_eq_false_iff, decide_eq_false_iff_not] at digit ⊢
  have above : (48 : UInt8).toNat ≤ byte.toNat := UInt8.le_iff_toNat_le.mp digit.1
  refine ⟨fun same => ?_, Or.inr fun below => ?_⟩
  · rw [same] at above
    exact absurd above (by decide)
  · exact absurd (above.trans (UInt8.le_iff_toNat_le.mp below)) (by decide)

theorem IsNumber.head {value : List UInt8} (number : IsNumber value) (rest : List UInt8) :
    ∀ byte, (value ++ rest).head? = some byte → isSpaceByte byte = false := by
  rcases number with ⟨sign, digits, rfl, signs, more, all⟩
  intro byte first
  rcases signs with rfl | rfl | rfl
  · cases digits with
    | nil => exact absurd rfl more
    | cons digit digits =>
        cases first
        exact isSpaceByte_of_isDigitByte (all _ List.mem_cons_self)
  · cases first
    decide
  · cases first
    decide

theorem scanUnsigned_of_number {blanks value rest : List UInt8}
    (spaces : ∀ byte ∈ blanks, isSpaceByte byte = true) (number : IsNumber value)
    (stop : ∀ byte, rest.head? = some byte → isDigitByte byte = false) :
    scanUnsigned (blanks ++ (value ++ rest)) = .stored value rest := by
  have skipped := (takeWhile_dropWhile_iff.mpr ⟨rfl, spaces, number.head rest⟩).2
  rcases number with ⟨sign, digits, rfl, signs, more, all⟩
  have run := takeWhile_dropWhile_iff.mpr ⟨rfl, all, stop⟩
  unfold scanUnsigned
  rw [skipped]
  rcases signs with rfl | rfl | rfl
  · cases digits with
    | nil => exact absurd rfl more
    | cons digit digits =>
        have unsigned : ¬ (digit = 43 ∨ digit = 45) := by
          rintro (rfl | rfl) <;> exact absurd (all _ List.mem_cons_self) (by decide)
        simp only [List.nil_append, List.cons_append] at run ⊢
        rw [if_neg unsigned, if_neg unsigned, run.1, run.2, if_neg more]
        rfl
  · simp [run, more]
  · simp [run, more]

/-- Behind white space a number is scanned as a sign and what is behind it. -/
theorem scanUnsigned_of_cons {text : List UInt8} {first : UInt8} {behind : List UInt8}
    (skipped : text.dropWhile isSpaceByte = first :: behind) :
    ∃ sign digits, sign ++ digits = first :: behind ∧
      (sign = [] ∨ sign = [43] ∨ sign = [45]) ∧
      scanUnsigned text =
        if digits.takeWhile isDigitByte = [] then .failed
        else .stored (sign ++ digits.takeWhile isDigitByte) (digits.dropWhile isDigitByte) := by
  unfold scanUnsigned
  rw [skipped]
  by_cases signed : first = 43 ∨ first = 45
  · refine ⟨[first], behind, rfl, ?_, by simp only [if_pos signed]⟩
    rcases signed with rfl | rfl
    · exact Or.inr (Or.inl rfl)
    · exact Or.inr (Or.inr rfl)
  · exact ⟨[], first :: behind, rfl, Or.inl rfl, by simp only [if_neg signed]⟩

theorem scanUnsigned_eq_stored_iff {text value rest : List UInt8} :
    scanUnsigned text = .stored value rest ↔
      ∃ blanks, text = blanks ++ (value ++ rest) ∧ (∀ byte ∈ blanks, isSpaceByte byte = true) ∧
        IsNumber value ∧ ∀ byte, rest.head? = some byte → isDigitByte byte = false := by
  constructor
  · intro stored
    have parts : text.takeWhile isSpaceByte ++ text.dropWhile isSpaceByte = text :=
      List.takeWhile_append_dropWhile
    refine ⟨text.takeWhile isSpaceByte, ?_⟩
    cases skipped : text.dropWhile isSpaceByte with
    | nil =>
        unfold scanUnsigned at stored
        rw [skipped] at stored
        cases stored
    | cons first behind =>
        rcases scanUnsigned_of_cons skipped with ⟨sign, digits, whole, signs, scanned⟩
        rw [scanned] at stored
        split at stored
        · cases stored
        · rename_i more
          cases stored
          have run := takeWhile_dropWhile_iff.mp
            (⟨rfl, rfl⟩ : digits.takeWhile isDigitByte = _ ∧ digits.dropWhile isDigitByte = _)
          refine ⟨?_, fun byte member => List.mem_takeWhile_imp member,
            ⟨sign, _, rfl, signs, more, run.2.1⟩, run.2.2⟩
          rw [List.append_assoc, ← run.1, whole, ← skipped, parts]
  · rintro ⟨blanks, rfl, spaces, number, stop⟩
    exact scanUnsigned_of_number spaces number stop

theorem scanSet_of_name {width : Nat} {excluded value rest : List UInt8} (more : value ≠ [])
    (plain : ∀ byte ∈ value, byte ∉ excluded) (fits : value.length ≤ width)
    (stop : value.length = width ∨ ∀ byte, rest.head? = some byte → byte ∈ excluded) :
    scanSet width excluded (value ++ rest) = .stored value rest := by
  have others : ∀ byte ∈ value, decide (byte ∉ excluded) = true :=
    fun byte member => decide_eq_true (plain byte member)
  have name : ((value ++ rest).takeWhile fun byte => decide (byte ∉ excluded)).take width =
      value := by
    rw [List.takeWhile_append_of_pos others]
    rcases stop with full | stop
    · exact List.take_left' full
    · have none : (rest.takeWhile fun byte => decide (byte ∉ excluded)) = [] := by
        cases rest with
        | nil => rfl
        | cons byte rest => simp [stop byte rfl]
      rw [none, List.append_nil, List.take_of_length_le fits]
  unfold scanSet
  rw [if_neg fun empty => more (List.append_eq_nil_iff.mp empty).1]
  dsimp only
  rw [name, if_neg more, List.drop_left]

theorem scanSet_eq_stored_iff {width : Nat} {excluded text value rest : List UInt8} :
    scanSet width excluded text = .stored value rest ↔
      text = value ++ rest ∧ value ≠ [] ∧ (∀ byte ∈ value, byte ∉ excluded) ∧
        value.length ≤ width ∧
        (value.length = width ∨ ∀ byte, rest.head? = some byte → byte ∈ excluded) := by
  constructor
  · intro stored
    unfold scanSet at stored
    split at stored
    · cases stored
    · dsimp only at stored
      have run := takeWhile_dropWhile_iff.mp (⟨rfl, rfl⟩ :
        (text.takeWhile fun byte => decide (byte ∉ excluded)) = _ ∧
          (text.dropWhile fun byte => decide (byte ∉ excluded)) = _)
      generalize (text.takeWhile fun byte => decide (byte ∉ excluded)) = front at stored run
      generalize (text.dropWhile fun byte => decide (byte ∉ excluded)) = behind at run
      rcases run with ⟨rfl, plain, stop⟩
      split at stored
      · cases stored
      · rename_i more
        cases stored
        have among : front.take width <+: front ++ behind :=
          (List.take_prefix width front).trans (List.prefix_append front behind)
        refine ⟨(List.prefix_iff_eq_append.mp among).symm, more, ?_,
          List.length_take_le width front, ?_⟩
        · exact fun byte member => of_decide_eq_true (plain byte (List.mem_of_mem_take member))
        · rcases Nat.le_total width front.length with long | short
          · exact Or.inl (List.length_take_of_le long)
          · rw [List.take_of_length_le short, List.drop_left]
            exact Or.inr fun byte first => not_not.mp (of_decide_eq_false (stop byte first))
  · rintro ⟨rfl, more, plain, fits, stop⟩
    exact scanSet_of_name more plain fits stop

end Foundation
end Ipbench
