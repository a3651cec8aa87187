import Ipbench.Controller.Unmarshall

namespace Ipbench
namespace Controller

open Foundation Daemon

/-!
# Status lines of the daemon

`str_status` puts a message in parentheses behind the text of its code, and
`_parse_return_code` of the controller takes the line apart again.  The message is what
stands between the first opening and the first closing parenthesis, without the white space
at its ends.  No text of a code has a parenthesis, so an opening one in the message does no
harm.
-/

/-- The words of a message, as the line has them. -/
def message (words : List Text) : Text :=
  List.intercalate [' '] words

/-- The controller finds the code, its text and the message of a status line. -/
def RoundTrips (tables : CharTables) (errCode : StatusCode) (words : List Text) : Prop :=
  parseReturnCode tables (strStatus errCode words) =
    some { code := errCode.code, str := errCode.text, msg := message words }

/-! ## Parts of a line -/

section Slices

variable {Element : Type}

theorem slice_natCast (start stop : Nat) (values : List Element) :
    slice (start : Int) (stop : Int) values = (values.take stop).drop start := by
  rw [slice, sliceBound, sliceBound, if_neg (Int.not_lt.mpr (Int.natCast_nonneg start)),
    if_neg (Int.not_lt.mpr (Int.natCast_nonneg stop)), Int.toNat_natCast, Int.toNat_natCast]

/-- The part between what stands before it and what stands behind it. -/
theorem slice_middle {start stop : Nat} (before middle after : List Element)
    (first : before.length = start) (last : start + middle.length = stop) :
    slice (start : Int) (stop : Int) (before ++ (middle ++ after)) = middle := by
  subst first last
  rw [slice_natCast, ← List.append_assoc, ← List.length_append, List.take_left, List.drop_left]

end Slices

/-- What stands in front of the message: the code, a blank and its text. -/
def header (errCode : StatusCode) : Text :=
  decimalText errCode.code ++ [' '] ++ errCode.text

theorem length_code (errCode : StatusCode) : (decimalText errCode.code).length = 3 := by
  cases errCode <;> decide

theorem header_plain (errCode : StatusCode) : '(' ∉ header errCode ∧ ')' ∉ header errCode := by
  cases errCode <;> decide

theorem strip_text (errCode : StatusCode) :
    strip (errCode.text ++ [' ']) = errCode.text ∧
      strip (errCode.text ++ ['\n']) = errCode.text := by
  cases errCode <;> decide

theorem int_header (tables : CharTables) (errCode : StatusCode) (rest : Text) :
    tables.int (slice 0 3 (header errCode ++ rest)) = some (errCode.code : Int) := by
  have front : slice 0 3 (header errCode ++ rest) = decimalText errCode.code := by
    rw [header, List.append_assoc, List.append_assoc]
    exact slice_middle [] (decimalText errCode.code) _ rfl (by rw [length_code])
  rw [front, tables.int_decimalText]

/-! ## The line -/

theorem parse_plain (tables : CharTables) (errCode : StatusCode) :
    parseReturnCode tables (header errCode ++ ['\n']) =
      some { code := errCode.code, str := errCode.text, msg := [] } := by
  have absent : '(' ∉ header errCode ++ ['\n'] := by
    rw [List.mem_append, not_or]
    exact ⟨(header_plain errCode).1, by decide⟩
  have text : sliceFrom 4 (header errCode ++ ['\n']) = errCode.text ++ ['\n'] := by
    have front : (decimalText errCode.code ++ [' ']).length = 4 := by
      rw [List.length_append, length_code]
      rfl
    rw [header, List.append_assoc]
    exact (sliceFrom_natCast 4 _).trans (List.drop_left' front)
  rw [parseReturnCode, int_header]
  dsimp only
  rw [find_absent absent, if_pos rfl, text, (strip_text errCode).2]

/-- The first closing parenthesis is one of the message, or the one behind it. -/
theorem exists_closing (message : Text) : ∃ after, message ++ ")\n".toList =
    (message.takeWhile fun char => char != ')') ++ ')' :: after := by
  induction message with
  | nil => exact ⟨['\n'], rfl⟩
  | cons char rest inductionHypothesis =>
      by_cases here : char = ')'
      · subst here
        exact ⟨rest ++ ")\n".toList, rfl⟩
      · obtain ⟨after, later⟩ := inductionHypothesis
        have other : (char != ')') = true := bne_iff_ne.mpr here
        refine ⟨after, ?_⟩
        rw [List.takeWhile_cons, if_pos other, List.cons_append, later, List.cons_append]

/-- A line with a message before its first closing parenthesis. -/
def closedLine (errCode : StatusCode) (before after : Text) : Text :=
  header errCode ++ (' ' :: '(' :: (before ++ ')' :: after))

section ClosedLine

variable (errCode : StatusCode) (before after : Text)

theorem find_opening : find '(' (closedLine errCode before after) =
    ((header errCode).length + 1 : Nat) := by
  have front : '(' ∉ header errCode ++ [' '] := by
    rw [List.mem_append, not_or]
    exact ⟨(header_plain errCode).1, by decide⟩
  have found := find_append front (before ++ ')' :: after)
  rw [List.append_assoc, List.length_append] at found
  exact found

theorem find_closing {before : Text} (absent : ')' ∉ before) :
    find ')' (closedLine errCode before after) =
      ((header errCode).length + 2 + before.length : Nat) := by
  have front : ')' ∉ header errCode ++ ([' ', '('] ++ before) := by
    rw [List.mem_append, List.mem_append, not_or, not_or]
    exact ⟨(header_plain errCode).2, by decide, absent⟩
  have found := find_append front after
  rw [List.append_assoc, List.append_assoc, List.length_append, List.length_append] at found
  rw [Nat.add_assoc]
  exact found

theorem slice_text : slice 4 ((header errCode).length + 1 : Nat)
    (closedLine errCode before after) = errCode.text ++ [' '] := by
  have parted : closedLine errCode before after =
      (decimalText errCode.code ++ [' ']) ++
        ((errCode.text ++ [' ']) ++ '(' :: (before ++ ')' :: after)) := by
    rw [closedLine, header, List.append_assoc, List.append_assoc, List.append_assoc,
      List.append_assoc]
    rfl
  rw [parted]
  apply slice_middle
  · rw [List.length_append, length_code]
    rfl
  · rw [header, List.length_append, List.length_append, List.length_append, length_code]
    simp only [List.length_singleton]
    omega

theorem slice_message : slice (((header errCode).length + 1 : Nat) + 1)
    ((header errCode).length + 2 + before.length : Nat) (closedLine errCode before after) =
      before := by
  have parted : closedLine errCode before after =
      (header errCode ++ [' ', '(']) ++ (before ++ ')' :: after) := by
    rw [closedLine, List.append_assoc]
    rfl
  rw [parted]
  exact slice_middle _ before _ (List.length_append.trans rfl) rfl

end ClosedLine

theorem parse_message (tables : CharTables) (errCode : StatusCode) (message : Text) :
    parseReturnCode tables (header errCode ++ " (".toList ++ message ++ ")\n".toList) =
      some
        { code := errCode.code
          str := errCode.text
          msg := strip (message.takeWhile fun char => char != ')') } := by
  obtain ⟨after, closing⟩ := exists_closing message
  have absent : ')' ∉ message.takeWhile fun char => char != ')' := by
    intro member
    exact absurd (List.mem_takeWhile_imp member) (by decide)
  have line : header errCode ++ " (".toList ++ message ++ ")\n".toList =
      closedLine errCode (message.takeWhile fun char => char != ')') after := by
    rw [List.append_assoc, List.append_assoc, closing]
    rfl
  have code := int_header tables errCode
    (' ' :: '(' :: ((message.takeWhile fun char => char != ')') ++ ')' :: after))
  have found : ((header errCode).length + 1 : Nat) ≠ (-1 : Int) := by omega
  rw [line, parseReturnCode, closedLine, code]
  dsimp only
  rw [← closedLine, find_opening, if_neg found, find_closing errCode after absent, slice_text,
    slice_message, (strip_text errCode).1]

theorem parse_strStatus (tables : CharTables) (errCode : StatusCode) (words : List Text) :
    parseReturnCode tables (strStatus errCode words) =
      some
        { code := errCode.code
          str := errCode.text
          msg := strip ((message words).takeWhile fun char => char != ')') } := by
  unfold strStatus
  by_cases empty : words = []
  · rw [if_pos empty, empty]
    exact parse_plain tables errCode
  · rw [if_neg empty]
    exact parse_message tables errCode (message words)

theorem takeWhile_open {text : Text} :
    (text.takeWhile fun char => char != ')') = text ↔ ')' ∉ text := by
  rw [List.takeWhile_eq_self_iff]
  constructor
  · intro every closing
    exact absurd (every ')' closing) (by decide)
  · rintro absent char member
    apply bne_iff_ne.mpr
    rintro rfl
    exact absent member

theorem length_strip_le (text : Text) : (strip text).length ≤ text.length :=
  Nat.le_trans (List.rdropWhile_prefix _ _).length_le (List.dropWhile_sublist _).length_le

/-- The message comes back exactly if it has no closing parenthesis and no white space at its
ends. -/
theorem roundTrips_iff (tables : CharTables) (errCode : StatusCode) (words : List Text) :
    RoundTrips tables errCode words ↔
      ')' ∉ message words ∧ strip (message words) = message words := by
  rw [RoundTrips, parse_strStatus, Option.some_inj, ReturnCode.mk.injEq]
  simp only [true_and]
  generalize message words = text
  constructor
  · intro same
    have whole : (text.takeWhile fun char => char != ')') = text := by
      apply (List.takeWhile_prefix _).eq_of_length_le
      calc text.length = (strip (text.takeWhile fun char => char != ')')).length := by rw [same]
        _ ≤ (text.takeWhile fun char => char != ')').length := length_strip_le _
    rw [whole] at same
    exact ⟨takeWhile_open.mp whole, same⟩
  · rintro ⟨absent, trimmed⟩
    rw [takeWhile_open.mpr absent]
    exact trimmed

/-! ## Main result -/

/-- For every code and all words: the code and its text come back, and a message without a
closing parenthesis does without the white space at its ends. -/
theorem statusLine_parsed (tables : CharTables) (errCode : StatusCode) (words : List Text) :
    ∃ status, parseReturnCode tables (strStatus errCode words) = some status ∧
      status.code = errCode.code ∧ status.str = errCode.text ∧
        (')' ∉ message words → status.msg = strip (message words)) := by
  refine ⟨_, parse_strStatus tables errCode words, rfl, rfl, ?_⟩
  intro absent
  exact congrArg strip (takeWhile_open.mpr absent)

/-- A blank in front of a message is lost, and so is what stands behind a parenthesis that
is closed in a message. -/
theorem paddedMessage_trimmed :
    ¬ RoundTrips asciiTables .localError [" timed out".toList] ∧
      ¬ RoundTrips asciiTables .localError ["connect(2)".toList, "timed out".toList] := by
  rw [roundTrips_iff, roundTrips_iff]
  decide

end Controller
end Ipbench
