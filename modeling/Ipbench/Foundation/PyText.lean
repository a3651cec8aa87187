import Mathlib.Data.List.DropRight

namespace Ipbench
namespace Foundation

/-!
# Python text

Texts are lists of Unicode characters.  This module gives the string methods
and the regular-expression fragments that a line-oriented command parser of
that language uses.  White space is the fixed set of `str.isspace`; which
other characters are alphanumeric or decimal digits depends on the Unicode
version of the interpreter, so these two tables are parameters, known only on
ASCII.
-/

abbrev Text := List Char

/-- `str.isspace` of one character, which is also `\s` of a pattern. -/
def isSpace (char : Char) : Bool :=
  let code := char.toNat
  (9 ≤ code && code ≤ 13) || (28 ≤ code && code ≤ 32) || code == 0x85 || code == 0xA0 ||
    code == 0x1680 || (0x2000 ≤ code && code ≤ 0x200A) || code == 0x2028 || code == 0x2029 ||
    code == 0x202F || code == 0x205F || code == 0x3000

/-- `str.strip` without arguments. -/
def strip (text : Text) : Text :=
  (text.dropWhile isSpace).rdropWhile isSpace

/-- The character classes that depend on the Unicode version.  `int` reads any number of digits, as
it does without the limit that newer interpreters set by default. -/
structure CharTables where
  isAlnum : Char → Bool
  decimal : Char → Option Nat
  isAlnum_ascii : ∀ char : Char, char.toNat < 128 → isAlnum char = char.isAlphanum
  decimal_ascii : ∀ char : Char, char.toNat < 128 →
    decimal char = if char.isDigit then some (char.toNat - 48) else none

def asciiTables : CharTables where
  isAlnum := fun char => decide (char.toNat < 128) && char.isAlphanum
  decimal := fun char =>
    if char.toNat < 128 ∧ char.isDigit then some (char.toNat - 48) else none
  isAlnum_ascii := by
    intro char ascii
    rw [decide_eq_true ascii, Bool.true_and]
  decimal_ascii := by
    intro char ascii
    simp only [ascii, true_and]

namespace CharTables

/-- `\w` of a pattern. -/
def isWord (tables : CharTables) (char : Char) : Bool :=
  tables.isAlnum char || char == '_'

/-! ## Numbers -/

/-- The digits after the first one; single underscores may stand between digits. -/
def digitsFrom (tables : CharTables) : (value : Nat) → Text → Option Nat
  | value, [] => some value
  | _, ['_'] => none
  | value, '_' :: char :: rest =>
      match tables.decimal char with
      | some digit => digitsFrom tables (10 * value + digit) rest
      | none => none
  | value, char :: rest =>
      match tables.decimal char with
      | some digit => digitsFrom tables (10 * value + digit) rest
      | none => none

def digits (tables : CharTables) : Text → Option Nat
  | [] => none
  | char :: rest =>
      match tables.decimal char with
      | some digit => digitsFrom tables digit rest
      | none => none

/-- `int(text)`; `none` is the `ValueError`. -/
def int (tables : CharTables) (text : Text) : Option Int :=
  match strip text with
  | '-' :: rest => (tables.digits rest).map fun value => -Int.ofNat value
  | '+' :: rest => (tables.digits rest).map Int.ofNat
  | rest => (tables.digits rest).map Int.ofNat

/-! ## Patterns, matched at the start of the text -/

/-- The pattern `(\w+)`. -/
def matchWord (tables : CharTables) (text : Text) : Option Text :=
  match text.takeWhile tables.isWord with
  | [] => none
  | word => some word

theorem matchWord_isPrefix {tables : CharTables} {text word : Text}
    (matched : tables.matchWord text = some word) : word <+: text := by
  unfold matchWord at matched
  cases found : text.takeWhile tables.isWord with
  | nil =>
      rw [found] at matched
      cases matched
  | cons char rest =>
      rw [found] at matched
      rw [← Option.some.inj matched, ← found]
      exact List.takeWhile_prefix _

/-- The pattern `(\w+) (argument+)`, for the characters `argument` accepts.
The blank ends the word, so the match never backtracks. -/
def matchCommand (tables : CharTables) (argument : Char → Bool) (text : Text) :
    Option (Text × Text) :=
  match tables.matchWord text with
  | none => none
  | some word =>
      match text.dropWhile tables.isWord with
      | ' ' :: rest =>
          match rest.takeWhile argument with
          | [] => none
          | found => some (word, found)
      | _ => none

/-- The pattern of a literal text followed by `(\d+)`; the result is the group. -/
def matchNumber (tables : CharTables) (literal text : Text) : Option Text :=
  if literal <+: text then
    match (text.drop literal.length).takeWhile fun char => (tables.decimal char).isSome with
    | [] => none
    | group => some group
  else none

end CharTables

/-- The pattern `\S*`. -/
def matchNonspace (text : Text) : Text :=
  text.takeWhile fun char => !isSpace char

/-! ## Splitting -/

/-- `text.split(first + second)` for a separator of two characters. -/
def splitPair (first second : Char) : Text → List Text
  | [] => [[]]
  | [char] => [[char]]
  | char :: next :: rest =>
      if char = first ∧ next = second then [] :: splitPair first second rest
      else
        match splitPair first second (next :: rest) with
        | [] => [[char]]
        | head :: tail => (char :: head) :: tail

/-! ## Searching and slicing -/

/-- `text.find(char)`, which is -1 when there is none. -/
def find (char : Char) (text : Text) : Int :=
  match text.findIdx? (· == char) with
  | some index => index
  | none => -1

/-- The bound of a slice.  A negative one counts from the end. -/
def sliceBound (length : Nat) (bound : Int) : Nat :=
  if bound < 0 then (bound + length).toNat else bound.toNat

/-- `values[start:stop]`. -/
def slice {Element : Type} (start stop : Int) (values : List Element) : List Element :=
  (values.take (sliceBound values.length stop)).drop (sliceBound values.length start)

/-- `values[start:]`. -/
def sliceFrom {Element : Type} (start : Int) (values : List Element) : List Element :=
  values.drop (sliceBound values.length start)

/-- `values[:stop]`. -/
def sliceTo {Element : Type} (stop : Int) (values : List Element) : List Element :=
  values.take (sliceBound values.length stop)

/-! ## Numbers as text -/

/-- `repr` of a natural number. -/
def decimalText (value : Nat) : Text :=
  Nat.toDigits 10 value

/-! ## Laws of searching and slicing -/

theorem find_append {char : Char} {line : Text} (absent : char ∉ line) (rest : Text) :
    find char (line ++ char :: rest) = line.length := by
  have here : (line ++ char :: rest).findIdx? (· == char) = some line.length := by
    induction line with
    | nil => simp [List.findIdx?_cons]
    | cons other line inductionHypothesis =>
        have later := inductionHypothesis fun member => absent (List.mem_cons_of_mem _ member)
        have different : other ≠ char := fun same => absent (same ▸ List.mem_cons_self)
        simp [List.findIdx?_cons, different, later]
  rw [find, here]

theorem find_absent {char : Char} {text : Text} (absent : char ∉ text) : find char text = -1 := by
  have nowhere : text.findIdx? (· == char) = none := by
    rw [List.findIdx?_eq_none_iff]
    intro other member
    exact beq_eq_false_iff_ne.mpr fun same => absent (same ▸ member)
  rw [find, nowhere]

section Slices

variable {Element : Type}

theorem sliceFrom_natCast (start : Nat) (values : List Element) :
    sliceFrom (start : Int) values = values.drop start := by
  rw [sliceFrom, sliceBound, if_neg (Int.not_lt.mpr (Int.natCast_nonneg start)), Int.toNat_natCast]

theorem sliceTo_natCast (stop : Nat) (values : List Element) :
    sliceTo (stop : Int) values = values.take stop := by
  rw [sliceTo, sliceBound, if_neg (Int.not_lt.mpr (Int.natCast_nonneg stop)), Int.toNat_natCast]

theorem sliceTo_neg_one (values : List Element) : sliceTo (-1) values = values.dropLast := by
  rw [sliceTo, sliceBound, if_pos (by decide), List.dropLast_eq_take]
  congr 1
  omega

end Slices

/-! ## Laws of decimal numbers -/

theorem strip_eq_self {text : Text} (spaceless : ∀ char ∈ text, isSpace char = false) :
    strip text = text := by
  have start : text.dropWhile isSpace = text := by
    cases text with
    | nil => rfl
    | cons char rest =>
        rw [List.dropWhile_cons, spaceless char List.mem_cons_self]
        rfl
  rw [strip, start, List.rdropWhile_eq_self_iff]
  intro nonempty space
  rw [spaceless _ (List.getLast_mem nonempty)] at space
  cases space

theorem isDigit_bounds {char : Char} (digit : char.isDigit = true) :
    48 ≤ char.toNat ∧ char.toNat ≤ 57 := by
  unfold Char.isDigit at digit
  rw [Bool.and_eq_true, decide_eq_true_iff, decide_eq_true_iff] at digit
  exact ⟨digit.1, digit.2⟩

theorem isSpace_of_isDigit {char : Char} (digit : char.isDigit = true) :
    isSpace char = false := by
  have bounds := isDigit_bounds digit
  unfold isSpace
  simp
  omega

namespace CharTables

variable (tables : CharTables)

theorem decimal_of_isDigit {char : Char} (digit : char.isDigit = true) :
    tables.decimal char = some (char.toNat - 48) := by
  have bounds := isDigit_bounds digit
  rw [tables.decimal_ascii char (by omega), if_pos digit]

theorem digitsFrom_of_isDigit {text : Text} (number : ∀ char ∈ text, char.isDigit = true)
    (value : Nat) : tables.digitsFrom value text = some (Nat.ofDigitChars 10 text value) := by
  induction text generalizing value with
  | nil => rw [digitsFrom, Nat.ofDigitChars_nil]
  | cons char rest inductionHypothesis =>
      have digit := number char List.mem_cons_self
      have later := inductionHypothesis fun other member =>
        number other (List.mem_cons_of_mem _ member)
      have other : char ≠ '_' := by
        rintro rfl
        cases digit
      rw [digitsFrom, tables.decimal_of_isDigit digit, Nat.ofDigitChars_cons]
      · exact later _
      · exact fun impossible _ => other impossible
      · exact fun _ _ impossible _ => other impossible

theorem int_of_isDigit {text : Text} (number : ∀ char ∈ text, char.isDigit = true)
    (nonempty : text ≠ []) :
    tables.int text = some ((Nat.ofDigitChars 10 text 0 : Nat) : Int) := by
  have stripped : strip text = text :=
    strip_eq_self fun char member => isSpace_of_isDigit (number char member)
  cases text with
  | nil => exact absurd rfl nonempty
  | cons char rest =>
      have digit := number char List.mem_cons_self
      have value : tables.digits (char :: rest) =
          some (Nat.ofDigitChars 10 (char :: rest) 0) := by
        rw [digits, tables.decimal_of_isDigit digit, Nat.ofDigitChars_cons]
        dsimp only
        rw [tables.digitsFrom_of_isDigit fun other member =>
          number other (List.mem_cons_of_mem _ member)]
        simp
      rw [int, stripped]
      split
      · next impossible =>
          rw [(List.cons.inj impossible).1] at digit
          cases digit
      · next impossible =>
          rw [(List.cons.inj impossible).1] at digit
          cases digit
      · rw [value]
        rfl

end CharTables

theorem isDigit_of_mem_decimalText {value : Nat} {char : Char} (member : char ∈ decimalText value) :
    char.isDigit = true :=
  Nat.isDigit_of_mem_toDigits (by decide) (by decide) member

/-- A proper beginning of a number is a smaller number. -/
theorem ofDigitChars_lt_of_isPrefix {value : Nat} {start : Text} (nonempty : start ≠ [])
    (initial : start <+: decimalText value) (proper : start ≠ decimalText value) :
    Nat.ofDigitChars 10 start 0 < value := by
  induction value using Nat.strongRecOn with
  | ind value inductionHypothesis =>
      by_cases small : value < 10
      · rw [decimalText, Nat.toDigits_of_lt_base small] at initial proper
        rcases List.prefix_cons_iff.mp initial with empty | ⟨rest, same, shorter⟩
        · exact absurd empty nonempty
        · rw [List.prefix_nil.mp shorter] at same
          exact absurd same proper
      · have large : 10 ≤ value := Nat.le_of_not_lt small
        rw [decimalText, Nat.toDigits_of_base_le (by decide) large] at initial proper
        have shorter : start <+: decimalText (value / 10) :=
          (List.prefix_concat_iff.mp initial).resolve_left proper
        have smaller : value / 10 < value := Nat.div_lt_self (by omega) (by decide)
        by_cases same : start = decimalText (value / 10)
        · rw [same, decimalText, Nat.ofDigitChars_ten_toDigits]
          exact smaller
        · exact (inductionHypothesis (value / 10) smaller shorter same).trans smaller

/-! ## Laws of splitting -/

section Splitting

variable {first second : Char}

/-- A character that does not begin the separator belongs to the first piece. -/
theorem splitPair_cons {char : Char} {text head : Text} {tail : List Text}
    (other : ¬ [first, second] <+: char :: text)
    (split : splitPair first second text = head :: tail) :
    splitPair first second (char :: text) = (char :: head) :: tail := by
  cases text with
  | nil =>
      cases split
      rfl
  | cons next rest =>
      have apart : ¬ (char = first ∧ next = second) := by
        rintro ⟨rfl, rfl⟩
        exact other (List.prefix_append [char, next] rest)
      rw [splitPair, if_neg apart, split]

theorem splitPair_append {head : Text} (absent : first ∉ head) (rest : Text) :
    splitPair first second (head ++ first :: second :: rest) =
      head :: splitPair first second rest := by
  induction head with
  | nil => rw [List.nil_append, splitPair, if_pos ⟨rfl, rfl⟩]
  | cons char head inductionHypothesis =>
      have other : ¬ [first, second] <+: char :: (head ++ first :: second :: rest) := by
        intro begins
        exact absent (List.mem_cons.mpr (Or.inl (List.cons_prefix_cons.mp begins).1))
      exact splitPair_cons other
        (inductionHypothesis fun member => absent (List.mem_cons_of_mem _ member))

theorem splitPair_of_not_infix {text : Text} (absent : ¬ [first, second] <:+: text) :
    splitPair first second text = [text] := by
  induction text with
  | nil => rfl
  | cons char rest inductionHypothesis =>
      rw [List.infix_cons_iff, not_or] at absent
      exact splitPair_cons absent.1 (inductionHypothesis absent.2)

/-- A separator does not reach into a text without its first character. -/
theorem pair_infix_append_left {before text : Text} (absent : first ∉ before)
    (inside : [first, second] <:+: before ++ text) : [first, second] <:+: text := by
  induction before with
  | nil => exact inside
  | cons char before inductionHypothesis =>
      rcases List.infix_cons_iff.mp inside with begins | later
      · have same := (List.cons_prefix_cons.mp begins).1
        exact absurd (List.mem_cons.mpr (Or.inl same)) absent
      · exact inductionHypothesis (fun member => absent (List.mem_cons_of_mem _ member)) later

/-- A separator does not end with another character. -/
theorem pair_infix_concat {text : Text} {char : Char} (other : second ≠ char)
    (inside : [first, second] <:+: text ++ [char]) : [first, second] <:+: text := by
  rcases List.infix_concat_iff.mp inside with ends | earlier
  · rcases ends with ⟨before, same⟩
    have last : before ++ [first] ++ [second] = text ++ [char] := by
      rw [List.append_assoc]
      exact same
    exact absurd (List.singleton_inj.mp (List.append_inj' last rfl).2) other
  · exact earlier

end Splitting

/-! ## Laws of lines and commands -/

/-- Stripping a line removes its end, when it begins and ends with visible characters. -/
theorem strip_newline {line : Text} {first last : Char} (starts : line.head? = some first)
    (ends : line.getLast? = some last) (firstVisible : isSpace first = false)
    (lastVisible : isSpace last = false) : strip (line ++ ['\n']) = line := by
  have start : (line ++ ['\n']).dropWhile isSpace = line ++ ['\n'] := by
    cases line with
    | nil => cases starts
    | cons char rest =>
        cases starts
        rw [List.cons_append, List.dropWhile_cons, firstVisible]
        rfl
  rw [strip, start, List.rdropWhile_concat_pos _ _ _ (by decide), List.rdropWhile_eq_self_iff]
  intro nonempty space
  rw [List.getLast?_eq_some_getLast nonempty] at ends
  rw [Option.some.inj ends, lastVisible] at space
  cases space

theorem CharTables.isWord_of_ascii (tables : CharTables) {char : Char} (ascii : char.toNat < 128) :
    tables.isWord char = (char.isAlphanum || char == '_') := by
  rw [CharTables.isWord, tables.isAlnum_ascii char ascii]

/-- A word of letters, digits and underscores of ASCII. -/
theorem CharTables.isWord_of_all (tables : CharTables) {word : Text}
    (ascii : (word.all fun char =>
      decide (char.toNat < 128) && (char.isAlphanum || char == '_')) = true) :
    ∀ char ∈ word, tables.isWord char = true := by
  intro char member
  have letter := List.all_eq_true.mp ascii char member
  rw [Bool.and_eq_true, decide_eq_true_eq] at letter
  rw [tables.isWord_of_ascii letter.1]
  exact letter.2

theorem CharTables.isWord_blank (tables : CharTables) : tables.isWord ' ' = false := by
  rw [tables.isWord_of_ascii (by decide)]
  decide

theorem CharTables.takeWhile_blank {tables : CharTables} {word rest : Text}
    (letters : ∀ char ∈ word, tables.isWord char = true) :
    (word ++ ' ' :: rest).takeWhile tables.isWord = word := by
  rw [List.takeWhile_append_of_pos letters,
    List.takeWhile_cons_of_neg (by rw [tables.isWord_blank]; decide), List.append_nil]

/-- The pattern finds the word before the blank and the argument behind it. -/
theorem CharTables.matchCommand_append (tables : CharTables) {argument : Char → Bool}
    {word rest : Text} (letters : ∀ char ∈ word, tables.isWord char = true) (named : word ≠ [])
    (accepted : ∀ char ∈ rest, argument char = true) (nonempty : rest ≠ []) :
    tables.matchCommand argument (word ++ ' ' :: rest) = some (word, rest) := by
  have left : (word ++ ' ' :: rest).dropWhile tables.isWord = ' ' :: rest := by
    rw [List.dropWhile_append_of_pos letters,
      List.dropWhile_cons_of_neg (by rw [tables.isWord_blank]; decide)]
  have all : rest.takeWhile argument = rest := List.takeWhile_eq_self_iff.mpr accepted
  rw [CharTables.matchCommand, CharTables.matchWord, CharTables.takeWhile_blank letters, left]
  cases word with
  | nil => exact absurd rfl named
  | cons char word =>
      change (match rest.takeWhile argument with
        | [] => none
        | found => some (char :: word, found)) = _
      rw [all]
      cases rest with
      | nil => exact absurd rfl nonempty
      | cons char rest => rfl

/-- The number that `repr` writes is the one that `int` reads. -/
theorem CharTables.int_decimalText (tables : CharTables) (value : Nat) :
    tables.int (decimalText value) = some (value : Int) := by
  have digits : ∀ char ∈ decimalText value, char.isDigit = true :=
    fun char member => isDigit_of_mem_decimalText member
  have nonempty : decimalText value ≠ [] := Nat.toDigits_ne_nil
  rw [tables.int_of_isDigit digits nonempty, decimalText, Nat.ofDigitChars_ten_toDigits]

theorem CharTables.int_of_strip (tables : CharTables) {first second : Text}
    (same : strip first = strip second) : tables.int first = tables.int second := by
  rw [CharTables.int, CharTables.int, same]

example : splitPair '|' '|' "a|||b".toList = ["a".toList, "|b".toList] := by decide

example : asciiTables.int " -1_000 ".toList = some (-1000) := by decide

end Foundation
end Ipbench
