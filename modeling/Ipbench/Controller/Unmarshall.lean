import Ipbench.Daemon.Session
import Ipbench.Foundation.PyBytes
import Ipbench.Foundation.Socket

namespace Ipbench
namespace Controller

open Foundation

/-!
# Receiving the result of a client

`unmarshall` of `ipbench.py` reads what the daemon's MARSHALL wrote: a status
line, a line with the length of the data, and the data.  It takes the first
line from one `recv` and the second from what is left of it and one more
`recv`; only the data are read in a loop.  A line that does not end within
these calls is cut off at its last character, since `find` returns -1.

The result does not depend on how the network cuts the stream exactly as far
as these two lines are received by the first two calls.
-/

/-! ## The code -/

inductive PyError where
  | valueError
  | attributeError
  | ipBenchError (value : Text)
deriving DecidableEq, Repr

/-- The end of `unmarshall`: the data and the validity handed to the test, an
exception, or a loop that is still running. -/
inductive Unmarshalled where
  | passed (clientData : List UInt8) (valid : Bool)
  | raised (error : PyError)
  | looping
deriving DecidableEq, Repr

structure ReturnCode where
  code : Int
  str : Text
  msg : Text
deriving DecidableEq, Repr

/-- `_parse_return_code`; `none` is the `ValueError` of `int`. -/
def parseReturnCode (tables : CharTables) (data : Text) : Option ReturnCode :=
  match tables.int (slice 0 3 data) with
  | none => none
  | some code =>
      let fence1 := find '(' data
      if fence1 = -1 then some { code := code, str := strip (sliceFrom 4 data), msg := [] }
      else
        let fence2 := find ')' data
        some
          { code := code
            str := strip (slice 4 fence1 data)
            msg := strip (slice (fence1 + 1) fence2 data) }

/-- The loop that reads the data; `fuel` bounds its turns.  A negative size
makes `recv` raise. -/
def receive (valid : Bool) : (fuel : Nat) → Socket → Int → List UInt8 → Unmarshalled
  | 0, _, _, _ => .looping
  | fuel + 1, socket, contentLength, clientData =>
      if clientData.length = contentLength then .passed clientData valid
      else if contentLength < clientData.length then .raised .valueError
      else
        let received := socket.recv (contentLength - clientData.length).toNat
        receive valid fuel received.2 contentLength (clientData ++ received.1)

/-- The part of `unmarshall` after the status line.  A group that took part in
a match is never `None`, so that test is left out. -/
def readContent (tables : CharTables) (fuel : Nat) (socket : Socket) (buffer : List UInt8)
    (valid : Bool) : Unmarshalled :=
  let received := socket.recv 128
  let initialContent := buffer ++ received.1
  let clenline := decodeAscii initialContent
  let newline := find '\n' clenline
  match tables.matchNumber "Content-length: ".toList (sliceTo newline clenline) with
  | none => .raised .attributeError
  | some group =>
      match tables.int group with
      | none => .raised .valueError
      | some contentLength =>
          receive valid fuel received.2 contentLength (sliceFrom (newline + 1) initialContent)

def unmarshall (tables : CharTables) (fuel : Nat) (socket : Socket) : Unmarshalled :=
  let received := socket.recv 128
  let buffer := received.1
  let statusline := decodeUtf8 buffer
  let newline := find '\n' statusline
  match parseReturnCode tables (sliceTo newline statusline) with
  | none => .raised .valueError
  | some status =>
      let rest := sliceFrom (newline + 1) buffer
      if status.code = 220 then readContent tables fuel received.2 rest true
      else if status.code = 221 then readContent tables fuel received.2 rest false
      else .raised (.ipBenchError ("Test failed  : ".toList ++ status.msg))

/-! ## The stream -/

/-- The status line of MARSHALL, without its newline. -/
def statusText (valid : Bool) : Text :=
  if valid then "220 VALID DATA (Data to follow)".toList
  else "221 INVALID DATA (Data to follow)".toList

/-- The line with the length, without its newline. -/
def lengthText (length : Nat) : Text :=
  "Content-length: ".toList ++ decimalText length

/-- What the daemon sends for its data. -/
def marshalled (valid : Bool) (payload : List UInt8) : List UInt8 :=
  encode (statusText valid ++ ['\n']) ++
    (encode (lengthText payload.length ++ ['\n']) ++ payload)

/-- The bytes that a session writes. -/
def wire (events : List Daemon.SessionEvent) : List UInt8 :=
  events.flatMap fun event =>
    match event with
    | .sent text => encode text
    | .sentData data => data
    | _ => []

theorem strStatus_statusText (valid : Bool) :
    Daemon.strStatus (if valid then .validData else .invalidData) ["Data to follow".toList] =
      statusText valid ++ ['\n'] := by
  cases valid with
  | true => decide
  | false => decide

theorem wire_marshall {input : Daemon.SessionInput} (written : input.writable = true)
    {data : List UInt8} (pointed : input.plugin.data = some data) (process : Nat) :
    wire (Daemon.marshall input process).2 =
      marshalled (decide (input.plugin.marshall = 0)) data := by
  have status := strStatus_statusText (decide (input.plugin.marshall = 0))
  have code : (if (if input.plugin.marshall ≠ 0 then (1 : Int) else 0) ≠ 0 then
      Daemon.StatusCode.invalidData else .validData) =
      if decide (input.plugin.marshall = 0) = true then .validData else .invalidData := by
    by_cases succeeded : input.plugin.marshall = 0
    · simp [succeeded]
    · simp [succeeded]
  unfold Daemon.marshall Daemon.shuntMarshall Daemon.after Daemon.answer
  dsimp only
  rw [pointed]
  dsimp only
  rw [if_pos written, code, status, marshalled]
  change encode _ ++ (encode (lengthText data.length ++ ['\n']) ++ (data ++ [])) = _
  rw [List.append_nil]

/-! ## The loop -/

section Loop

variable {valid result : Bool} {fuel : Nat} {socket : Socket} {length : Int}
  {clientData data : List UInt8}

/-- The loop receives what is missing when the stream holds it. -/
theorem receive_passes (fits : clientData.length ≤ length)
    (held : length ≤ clientData.length + socket.stream.length)
    (enough : (length - clientData.length).toNat < fuel) :
    ∃ data, receive valid fuel socket length clientData = .passed data valid := by
  induction fuel generalizing socket clientData with
  | zero => exact absurd enough (Nat.not_lt_zero _)
  | succ fuel inductionHypothesis =>
      rw [receive]
      by_cases complete : clientData.length = length
      · exact ⟨clientData, if_pos complete⟩
      · have asked : 0 < (length - clientData.length).toNat := by omega
        have open_ : socket.stream ≠ [] := by
          intro empty
          rw [empty, List.length_nil] at held
          omega
        have some := List.length_pos_iff.mpr (socket.recv_ne_nil asked open_)
        have most := socket.recv_length_le (length - clientData.length).toNat
        have parts := congrArg List.length (socket.recv_append (length - clientData.length).toNat)
        rw [List.length_append] at parts
        rw [if_neg complete, if_neg (by omega)]
        dsimp only
        apply inductionHypothesis
        · rw [List.length_append]
          omega
        · rw [List.length_append]
          omega
        · rw [List.length_append]
          omega

/-- The loop ends with as many bytes as it was told to read. -/
theorem receive_length
    (passed : receive valid fuel socket length clientData = .passed data result) :
    data.length = length := by
  induction fuel generalizing socket clientData with
  | zero => cases passed
  | succ fuel inductionHypothesis =>
      rw [receive] at passed
      split at passed
      · next complete =>
          cases passed
          exact complete
      · split at passed
        · cases passed
        · exact inductionHypothesis passed

/-- What is passed has arrived before or is the beginning of the stream. -/
theorem receive_arrived
    (passed : receive valid fuel socket length clientData = .passed data result) :
    ∃ taken, taken <+: socket.stream ∧ data = clientData ++ taken := by
  induction fuel generalizing socket clientData with
  | zero => cases passed
  | succ fuel inductionHypothesis =>
      rw [receive] at passed
      split at passed
      · cases passed
        exact ⟨[], List.nil_prefix, (List.append_nil _).symm⟩
      · split at passed
        · cases passed
        · rcases inductionHypothesis passed with ⟨taken, first, rfl⟩
          refine ⟨(socket.recv (length - clientData.length).toNat).1 ++ taken, ?_,
            List.append_assoc _ _ _⟩
          rw [← socket.recv_append (length - clientData.length).toNat,
            List.prefix_append_right_inj]
          exact first

/-- With the right length the loop receives everything that is left. -/
theorem receive_all (valid : Bool) {length : Nat}
    (whole : clientData.length + socket.stream.length = length)
    (enough : socket.stream.length < fuel) :
    receive valid fuel socket length clientData = .passed (clientData ++ socket.stream) valid := by
  have passes : ∃ data, receive valid fuel socket length clientData = .passed data valid := by
    apply receive_passes
    · omega
    · omega
    · omega
  rcases passes with ⟨data, passed⟩
  have size := receive_length passed
  rcases receive_arrived passed with ⟨taken, first, rfl⟩
  rw [List.length_append] at size
  rw [passed, first.eq_of_length (by omega)]

end Loop

/-! ## The lines -/

theorem ascii_statusText (valid : Bool) : Ascii (statusText valid) := by
  cases valid with
  | true => decide
  | false => decide

theorem newline_statusText (valid : Bool) : '\n' ∉ statusText valid := by
  cases valid with
  | true => decide
  | false => decide

theorem parseReturnCode_code {tables : CharTables} {data : Text} {code : Int}
    (number : tables.int (slice 0 3 data) = some code) :
    ∃ status, parseReturnCode tables data = some status ∧ status.code = code := by
  rw [parseReturnCode, number]
  dsimp only
  split
  · exact ⟨_, rfl, rfl⟩
  · exact ⟨_, rfl, rfl⟩

theorem parseReturnCode_statusText (tables : CharTables) (valid : Bool) :
    ∃ status, parseReturnCode tables (statusText valid) = some status ∧
      status.code = if valid then 220 else 221 := by
  apply parseReturnCode_code
  cases valid with
  | true => exact tables.int_of_isDigit (List.all_eq_true.mp (by decide)) (by decide)
  | false => exact tables.int_of_isDigit (List.all_eq_true.mp (by decide)) (by decide)

theorem isDigit_ascii {char : Char} (digit : char.isDigit = true) : char.toNat < 128 :=
  Nat.lt_of_le_of_lt (isDigit_bounds digit).2 (by decide)

theorem ascii_lengthText (length : Nat) : Ascii (lengthText length) := by
  apply Ascii.append
  · decide
  · exact fun char member => isDigit_ascii (isDigit_of_mem_decimalText member)

theorem newline_lengthText (length : Nat) : '\n' ∉ lengthText length := by
  intro member
  rcases List.mem_append.mp member with literal | number
  · exact absurd literal (by decide)
  · exact absurd (isDigit_of_mem_decimalText number) (by decide)

/-- The pattern finds the number that follows the literal. -/
theorem matchNumber_digits (tables : CharTables) (literal : Text) {number : Text}
    (digits : ∀ char ∈ number, char.isDigit = true) (nonempty : number ≠ []) :
    tables.matchNumber literal (literal ++ number) = some number := by
  have decimal : ∀ char ∈ number, (tables.decimal char).isSome = true := by
    intro char member
    rw [tables.decimal_of_isDigit (digits char member)]
    rfl
  rw [CharTables.matchNumber, if_pos (List.prefix_append literal number), List.drop_left,
    List.takeWhile_eq_self_iff.mpr decimal]
  cases number with
  | nil => exact absurd rfl nonempty
  | cons char rest => rfl

/-- The number in a proper beginning of the line is too small. -/
theorem matchNumber_cut {tables : CharTables} {literal line group : Text} {length : Nat}
    (initial : line <+: literal ++ decimalText length)
    (proper : line ≠ literal ++ decimalText length)
    (matched : tables.matchNumber literal line = some group) :
    ∃ value : Nat, tables.int group = some (value : Int) ∧ value < length := by
  by_cases starts : literal <+: line
  · rcases starts with ⟨number, rfl⟩
    rw [List.prefix_append_right_inj] at initial
    have digits : ∀ char ∈ number, char.isDigit = true :=
      fun char member => isDigit_of_mem_decimalText (initial.subset member)
    have nonempty : number ≠ [] := by
      rintro rfl
      rw [CharTables.matchNumber, if_pos (List.prefix_append literal []), List.drop_left] at matched
      cases matched
    rw [matchNumber_digits tables literal digits nonempty] at matched
    rw [← Option.some.inj matched]
    refine ⟨_, tables.int_of_isDigit digits nonempty, ?_⟩
    exact ofDigitChars_lt_of_isPrefix nonempty initial fun same => proper (congrArg _ same)
  · rw [CharTables.matchNumber, if_neg starts] at matched
    cases matched

/-! ## The line with the length -/

section Content

variable {tables : CharTables} {valid : Bool} {socket : Socket} {buffer payload : List UInt8}

/-- When the line has arrived, the payload follows. -/
theorem readContent_arrived
    (whole : buffer ++ socket.stream =
      encode (lengthText payload.length ++ ['\n']) ++ payload)
    (arrived : encode (lengthText payload.length ++ ['\n']) <+: buffer ++ (socket.recv 128).1)
    {fuel : Nat} (enough : payload.length < fuel) :
    readContent tables fuel socket buffer valid = .passed payload valid := by
  rcases arrived with ⟨first, split⟩
  have parts := socket.recv_append 128
  rw [← parts, ← List.append_assoc, ← split, List.append_assoc, List.append_cancel_left_eq] at whole
  have ascii := ascii_lengthText payload.length
  have line : decodeAscii (buffer ++ (socket.recv 128).1) =
      lengthText payload.length ++ '\n' :: decodeAscii first := by
    rw [← split, decodeAscii_append (ascii.append (by decide)), List.append_assoc]
    rfl
  have bytes : (encode (lengthText payload.length ++ ['\n'])).length =
      (lengthText payload.length).length + 1 := by
    rw [encode_length (ascii.append (by decide)), List.length_append, List.length_singleton]
  have digits : ∀ char ∈ decimalText payload.length, char.isDigit = true :=
    fun char member => isDigit_of_mem_decimalText member
  have nonempty : decimalText payload.length ≠ [] := Nat.toDigits_ne_nil
  have lengths := congrArg List.length whole
  rw [List.length_append] at lengths
  have matched : tables.matchNumber "Content-length: ".toList (lengthText payload.length) =
      some (decimalText payload.length) := matchNumber_digits tables _ digits nonempty
  have number : tables.int (decimalText payload.length) = some (payload.length : Int) :=
    tables.int_decimalText payload.length
  have rest : sliceFrom (((lengthText payload.length).length : Int) + 1)
      (buffer ++ (socket.recv 128).1) = first := by
    rw [← Int.natCast_add_one, sliceFrom_natCast, ← bytes, ← split, List.drop_left]
  rw [readContent, line, find_append (newline_lengthText payload.length), sliceTo_natCast,
    List.take_left, matched]
  dsimp only
  rw [number, rest]
  dsimp only
  rw [receive_all valid lengths (by omega), whole]

/-- A line that has not arrived completely is cut off, and what is left of its
number is too small. -/
theorem readContent_cut
    (whole : buffer ++ socket.stream =
      encode (lengthText payload.length ++ ['\n']) ++ payload)
    (missing : ¬ encode (lengthText payload.length ++ ['\n']) <+: buffer ++ (socket.recv 128).1)
    (fuel : Nat) (result : Bool) :
    readContent tables fuel socket buffer valid ≠ .passed payload result := by
  have parts := socket.recv_append 128
  rw [← parts, ← List.append_assoc] at whole
  have initial : buffer ++ (socket.recv 128).1 <+: encode (lengthText payload.length) := by
    have shorter := (List.prefix_or_prefix_of_prefix ⟨_, whole⟩
      (List.prefix_append _ payload)).resolve_right missing
    rw [encode_append] at shorter missing
    refine (List.prefix_concat_iff.mp shorter).resolve_left fun same => missing ?_
    rw [same]
    exact List.prefix_refl _
  rcases exists_of_isPrefix_encode (ascii_lengthText payload.length) initial with
    ⟨start, shorter, bytes⟩
  have line : decodeAscii (buffer ++ (socket.recv 128).1) = start := by
    rw [bytes, decodeAscii_encode ((ascii_lengthText payload.length).of_isPrefix shorter)]
  have noNewline : '\n' ∉ start :=
    fun member => newline_lengthText payload.length (shorter.subset member)
  rw [readContent, line, find_absent noNewline, sliceTo_neg_one]
  cases matched : tables.matchNumber "Content-length: ".toList start.dropLast with
  | none => exact fun impossible => nomatch impossible
  | some group =>
      have proper : start.dropLast ≠ lengthText payload.length := by
        intro same
        have bound := shorter.length_le
        have nonempty : decimalText payload.length ≠ [] := Nat.toDigits_ne_nil
        have positive : 0 < (lengthText payload.length).length :=
          List.length_pos_iff.mpr (List.append_ne_nil_of_right_ne_nil _ nonempty)
        rw [← same, List.length_dropLast] at bound positive
        omega
      rcases matchNumber_cut ((List.dropLast_prefix start).trans shorter) proper matched with
        ⟨value, number, small⟩
      dsimp only
      rw [number]
      intro passed
      have length := receive_length passed
      omega

end Content

/-! ## The status line -/

/-- A status line whose end has not arrived is taken for the line with the
length, and does not match. -/
theorem readContent_status (tables : CharTables) (fuel : Nat) (socket : Socket)
    {valid : Bool} {start : Text} (nonempty : start ≠ []) (initial : start <+: statusText valid)
    (result : Bool) :
    readContent tables fuel socket (encode start) result = .raised .attributeError := by
  have digit : ∃ rest, statusText valid = '2' :: rest := by
    cases valid with
    | true => exact ⟨"20 VALID DATA (Data to follow)".toList, by decide⟩
    | false => exact ⟨"21 INVALID DATA (Data to follow)".toList, by decide⟩
  rcases digit with ⟨text, digit⟩
  have ascii := (ascii_statusText valid).of_isPrefix initial
  rw [digit] at initial
  rcases (List.prefix_cons_iff.mp initial).resolve_left nonempty with ⟨rest, rfl, _⟩
  have other : ∀ stop, ¬ "Content-length: ".toList <+:
      sliceTo stop ('2' :: rest ++ decodeAscii (socket.recv 128).1) := by
    intro stop literal
    have whole := literal.trans (List.take_prefix _ _)
    rcases List.prefix_cons_iff.mp whole with impossible | ⟨_, impossible, _⟩
    · exact absurd impossible (by decide)
    · have head : "Content-length: ".toList.head? = some '2' := congrArg List.head? impossible
      exact absurd head (by decide)
  rw [readContent, decodeAscii_append ascii, CharTables.matchNumber, if_neg (other _)]

/-! ## The whole stream -/

/-- The first two calls of `recv` receive the two lines completely. -/
structure HeadersArrive (socket : Socket) (valid : Bool) (length : Nat) : Prop where
  status : encode (statusText valid ++ ['\n']) <+: (socket.recv 128).1
  content : encode (statusText valid ++ ['\n']) ++ encode (lengthText length ++ ['\n']) <+:
    (socket.recv 128).1 ++ ((socket.recv 128).2.recv 128).1

/-- `unmarshall` ends by handing over the data with its validity. -/
def Passes (tables : CharTables) (socket : Socket) (payload : List UInt8) (valid : Bool) : Prop :=
  ∃ enough, ∀ fuel, enough ≤ fuel → unmarshall tables fuel socket = .passed payload valid

section Stream

variable {tables : CharTables} {valid : Bool} {socket : Socket} {payload : List UInt8}

/-- When the status line has arrived, the rest of it belongs to the content. -/
theorem unmarshall_arrived {first : List UInt8}
    (arrived : (socket.recv 128).1 = encode (statusText valid ++ ['\n']) ++ first) (fuel : Nat) :
    unmarshall tables fuel socket =
      readContent tables fuel (socket.recv 128).2 first valid := by
  have ascii := ascii_statusText valid
  have line : decodeUtf8 (socket.recv 128).1 = statusText valid ++ '\n' :: decodeUtf8 first := by
    rw [arrived, decodeUtf8_append (ascii.append (by decide)), List.append_assoc]
    rfl
  have bytes : (encode (statusText valid ++ ['\n'])).length = (statusText valid).length + 1 := by
    rw [encode_length (ascii.append (by decide)), List.length_append, List.length_singleton]
  have rest : sliceFrom (((statusText valid).length : Int) + 1) (socket.recv 128).1 = first := by
    rw [← Int.natCast_add_one, sliceFrom_natCast, ← bytes, arrived, List.drop_left]
  rcases parseReturnCode_statusText tables valid with ⟨status, parsed, code⟩
  unfold unmarshall
  dsimp only
  rw [line, find_append (newline_statusText valid), sliceTo_natCast, List.take_left, parsed]
  dsimp only
  rw [rest, code]
  cases valid with
  | true => rfl
  | false => rfl

theorem unmarshall_cut (whole : socket.stream = marshalled valid payload)
    (missing : ¬ encode (statusText valid ++ ['\n']) <+: (socket.recv 128).1) (fuel : Nat)
    (data : List UInt8) (result : Bool) :
    unmarshall tables fuel socket ≠ .passed data result := by
  have parts := socket.recv_append 128
  rw [whole, marshalled] at parts
  have initial : (socket.recv 128).1 <+: encode (statusText valid) := by
    have shorter := (List.prefix_or_prefix_of_prefix ⟨_, parts⟩
      (List.prefix_append _ _)).resolve_right missing
    rw [encode_append] at shorter missing
    refine (List.prefix_concat_iff.mp shorter).resolve_left fun same => missing ?_
    rw [same]
    exact List.prefix_refl _
  rcases exists_of_isPrefix_encode (ascii_statusText valid) initial with ⟨start, shorter, bytes⟩
  have line : decodeUtf8 (socket.recv 128).1 = start := by
    rw [bytes, decodeUtf8_encode ((ascii_statusText valid).of_isPrefix shorter)]
  have noNewline : '\n' ∉ start := fun member => newline_statusText valid (shorter.subset member)
  have nonempty : start ≠ [] := by
    rintro rfl
    have lengths := congrArg List.length whole
    have positive := encode_length ((ascii_statusText valid).append (by decide : Ascii ['\n']))
    rw [List.length_append, List.length_singleton] at positive
    rw [marshalled, List.length_append, positive] at lengths
    refine socket.recv_ne_nil (by decide) ?_ bytes
    intro empty
    rw [empty, List.length_nil] at lengths
    omega
  have rest : sliceFrom (-1 + 1) (socket.recv 128).1 = encode start := by
    rw [bytes]
    exact sliceFrom_natCast 0 _
  unfold unmarshall
  dsimp only
  rw [line, find_absent noNewline, rest]
  cases parseReturnCode tables (sliceTo (-1) start) with
  | none => exact fun impossible => nomatch impossible
  | some status =>
      dsimp only
      rw [readContent_status tables fuel _ nonempty shorter,
        readContent_status tables fuel _ nonempty shorter]
      split
      · exact fun impossible => nomatch impossible
      · split
        · exact fun impossible => nomatch impossible
        · exact fun impossible => nomatch impossible

/-- The result reaches the test exactly as it was sent, whatever the cuts, if
and only if the first two calls of `recv` receive both lines. -/
theorem unmarshall_passes_iff (tables : CharTables) (valid : Bool) (payload : List UInt8)
    (cuts : List Nat) :
    Passes tables { stream := marshalled valid payload, cuts := cuts } payload valid ↔
      HeadersArrive { stream := marshalled valid payload, cuts := cuts } valid payload.length := by
  generalize socketEq : Socket.mk (marshalled valid payload) cuts = socket
  have whole : socket.stream = marshalled valid payload := by
    rw [← socketEq]
  by_cases status : encode (statusText valid ++ ['\n']) <+: (socket.recv 128).1
  · rcases status with ⟨first, arrived⟩
    have parts := socket.recv_append 128
    rw [whole, marshalled, ← arrived, List.append_assoc, List.append_cancel_left_eq] at parts
    have same : ∀ fuel, unmarshall tables fuel socket =
        readContent tables fuel (socket.recv 128).2 first valid :=
      fun fuel => unmarshall_arrived arrived.symm fuel
    by_cases content : encode (lengthText payload.length ++ ['\n']) <+:
        first ++ ((socket.recv 128).2.recv 128).1
    · constructor
      · intro _
        refine ⟨⟨first, arrived⟩, ?_⟩
        rw [← arrived, List.append_assoc, List.prefix_append_right_inj]
        exact content
      · intro _
        refine ⟨payload.length + 1, fun fuel enough => ?_⟩
        rw [same fuel]
        exact readContent_arrived parts content enough
    · constructor
      · rintro ⟨enough, passes⟩
        have passed := passes enough (Nat.le_refl enough)
        rw [same enough] at passed
        exact absurd passed (readContent_cut parts content enough valid)
      · intro arrive
        have both := arrive.content
        rw [← arrived, List.append_assoc, List.prefix_append_right_inj] at both
        exact absurd both content
  · constructor
    · rintro ⟨enough, passes⟩
      exact absurd (passes enough (Nat.le_refl enough))
        (unmarshall_cut whole status enough payload valid)
    · exact fun arrive => absurd arrive.status status

end Stream

/-- A status line whose first ten bytes arrive alone makes `unmarshall` raise. -/
theorem statusLine_cut_raises :
    ¬ Passes asciiTables { stream := marshalled true [1, 2, 3], cuts := [10, 40] } [1, 2, 3] true ∧
      ∀ fuel, unmarshall asciiTables fuel
        { stream := marshalled true [1, 2, 3], cuts := [10, 40] } = .raised .attributeError := by
  have raised : ∀ fuel, unmarshall asciiTables fuel
      { stream := marshalled true [1, 2, 3], cuts := [10, 40] } = .raised .attributeError :=
    fun fuel => rfl
  refine ⟨?_, raised⟩
  rintro ⟨enough, passes⟩
  exact nomatch (raised enough).symm.trans (passes enough (Nat.le_refl enough))

end Controller
end Ipbench
