import Ipbench.Foundation.Words
import Ipbench.Tbench.Exchange
import Ipbench.Tbench.StringSub

namespace Ipbench
namespace Tbench

open Foundation

/-!
# The load file

Each child of tbench reads the load file line by line and carries out the
operation of each line.  A line is rewritten in its buffer, cut into words by
`strtok`, and its words become an array of 20 pointers that is never cleared:
a command that names too few operands reads the pointers that an earlier line
has left.

`childRun` is the code, with the buffer, the pointers and the zero bytes that
`strtok` writes.  `runLines` is what it is for: the words of each rewritten
line, in the order of the file.
-/

/-! ## Lines -/

/-- The size of the array `line`. -/
def lineSize : Nat :=
  1024

/-- `fgets`: up to a line break, and no more bytes than there is room for. -/
def fgets : (room : Nat) → (file : List UInt8) → List UInt8 × List UInt8
  | 0, file => ([], file)
  | _ + 1, [] => ([], [])
  | room + 1, byte :: file =>
      if byte = 10 then ([10], file)
      else
        let later := fgets room file
        (byte :: later.1, later.2)

/-! ## Words -/

def isDelimiter (byte : UInt8) : Bool :=
  byte == 32 || byte == 10

/-- `strtok` from an offset of the buffer on: the offset of a token, if there is one, the buffer
with a zero byte behind the token, and the offset for the next call. -/
def strtok (buf : List UInt8) (next : Nat) : Option (Option Nat × List UInt8 × Nat) :=
  (readString (buf.drop next)).map fun text =>
    let skipped := (text.takeWhile isDelimiter).length
    let token := ((text.dropWhile isDelimiter).takeWhile fun byte => !isDelimiter byte).length
    if token = 0 then (none, buf, next + skipped)
    else if skipped + token = text.length then (some (next + skipped), buf, next + skipped + token)
    else (some (next + skipped), buf.set (next + skipped + token) 0, next + skipped + token + 1)

/-- A pointer of the array `params`: not written yet, to an empty string, or into the line. -/
inductive Param where
  | wild
  | empty
  | inLine (offset : Nat)
deriving DecidableEq, Repr

/-- The string that a pointer points to. -/
def Param.read (buf : List UInt8) : Param → Option (List UInt8)
  | wild => none
  | empty => some []
  | inLine offset => readString (buf.drop offset)

/-- The loop that fills `params`, with the number of its elements that are left. -/
def parseParams : (slots : Nat) → (buf : List UInt8) → (params : List Param) → (i next : Nat) →
    Option (List UInt8 × List Param × Nat)
  | 0, _, _, _, _ => none
  | slots + 1, buf, params, i, next =>
      (strtok buf next).bind fun called =>
        match called.1 with
        | none => some (called.2.1, params.set i .empty, i)
        | some offset =>
            parseParams slots called.2.1 (params.set i (.inLine offset)) (i + 1) called.2.2

/-! ## Commands -/

def hexDigit (byte : UInt8) : Option Nat :=
  if 48 ≤ byte ∧ byte ≤ 57 then some (byte.toNat - 48)
  else if 97 ≤ byte ∧ byte ≤ 102 then some (byte.toNat - 87)
  else if 65 ≤ byte ∧ byte ≤ 70 then some (byte.toNat - 55)
  else none

/-- The number that the digits of a base at the front of a text stand for. -/
def digitsValue (base : Nat) : (value : Nat) → List UInt8 → Nat
  | value, [] => value
  | value, byte :: rest =>
      match hexDigit byte with
      | none => value
      | some digit => if digit < base then digitsValue base (base * value + digit) rest else value

/-- The base that the digits show themselves. -/
def unsignedValue : List UInt8 → Nat
  | 48 :: 120 :: rest => digitsValue 16 0 rest
  | 48 :: 88 :: rest => digitsValue 16 0 rest
  | 48 :: rest => digitsValue 8 0 rest
  | text => digitsValue 10 0 text

/-- `strtol` with base zero, where `long` has 64 bits. -/
def strtol (text : List UInt8) : Int :=
  match text.dropWhile isSpaceByte with
  | 45 :: digits => saturateInt64 (-unsignedValue digits)
  | 43 :: digits => saturateInt64 (unsignedValue digits)
  | digits => saturateInt64 (unsignedValue digits)

/-- `ival` as an argument of type `int`. -/
def ival (text : List UInt8) : Int :=
  toInt (strtol text % 0x100000000).toNat

/-- The string of some bytes, up to a zero byte among them. -/
def cstring (bytes : List UInt8) : CString where
  bytes := bytes.takeWhile fun byte => byte != 0
  ended := fun member => by simpa using List.mem_takeWhile_imp member

inductive LineEnd where
  | skip
  | run (operation : Operation)
  | oldFile
  | unknown

/-- The branches of `child_run`, with the operands that they read. -/
def command (read : Nat → Option (List UInt8)) : Option LineEnd :=
  (read 0).bind fun name =>
    if name.take 3 = literal "SMB" then some .oldFile
    else if name = literal "NTCreateX" then
      (read 2).bind fun _ => (read 3).bind fun _ => (read 4).bind fun _ => some (.run .createx)
    else if name = literal "Close" then (read 1).bind fun _ => some (.run .close)
    else if name = literal "Rename" then
      (read 1).bind fun old => (read 2).bind fun new =>
        some (.run (.rename (cstring old) (cstring new)))
    else if name = literal "Unlink" then
      (read 1).bind fun fname => some (.run (.unlink (cstring fname)))
    else if name = literal "Deltree" then some (.run .deltree)
    else if name = literal "Rmdir" then some (.run .rmdir)
    else if name = literal "QUERY_PATH_INFORMATION" then
      (read 1).bind fun fname => some (.run (.qpathinfo (cstring fname)))
    else if name = literal "QUERY_FILE_INFORMATION" then
      (read 1).bind fun _ => some (.run .qfileinfo)
    else if name = literal "QUERY_FS_INFORMATION" then
      (read 1).bind fun _ => some (.run .qfsinfo)
    else if name = literal "FIND_FIRST" then
      (read 1).bind fun fname => some (.run (.findfirst (cstring fname)))
    else if name = literal "WriteX" then
      (read 1).bind fun _ => (read 2).bind fun _ => (read 3).bind fun size =>
        (read 4).bind fun _ => some (.run (.writex (ival size)))
    else if name = literal "ReadX" then
      (read 1).bind fun _ => (read 2).bind fun _ => (read 3).bind fun size =>
        (read 4).bind fun _ => some (.run (.readx (ival size)))
    else if name = literal "Flush" then (read 1).bind fun _ => some (.run .flush)
    else some .unknown

/-! ## A child -/

/-- The arrays of `child_run`. -/
structure Scanner where
  line : List UInt8
  params : List Param
deriving DecidableEq, Repr

def clientName (id : Nat) : List UInt8 :=
  literal "client" ++ decimal id

/-- The three replacements in the line. -/
def rewriteLine (cname line : List UInt8) : Option (List UInt8) :=
  (allStringSub line (literal "client1") cname).bind fun line =>
  (allStringSub line [92] [47]).bind fun line =>
  allStringSub line [32, 47] [32]

/-- A line, from `fgets` to the function that it calls. -/
def lineStep (cname : List UInt8) (scanner : Scanner) (got : List UInt8) :
    Option (Scanner × LineEnd) :=
  (memcpy scanner.line 0 (got ++ [0]) (got.length + 1)).bind fun line =>
  (rewriteLine cname line).bind fun line =>
  (parseParams 20 line scanner.params 0 0).bind fun parsed =>
    let scanner := { line := parsed.1, params := parsed.2.1 }
    if parsed.2.2 < 2 then some (scanner, .skip)
    else
      (command fun k => (scanner.params[k]?).bind (Param.read scanner.line)).map fun ending =>
        (scanner, ending)

inductive EarlyExit where
  | oldFile
  | unknown
  | failed (trouble : Trouble)
deriving DecidableEq, Repr

/-- The loop of `child_run`, with the number of the lines it has read; `none` leaves an array.
`networks` says what the network does to the exchange of each line. -/
def childLoop (discards : Bool) (networks : Nat → Network) (cname : List UInt8) :
    (fuel : Nat) → Scanner → (file : List UInt8) → Child → (line : Nat) →
      Option (Except EarlyExit (Child × Nat))
  | 0, _, _, _, _ => none
  | fuel + 1, scanner, file, child, line =>
      let got := fgets (lineSize - 2) file
      if got.1 = [] then some (.ok (child, line))
      else
        (lineStep cname scanner got.1).bind fun stepped =>
          match stepped.2 with
          | .skip => childLoop discards networks cname fuel stepped.1 got.2 child (line + 1)
          | .oldFile => some (.error .oldFile)
          | .unknown => some (.error .unknown)
          | .run operation =>
              match operate discards child (operation, networks line) with
              | .error trouble => some (.error (.failed trouble))
              | .ok child => childLoop discards networks cname fuel stepped.1 got.2 child (line + 1)

/-- `child_run`, where `line` is what stands in the buffer before. -/
def childRun (discards : Bool) (networks : Nat → Network) (id : Nat) (line file : List UInt8)
    (child : Child) : Option (Except EarlyExit (Child × Nat)) :=
  childLoop discards networks (clientName id) (file.length + 1)
    { line := line, params := List.replicate 20 .wild } file child 0

/-! ## What it is for -/

def rewritten (cname got : List UInt8) : List UInt8 :=
  replaceAll [32, 47] [32]
    (replaceAll [92] [47] (replaceAll (literal "client1") cname (got.takeWhile fun b => b != 0)))

def lineWords (cname got : List UInt8) : List (List UInt8) :=
  wordsBetween isDelimiter (rewritten cname got)

/-- What the words of a line mean, where missing operands are empty. -/
def meaning (words : List (List UInt8)) : Option LineEnd :=
  if words.length < 2 then some .skip else command fun k => some (words.getD k [])

/-- A line stays within its array while it is rewritten. -/
structure HasRoom (cname got : List UInt8) : Prop where
  renamed : Room lineSize (literal "client1") cname (got.takeWhile fun b => b != 0)
  slashes : Room lineSize [92] [47]
    (replaceAll (literal "client1") cname (got.takeWhile fun b => b != 0))
  relative : Room lineSize [32, 47] [32]
    (replaceAll [92] [47] (replaceAll (literal "client1") cname (got.takeWhile fun b => b != 0)))

instance (cname got : List UInt8) : Decidable (HasRoom cname got) :=
  decidable_of_iff (_ ∧ _ ∧ _)
    ⟨fun room => ⟨room.1, room.2.1, room.2.2⟩, fun room => ⟨room.1, room.2, room.3⟩⟩

/-- It also has fewer words than there are parameters. -/
def LineFits (cname got : List UInt8) : Prop :=
  HasRoom cname got ∧ (lineWords cname got).length < 20

instance (cname got : List UInt8) : Decidable (LineFits cname got) :=
  inferInstanceAs (Decidable (_ ∧ _))

/-- The commands with four operands. -/
def longCommands : List (List UInt8) :=
  [literal "NTCreateX", literal "WriteX", literal "ReadX"]

/-- A long command names at least three of its operands. -/
def Settled (words : List (List UInt8)) : Prop :=
  words.getD 0 [] ∈ longCommands → 4 ≤ words.length

instance (words : List (List UInt8)) : Decidable (Settled words) :=
  inferInstanceAs (Decidable (_ → _))

/-- The lines of a file, as `fgets` cuts them. -/
def linesOf : (fuel : Nat) → (file : List UInt8) → List (List UInt8)
  | 0, _ => []
  | fuel + 1, file =>
      let got := fgets (lineSize - 2) file
      if got.1 = [] then [] else got.1 :: linesOf fuel got.2

def fileLines (file : List UInt8) : List (List UInt8) :=
  linesOf (file.length + 1) file

/-- The lines of a file, one after another. -/
def runLines (discards : Bool) (networks : Nat → Network) (cname : List UInt8) :
    (lines : List (List UInt8)) → Child → (line : Nat) → Option (Except EarlyExit (Child × Nat))
  | [], child, line => some (.ok (child, line))
  | got :: rest, child, line =>
      if LineFits cname got then
        (meaning (lineWords cname got)).bind fun ending =>
          match ending with
          | .skip => runLines discards networks cname rest child (line + 1)
          | .oldFile => some (.error .oldFile)
          | .unknown => some (.error .unknown)
          | .run operation =>
              match operate discards child (operation, networks line) with
              | .error trouble => some (.error (.failed trouble))
              | .ok child => runLines discards networks cname rest child (line + 1)
      else none

/-! ## Words of a buffer -/

theorem strtok_blank {passed text : List UInt8} (junk : List UInt8) (ended : 0 ∉ text)
    (all : ∀ byte ∈ text, isDelimiter byte = true) :
    strtok (passed ++ (text ++ 0 :: junk)) passed.length =
      some (none, passed ++ (text ++ 0 :: junk), passed.length + text.length) := by
  have front : text.takeWhile isDelimiter = text := List.takeWhile_eq_self_iff.mpr all
  have behind : text.dropWhile isDelimiter = [] := List.dropWhile_eq_nil_iff.mpr all
  rw [strtok, List.drop_left, readString_append ended, Option.map_some, front, behind]
  rfl

section Token

variable {front word : List UInt8} (passed junk : List UInt8)
  (all : ∀ byte ∈ front, isDelimiter byte = true) (nonempty : word ≠ [])
  (none : ∀ byte ∈ word, isDelimiter byte = false)

include all nonempty none

theorem strtok_last (ended : 0 ∉ front ++ word) :
    strtok (passed ++ (front ++ word ++ 0 :: junk)) passed.length =
      some (some (passed.length + front.length), passed ++ (front ++ word ++ 0 :: junk),
        passed.length + front.length + word.length) := by
  have starts : word.takeWhile isDelimiter = [] ∧ word.dropWhile isDelimiter = word := by
    cases word with
    | nil => exact absurd rfl nonempty
    | cons byte word => simp [none byte List.mem_cons_self]
  have whole : (word.takeWhile fun byte => !isDelimiter byte) = word :=
    List.takeWhile_eq_self_iff.mpr fun byte member => by simp [none byte member]
  have length : word.length ≠ 0 := fun zero => nonempty (List.eq_nil_of_length_eq_zero zero)
  rw [strtok, List.drop_left, readString_append ended, Option.map_some,
    List.takeWhile_append_of_pos all, List.dropWhile_append_of_pos all, starts.1, starts.2, whole,
    List.append_nil, List.length_append]
  dsimp only
  rw [if_neg length, if_pos rfl]

/-- A word before a delimiter ends at a zero byte that takes its place. -/
theorem strtok_before {delimiter : UInt8} {rest : List UInt8}
    (ends : isDelimiter delimiter = true) (ended : 0 ∉ front ++ (word ++ delimiter :: rest)) :
    strtok (passed ++ (front ++ (word ++ delimiter :: rest) ++ 0 :: junk)) passed.length =
      some (some (passed.length + front.length),
        passed ++ (front ++ (word ++ 0 :: (rest ++ 0 :: junk))),
        passed.length + front.length + word.length + 1) := by
  have starts : (word ++ delimiter :: rest).takeWhile isDelimiter = [] ∧
      (word ++ delimiter :: rest).dropWhile isDelimiter = word ++ delimiter :: rest := by
    cases word with
    | nil => exact absurd rfl nonempty
    | cons byte word => simp [none byte List.mem_cons_self]
  have whole : ((word ++ delimiter :: rest).takeWhile fun byte => !isDelimiter byte) = word := by
    rw [List.takeWhile_append_of_pos fun byte member => by simp [none byte member]]
    simp [ends]
  have length : word.length ≠ 0 := fun zero => nonempty (List.eq_nil_of_length_eq_zero zero)
  have more : ¬ front.length + word.length =
      (front ++ (word ++ delimiter :: rest)).length := by
    simp only [List.length_append, List.length_cons]
    omega
  rw [strtok, List.drop_left, readString_append ended, Option.map_some,
    List.takeWhile_append_of_pos all, List.dropWhile_append_of_pos all, starts.1, starts.2, whole,
    List.append_nil]
  dsimp only
  rw [if_neg length, if_neg more]
  have place : (passed ++ (front ++ (word ++ delimiter :: rest) ++ 0 :: junk)).set
      (passed.length + front.length + word.length) 0 =
        passed ++ (front ++ (word ++ 0 :: (rest ++ 0 :: junk))) := by
    rw [show passed ++ (front ++ (word ++ delimiter :: rest) ++ 0 :: junk) =
      (passed ++ front ++ word) ++ delimiter :: (rest ++ 0 :: junk) by simp,
      show passed.length + front.length + word.length = (passed ++ front ++ word).length by
        rw [List.length_append, List.length_append],
      List.set_append_right _ _ (Nat.le_refl _)]
    simp
  rw [place]

end Token

/-! ## Parameters -/

/-- The pointers that the loop has found, each to its word. -/
def PointTo (buf : List UInt8) (offsets : List Nat) (words : List (List UInt8)) : Prop :=
  offsets.map (fun offset => readString (buf.drop offset)) = words.map some

theorem readString_word {word : List UInt8} (ended : 0 ∉ word) (passed front more : List UInt8) :
    readString ((passed ++ (front ++ (word ++ 0 :: more))).drop (passed.length + front.length)) =
      some word := by
  rw [List.drop_length_add_append, List.drop_left, readString_append ended]

/-- The loop points to each word of a text, behind the elements that are filled already, if the
array has an element for each and one more. -/
theorem parseParams_spec (slots : Nat) (passed text junk : List UInt8) (filled free : List Param)
    (ended : 0 ∉ text) (size : free.length = slots) :
    ((wordsBetween isDelimiter text).length < slots → ∃ tail offsets,
      parseParams slots (passed ++ (text ++ 0 :: junk)) (filled ++ free) filled.length
          passed.length =
        some (passed ++ tail,
          filled ++ (offsets.map Param.inLine ++ Param.empty ::
            free.drop ((wordsBetween isDelimiter text).length + 1)),
          filled.length + (wordsBetween isDelimiter text).length) ∧
      tail.length = (text ++ 0 :: junk).length ∧ (text = [] → tail = 0 :: junk) ∧
      PointTo (passed ++ tail) offsets (wordsBetween isDelimiter text)) ∧
    (slots ≤ (wordsBetween isDelimiter text).length →
      parseParams slots (passed ++ (text ++ 0 :: junk)) (filled ++ free) filled.length
        passed.length = none) := by
  induction slots generalizing passed text junk filled free with
  | zero => exact ⟨fun impossible => absurd impossible (Nat.not_lt_zero _), fun _ => rfl⟩
  | succ slots inductionHypothesis =>
      rcases List.exists_cons_of_length_eq_add_one size with ⟨first, free, rfl⟩
      have later : free.length = slots := Nat.succ.inj size
      have written : ∀ param, (filled ++ first :: free).set filled.length param =
          (filled ++ [param]) ++ free := fun param => by
        rw [List.set_append_right _ _ (Nat.le_refl _)]
        simp
      have grown : ∀ param : Param, filled.length + 1 = (filled ++ [param]).length := fun param => by
        rw [List.length_append]
        rfl
      rw [parseParams]
      cases firstWord isDelimiter text with
      | blank all =>
          have empty : wordsBetween isDelimiter text = [] := by
            have skipped := wordsBetween_skip isDelimiter all []
            rwa [List.append_nil, wordsBetween_nil] at skipped
          rw [strtok_blank junk ended all, Option.bind_some, empty]
          refine ⟨fun _ => ⟨text ++ 0 :: junk, [], ?_, rfl, ?_, rfl⟩, fun impossible =>
            absurd impossible (Nat.not_succ_le_zero _)⟩
          · dsimp only
            rw [written]
            simp
          · rintro rfl
            rfl
      | last all nonempty none =>
          rename_i front word
          have single : wordsBetween isDelimiter (front ++ word) = [word] := by
            rw [wordsBetween_skip isDelimiter all, wordsBetween_single isDelimiter nonempty none]
          have buffer : passed ++ (front ++ word ++ 0 :: junk) =
              (passed ++ (front ++ word)) ++ ([] ++ 0 :: junk) := by simp
          have next : passed.length + front.length + word.length =
              (passed ++ (front ++ word)).length := by simp [Nat.add_assoc]
          obtain ⟨succeeds, fails⟩ := inductionHypothesis (passed ++ (front ++ word)) [] junk
            (filled ++ [.inLine (passed.length + front.length)]) free List.not_mem_nil later
          rw [wordsBetween_nil] at succeeds fails
          rw [strtok_last passed junk all nonempty none ended, Option.bind_some, single]
          dsimp only
          rw [written, grown (.inLine (passed.length + front.length)), next, buffer]
          refine ⟨fun more => ?_, fun full => fails (Nat.le_of_succ_le_succ full)⟩
          rcases succeeds (Nat.lt_of_succ_lt_succ more) with ⟨tail, offsets, found, _, rest, points⟩
          have none : offsets = [] := List.map_eq_nil_iff.mp points
          rw [found, none, rest rfl]
          refine ⟨front ++ (word ++ 0 :: junk), [passed.length + front.length], ?_, ?_, ?_, ?_⟩
          · simp
          · simp
          · intro empty
            exact absurd (List.append_eq_nil_iff.mp empty).2 nonempty
          · have read := readString_word (fun member => ended (List.mem_append_right front member))
              passed front junk
            rw [PointTo, List.map_singleton, read]
            rfl
      | before all nonempty none ends =>
          rename_i front word rest delimiter
          have several : wordsBetween isDelimiter (front ++ (word ++ delimiter :: rest)) =
              word :: wordsBetween isDelimiter rest := by
            rw [wordsBetween_skip isDelimiter all, wordsBetween_word isDelimiter nonempty none ends]
          have buffer : passed ++ (front ++ (word ++ 0 :: (rest ++ 0 :: junk))) =
              (passed ++ (front ++ (word ++ [0]))) ++ (rest ++ 0 :: junk) := by simp
          have next : passed.length + front.length + word.length + 1 =
              (passed ++ (front ++ (word ++ [0]))).length := by simp [Nat.add_assoc]
          have inner : 0 ∉ word ∧ 0 ∉ rest := by
            constructor
            · exact fun member => ended (by simp [member])
            · exact fun member => ended (by simp [member])
          obtain ⟨succeeds, fails⟩ := inductionHypothesis (passed ++ (front ++ (word ++ [0]))) rest
            junk (filled ++ [.inLine (passed.length + front.length)]) free inner.2 later
          rw [strtok_before passed junk all nonempty none ends ended, Option.bind_some, several]
          dsimp only
          rw [written, grown (.inLine (passed.length + front.length)), next, buffer,
            List.length_cons]
          refine ⟨fun more => ?_, fun full => fails (Nat.le_of_succ_le_succ full)⟩
          obtain ⟨tail, offsets, found, length, _, points⟩ :=
            succeeds (Nat.lt_of_succ_lt_succ more)
          have whole : passed ++ (front ++ (word ++ [0])) ++ tail =
              passed ++ (front ++ (word ++ 0 :: tail)) := by simp
          rw [found]
          rw [whole] at points ⊢
          refine ⟨front ++ (word ++ 0 :: tail), (passed.length + front.length) :: offsets, ?_, ?_,
            ?_, ?_⟩
          · simp [Nat.add_assoc, Nat.add_comm 1]
          · simp [length]
          · intro empty
            exact absurd (List.append_eq_nil_iff.mp (List.append_eq_nil_iff.mp empty).2).1 nonempty
          · rw [PointTo, List.map_cons, readString_word inner.1, List.map_cons]
            exact congrArg (List.cons (some word)) points

theorem parseParams_line {text : List UInt8} (junk : List UInt8) {params : List Param}
    (ended : 0 ∉ text) (size : params.length = 20) :
    ((wordsBetween isDelimiter text).length < 20 → ∃ line offsets more,
      parseParams 20 (text ++ 0 :: junk) params 0 0 =
        some (line, offsets.map Param.inLine ++ Param.empty :: more,
          (wordsBetween isDelimiter text).length) ∧
      line.length = (text ++ 0 :: junk).length ∧
      (offsets.map Param.inLine ++ Param.empty :: more).length = 20 ∧
      PointTo line offsets (wordsBetween isDelimiter text)) ∧
    (20 ≤ (wordsBetween isDelimiter text).length →
      parseParams 20 (text ++ 0 :: junk) params 0 0 = none) := by
  rcases parseParams_spec 20 [] text junk [] params ended size with ⟨parses, overruns⟩
  simp only [List.nil_append, List.length_nil, Nat.zero_add] at parses overruns
  refine ⟨fun few => ?_, overruns⟩
  rcases parses few with ⟨line, offsets, parsed, length, _, points⟩
  have count : offsets.length = (wordsBetween isDelimiter text).length := by
    simpa using congrArg List.length points
  refine ⟨line, offsets, _, parsed, length, ?_, points⟩
  rw [List.length_append, List.length_map, List.length_cons, List.length_drop, size, count]
  omega

/-- The parameters up to the empty one are the words. -/
theorem read_param {buf : List UInt8} {offsets : List Nat} {words : List (List UInt8)}
    (points : PointTo buf offsets words) (more : List Param) {k : Nat} (inside : k ≤ words.length) :
    ((offsets.map Param.inLine ++ Param.empty :: more)[k]?).bind (Param.read buf) =
      some (words.getD k []) := by
  induction words generalizing offsets k with
  | nil =>
      have none : offsets = [] := List.map_eq_nil_iff.mp points
      have zero : k = 0 := Nat.le_zero.mp inside
      rw [none, zero]
      rfl
  | cons word words inductionHypothesis =>
      cases offsets with
      | nil => cases points
      | cons offset offsets =>
          rcases List.cons.inj points with ⟨here, later⟩
          cases k with
          | zero => exact here
          | succ k => exact inductionHypothesis later (Nat.le_of_succ_le_succ inside)

/-- A settled command reads no pointer of an earlier line. -/
theorem command_eq_meaning {read : Nat → Option (List UInt8)} {words : List (List UInt8)}
    (reads : ∀ k, k ≤ words.length → read k = some (words.getD k [])) (two : 2 ≤ words.length)
    (settled : Settled words) :
    command read = command fun k => some (words.getD k []) := by
  have name := reads 0 (Nat.zero_le _)
  have first := reads 1 (by omega)
  have second := reads 2 two
  unfold command
  rw [name, first, second]
  dsimp only [Option.bind_some]
  by_cases long : words.getD 0 [] ∈ longCommands
  · have four := settled long
    rw [reads 3 (by omega), reads 4 four]
    rfl
  · simp only [longCommands, List.mem_cons, List.not_mem_nil, or_false, not_or] at long
    simp only [if_neg long.1, if_neg long.2.1, if_neg long.2.2]

/-! ## A line -/

theorem text_before_zero (got junk : List UInt8) :
    ∃ more, got ++ 0 :: junk = (got.takeWhile fun b => b != 0) ++ 0 :: more := by
  have whole := got.takeWhile_append_dropWhile (p := fun b => b != 0)
  cases behind : got.dropWhile fun b => b != 0 with
  | nil =>
      rw [behind, List.append_nil] at whole
      exact ⟨junk, by rw [whole]⟩
  | cons byte rest =>
      have zero : byte = 0 := by
        have head := List.head?_dropWhile_not (fun b => b != 0) got
        rw [behind] at head
        simpa using head
      rw [behind, zero] at whole
      refine ⟨rest ++ 0 :: junk, ?_⟩
      conv_lhs => rw [← whole]
      rw [List.append_assoc]
      rfl

theorem stored_line {line got : List UInt8} (size : line.length = lineSize)
    (short : got.length < lineSize) :
    ∃ more, memcpy line 0 (got ++ [0]) (got.length + 1) =
        some ((got.takeWhile fun b => b != 0) ++ 0 :: more) ∧
      ((got.takeWhile fun b => b != 0) ++ 0 :: more).length = lineSize := by
  rcases text_before_zero got (line.drop (got.length + 1)) with ⟨more, buffer⟩
  have length : (got ++ [0]).length = got.length + 1 := List.length_append
  have room : got.length + 1 ≤ (got ++ [0]).length ∧ 0 + (got.length + 1) ≤ line.length := by
    rw [length, size]
    omega
  have stored : memcpy line 0 (got ++ [0]) (got.length + 1) =
      some ((got.takeWhile fun b => b != 0) ++ 0 :: more) := by
    rw [memcpy, if_pos room, List.take_of_length_le (Nat.le_of_eq length), List.take_zero,
      List.nil_append, Nat.zero_add, List.append_assoc, ← buffer]
    rfl
  exact ⟨more, stored, (memcpy_length stored).trans size⟩

theorem replacement_spec (pattern insert : List UInt8) {text junk : List UInt8}
    (nonempty : pattern ≠ []) (plain : 0 ∉ insert) (ended : 0 ∉ text)
    (size : (text ++ 0 :: junk).length = lineSize) :
    (Room lineSize pattern insert text → ∃ dragged,
      allStringSub (text ++ 0 :: junk) pattern insert =
        some (replaceAll pattern insert text ++ 0 :: dragged) ∧
      (replaceAll pattern insert text ++ 0 :: dragged).length = lineSize ∧
      0 ∉ replaceAll pattern insert text) ∧
    (¬ Room lineSize pattern insert text →
      allStringSub (text ++ 0 :: junk) pattern insert = none) := by
  rcases allStringSub_spec insert junk nonempty ended (by rw [size]; decide) with
    ⟨succeeds, fails⟩
  rw [size] at succeeds fails
  refine ⟨fun room => ?_, fails⟩
  rcases succeeds room with ⟨dragged, done⟩
  exact ⟨dragged, done, (allStringSub_length done).trans size, not_mem_replaceAll ended plain⟩

theorem rewriteLine_spec {cname got junk : List UInt8} (plain : 0 ∉ cname)
    (size : ((got.takeWhile fun b => b != 0) ++ 0 :: junk).length = lineSize) :
    (HasRoom cname got → ∃ dragged,
      rewriteLine cname ((got.takeWhile fun b => b != 0) ++ 0 :: junk) =
        some (rewritten cname got ++ 0 :: dragged) ∧
      (rewritten cname got ++ 0 :: dragged).length = lineSize ∧ 0 ∉ rewritten cname got) ∧
    (¬ HasRoom cname got →
      rewriteLine cname ((got.takeWhile fun b => b != 0) ++ 0 :: junk) = none) := by
  have ended : 0 ∉ got.takeWhile fun b => b != 0 := fun member => by
    simpa using List.mem_takeWhile_imp member
  unfold rewriteLine
  obtain ⟨renames, leaves⟩ := replacement_spec (literal "client1") cname (by decide) plain ended size
  by_cases renamed : Room lineSize (literal "client1") cname (got.takeWhile fun b => b != 0)
  case neg =>
    rw [leaves renamed]
    exact ⟨fun room => absurd room.renamed renamed, fun _ => rfl⟩
  rcases renames renamed with ⟨more, done, size, ended⟩
  rw [done, Option.bind_some]
  rcases replacement_spec [92] [47] (by decide) (by decide) ended size with ⟨turns, leaves⟩
  by_cases slashes : Room lineSize [92] [47]
      (replaceAll (literal "client1") cname (got.takeWhile fun b => b != 0))
  case neg =>
    rw [leaves slashes]
    exact ⟨fun room => absurd room.slashes slashes, fun _ => rfl⟩
  rcases turns slashes with ⟨more, done, size, ended⟩
  rw [done, Option.bind_some]
  rcases replacement_spec [32, 47] [32] (by decide) (by decide) ended size with ⟨cuts, leaves⟩
  exact ⟨fun room => cuts room.relative,
    fun full => leaves fun relative => full ⟨renamed, slashes, relative⟩⟩

structure Scanner.Whole (scanner : Scanner) : Prop where
  line : scanner.line.length = lineSize
  params : scanner.params.length = 20

/-- A line that fits is carried out as its words say, whatever the arrays held; one that does not
leaves them. -/
theorem lineStep_spec {cname got : List UInt8} {scanner : Scanner} (plain : 0 ∉ cname)
    (whole : scanner.Whole) (short : got.length < lineSize)
    (settled : Settled (lineWords cname got)) :
    (LineFits cname got → ∃ next : Scanner, next.Whole ∧
      lineStep cname scanner got = (meaning (lineWords cname got)).map fun ending =>
        (next, ending)) ∧
    (¬ LineFits cname got → lineStep cname scanner got = none) := by
  rcases stored_line whole.line short with ⟨junk, stored, size⟩
  rcases rewriteLine_spec plain size with ⟨rewrites, leaves⟩
  unfold lineStep
  rw [stored, Option.bind_some]
  by_cases room : HasRoom cname got
  case neg =>
    rw [leaves room]
    exact ⟨fun fits => absurd fits.1 room, fun _ => rfl⟩
  rcases rewrites room with ⟨more, done, size, ended⟩
  rcases parseParams_line more ended whole.params with ⟨parses, overruns⟩
  rw [done, Option.bind_some]
  by_cases few : (lineWords cname got).length < 20
  case neg =>
    rw [overruns (Nat.le_of_not_lt few)]
    exact ⟨fun fits => absurd fits.2 few, fun _ => rfl⟩
  rcases parses few with ⟨line, offsets, free, parsed, length, count, points⟩
  rw [parsed, Option.bind_some]
  refine ⟨fun _ => ⟨{ line := line, params := _ }, ⟨length.trans size, count⟩, ?_⟩,
    fun outside => absurd ⟨room, few⟩ outside⟩
  have counted : (wordsBetween isDelimiter (rewritten cname got)).length =
      (lineWords cname got).length := rfl
  unfold meaning
  dsimp only
  rw [counted]
  by_cases two : (lineWords cname got).length < 2
  · rw [if_pos two, if_pos two]
    rfl
  · rw [if_neg two, if_neg two, command_eq_meaning (fun k inside => read_param points free inside)
      (Nat.le_of_not_lt two) settled]
    rfl

/-! ## A file -/

theorem fgets_append (room : Nat) (file : List UInt8) :
    (fgets room file).1 ++ (fgets room file).2 = file := by
  induction room generalizing file with
  | zero => rfl
  | succ room inductionHypothesis =>
      cases file with
      | nil => rfl
      | cons byte file =>
          rw [fgets]
          split
          · next same => rw [same]; rfl
          · exact congrArg (List.cons byte) (inductionHypothesis file)

theorem fgets_length (room : Nat) (file : List UInt8) : (fgets room file).1.length ≤ room := by
  induction room generalizing file with
  | zero => exact Nat.le_refl 0
  | succ room inductionHypothesis =>
      cases file with
      | nil => exact Nat.zero_le _
      | cons byte file =>
          rw [fgets]
          split
          · exact Nat.succ_le_succ (Nat.zero_le room)
          · exact Nat.succ_le_succ (inductionHypothesis file)

theorem fgets_ne_nil {file : List UInt8} (nonempty : file ≠ []) (room : Nat) :
    (fgets (room + 1) file).1 ≠ [] := by
  cases file with
  | nil => exact absurd rfl nonempty
  | cons byte file =>
      rw [fgets]
      split
      · exact List.cons_ne_nil _ _
      · exact List.cons_ne_nil _ _

theorem fgets_shorter {file : List UInt8} {room : Nat} (found : (fgets room file).1 ≠ []) :
    (fgets room file).2.length < file.length := by
  have parts := congrArg List.length (fgets_append room file)
  have positive := List.length_pos_iff.mpr found
  rw [List.length_append] at parts
  omega

theorem fileLines_flatten (file : List UInt8) : (fileLines file).flatten = file := by
  suffices all : ∀ fuel file, file.length < fuel → (linesOf fuel file).flatten = file from
    all _ file (Nat.lt_succ_self _)
  intro fuel
  induction fuel with
  | zero => exact fun file impossible => absurd impossible (Nat.not_lt_zero _)
  | succ fuel inductionHypothesis =>
      intro file enough
      rw [linesOf]
      split
      · next empty =>
          by_contra more
          exact absurd empty (fgets_ne_nil (Ne.symm more) _)
      · next found =>
          have shorter := fgets_shorter found
          rw [List.flatten_cons, inductionHypothesis _ (by omega), fgets_append]

/-- The loop carries out the lines of the file, while they are settled. -/
theorem childLoop_eq (discards : Bool) (networks : Nat → Network) {cname : List UInt8}
    (plain : 0 ∉ cname) (fuel : Nat) {scanner : Scanner} (whole : scanner.Whole)
    {file : List UInt8} (enough : file.length < fuel)
    (settled : ∀ got ∈ linesOf fuel file, Settled (lineWords cname got)) (child : Child)
    (line : Nat) :
    childLoop discards networks cname fuel scanner file child line =
      runLines discards networks cname (linesOf fuel file) child line := by
  induction fuel generalizing scanner file child line with
  | zero => exact absurd enough (Nat.not_lt_zero _)
  | succ fuel inductionHypothesis =>
      rw [linesOf] at settled
      rw [childLoop, linesOf]
      by_cases found : (fgets (lineSize - 2) file).1 = []
      · rw [if_pos found, if_pos found]
        rfl
      · rw [if_neg found] at settled
        rcases List.forall_mem_cons.mp settled with ⟨here, later⟩
        have short : (fgets (lineSize - 2) file).1.length < lineSize :=
          Nat.lt_of_le_of_lt (fgets_length _ _) (by decide)
        have shorter := fgets_shorter found
        rcases lineStep_spec plain whole short here with ⟨succeeds, leaves⟩
        rw [if_neg found, if_neg found, runLines]
        by_cases fits : LineFits cname (fgets (lineSize - 2) file).1
        · rcases succeeds fits with ⟨next, nextWhole, stepped⟩
          rw [if_pos fits, stepped]
          cases meaning (lineWords cname (fgets (lineSize - 2) file).1) with
          | none => rfl
          | some ending =>
              have continues : ∀ child, childLoop discards networks cname fuel next
                  (fgets (lineSize - 2) file).2 child (line + 1) =
                    runLines discards networks cname (linesOf fuel (fgets (lineSize - 2) file).2)
                      child (line + 1) := fun child =>
                inductionHypothesis nextWhole (by omega) later child (line + 1)
              cases ending with
              | skip => exact continues child
              | oldFile => rfl
              | unknown => rfl
              | run operation =>
                  rw [Option.map_some, Option.bind_some, Option.bind_some]
                  dsimp only
                  cases operate discards child (operation, networks line) with
                  | error trouble => rfl
                  | ok child => exact continues child
        · rw [if_neg fits, leaves fits]
          rfl

/-! ## Main result -/

theorem zero_not_mem_clientName (id : Nat) : 0 ∉ clientName id := by
  have unsigned : decimal (id : Int) = decimalDigits id := by
    rw [decimal, if_neg (Int.not_lt.mpr (Int.natCast_nonneg id)), Int.natAbs_natCast]
  rw [clientName, unsigned]
  refine List.not_mem_append (by decide) fun member => ?_
  exact absurd (digit_of_mem_decimalDigits member).1 (by decide)

/-- A child carries out the words of the rewritten lines of its file, in their order and up to the
first that leaves an array, whatever stands in its arrays before.  The lines are the whole file. -/
theorem childRun_runLines (discards : Bool) (networks : Nat → Network) (id : Nat)
    {line file : List UInt8} (size : line.length = lineSize)
    (settled : ∀ got ∈ fileLines file, Settled (lineWords (clientName id) got)) (child : Child) :
    childRun discards networks id line file child =
        runLines discards networks (clientName id) (fileLines file) child 0 ∧
      (fileLines file).flatten = file :=
  ⟨childLoop_eq discards networks (zero_not_mem_clientName id) _
    ⟨size, List.length_replicate⟩ (Nat.lt_succ_self _) settled child 0, fileLines_flatten file⟩

theorem childRun_runLines_short :
    childRun true (fun _ => calm) 2 (List.replicate lineSize 255)
        (literal "Unlink \\client1\\a\nWriteX 1 0 9\n")
        { link := emptyLink, bytesIn := 0, bytesOut := 0, complaints := 0 } =
      runLines true (fun _ => calm) (clientName 2)
        (fileLines (literal "Unlink \\client1\\a\nWriteX 1 0 9\n"))
        { link := emptyLink, bytesIn := 0, bytesOut := 0, complaints := 0 } 0 :=
  (childRun_runLines true (fun _ => calm) 2 List.length_replicate (by decide +kernel) _).1

example : lineWords (clientName 2) (literal "Unlink \\client1\\a\n") =
    [literal "Unlink", literal "client2/a"] := by decide +kernel

end Tbench
end Ipbench
