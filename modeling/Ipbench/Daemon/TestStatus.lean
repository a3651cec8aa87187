import Ipbench.Daemon.Session
import Ipbench.Foundation.PyBytes

namespace Ipbench
namespace Daemon

open Foundation

/-!
# The shared cell of the process identifier

`TestStatus` keeps one number in a small area of memory that the daemon shares with the
processes it forks.  The number is decimal text, with a newline behind it, at the front of
the area.  What longer numbers have left behind the newline is never erased.

The area is shared, but each process has an object of its own with a position in the area,
which a forked process takes over from its parent.  Between two calls all positions are at
the front, since each operation goes back there.  So the cell is a register: its reads are
those of a machine whose state is the number itself, which is how the sessions of the
daemon see it.
-/

/-! ## The mapped area -/

def areaSize : Nat :=
  20

/-- The shared area, and the position of the object in each process. -/
structure Mapping where
  area : List UInt8
  size : area.length = areaSize
  position : Nat → Nat

namespace Mapping

def new : Mapping where
  area := List.replicate areaSize 0
  size := List.length_replicate
  position := fun _ => 0

def seek (mapping : Mapping) (process position : Nat) : Mapping :=
  { mapping with
    position := fun other => if other = process then position else mapping.position other }

theorem length_written {area bytes : List UInt8} {position : Nat}
    (room : position + bytes.length ≤ area.length) :
    (area.take position ++ bytes ++ area.drop (position + bytes.length)).length = area.length := by
  rw [List.length_append, List.length_append, List.length_take, List.length_drop]
  omega

/-- `write`; `none` is the exception when the bytes do not fit behind the position. -/
def write (mapping : Mapping) (process : Nat) (bytes : List UInt8) : Option Mapping :=
  let position := mapping.position process
  if room : position + bytes.length ≤ mapping.area.length then
    let written : Mapping :=
      { mapping with
        area := mapping.area.take position ++ bytes ++ mapping.area.drop (position + bytes.length)
        size := (length_written room).trans mapping.size }
    some (written.seek process (position + bytes.length))
  else none

def readline (mapping : Mapping) (process : Nat) : Mapping × List UInt8 :=
  let position := mapping.position process
  let line := Foundation.readline (mapping.area.drop position)
  (mapping.seek process (position + line.length), line)

theorem length_assigned {area : List UInt8} (size : area.length = areaSize) :
    (([48, 10] : List UInt8) ++ area.drop 2).length = areaSize := by
  rw [List.length_append, List.length_drop, size]
  rfl

/-- The assignment of `b'0\n'` to the first two bytes, which uses no position. -/
def assignZero (mapping : Mapping) : Mapping :=
  { mapping with
    area := [48, 10] ++ mapping.area.drop 2
    size := length_assigned mapping.size }

/-- A forked process has the position of its parent. -/
def fork (mapping : Mapping) (parent child : Nat) : Mapping :=
  mapping.seek child (mapping.position parent)

end Mapping

/-! ## The class -/

/-- `int` of bytes, which knows the white space of ASCII only; `none` is the exception. -/
def intBytes (bytes : List UInt8) : Option Int :=
  if bytes.all fun byte => byte < 28 || (32 ≤ byte && byte < 128) then
    asciiTables.int (bytes.map fun byte => Char.ofNat byte.toNat)
  else none

def writePid (mapping : Mapping) (process pid : Nat) : Option Mapping := do
  let written ← mapping.write process (encode (decimalText pid) ++ [10])
  some (written.seek process 0)

def readPid (mapping : Mapping) (process : Nat) : Mapping × Option Int :=
  let read := mapping.readline process
  (read.1.seek process 0, intBytes read.2)

/-- `clear_pid`, whose debugging output reads the number, printed or not. -/
def clearPid (mapping : Mapping) (process : Nat) : Mapping × Option Int :=
  readPid mapping.assignZero process

def isRunning (mapping : Mapping) (process : Nat) : Mapping × Option Bool :=
  let read := readPid mapping process
  (read.1, read.2.map fun pid => decide (0 < pid))

/-- A call by one of the processes, or a fork. -/
inductive CellCall where
  | running (process pid : Nat)
  | notRunning (process : Nat)
  | readPid (process : Nat)
  | isRunning (process : Nat)
  | fork (parent child : Nat)
deriving DecidableEq, Repr

/-- What a call returns, unless it raises. -/
inductive CellEvent where
  | pid (process : Nat) (value : Int)
  | flag (process : Nat) (value : Bool)
  | raised (process : Nat)
deriving DecidableEq, Repr

/-- A call of the object; an exception leaves what has been done before it. -/
def cellStep (mapping : Mapping) : CellCall → Mapping × List CellEvent
  | .running process pid =>
      match writePid mapping process pid with
      | some written => (written, [])
      | none => (mapping, [.raised process])
  | .notRunning process =>
      let cleared := clearPid mapping process
      (cleared.1, if cleared.2.isSome then [] else [.raised process])
  | .readPid process =>
      let read := Daemon.readPid mapping process
      (read.1, match read.2 with
        | some value => [.pid process value]
        | none => [.raised process])
  | .isRunning process =>
      let read := Daemon.isRunning mapping process
      (read.1, match read.2 with
        | some value => [.flag process value]
        | none => [.raised process])
  | .fork parent child => (mapping.fork parent child, [])

def cellMachine : Machine Mapping CellCall CellEvent where
  step := cellStep

/-- The object after `__init__` in the first process. -/
def testStatus : Mapping :=
  (clearPid Mapping.new 0).1

/-! ## The purpose -/

/-- A register that holds an identifier, or none when it is clear. -/
def registerStep (held : Option Nat) : CellCall → Option Nat × List CellEvent
  | .running _ pid => (some pid, [])
  | .notRunning _ => (none, [])
  | .readPid process => (held, [.pid process (held.getD 0)])
  | .isRunning process => (held, [.flag process held.isSome])
  | .fork _ _ => (held, [])

def registerMachine : Machine (Option Nat) CellCall CellEvent where
  step := registerStep

/-- The identifiers that are written have at most nineteen digits. -/
def CellCall.Fits : CellCall → Prop
  | .running _ pid => 1 ≤ pid ∧ (decimalText pid).length ≤ 19
  | _ => True

instance (call : CellCall) : Decidable call.Fits := by
  cases call <;> (unfold CellCall.Fits; infer_instance)

/-! ## Lines and numbers -/

theorem decimalText_ends (value : Nat) :
    ∃ first last, (decimalText value).head? = some first ∧
      (decimalText value).getLast? = some last ∧ isSpace first = false ∧ isSpace last = false := by
  have nonempty : decimalText value ≠ [] := Nat.toDigits_ne_nil
  have visible : ∀ char ∈ decimalText value, isSpace char = false := fun char member =>
    isSpace_of_isDigit (isDigit_of_mem_decimalText member)
  exact ⟨_, _, List.head?_eq_some_head nonempty, List.getLast?_eq_some_getLast nonempty,
    visible _ (List.head_mem nonempty), visible _ (List.getLast_mem nonempty)⟩

theorem int_line (value : Nat) :
    asciiTables.int (decimalText value ++ ['\n']) = some (value : Int) := by
  obtain ⟨first, last, starts, ends, visible, lastVisible⟩ := decimalText_ends value
  have number := asciiTables.int_decimalText value
  rw [← number]
  apply CharTables.int_of_strip
  rw [strip_newline starts ends visible lastVisible]
  exact (strip_eq_self fun char member =>
    isSpace_of_isDigit (isDigit_of_mem_decimalText member)).symm

theorem ascii_line (value : Nat) : Ascii (decimalText value ++ ['\n']) := by
  apply Ascii.append
  · intro char member
    exact Nat.lt_of_le_of_lt (isDigit_bounds (isDigit_of_mem_decimalText member)).2 (by decide)
  · decide

theorem intBytes_line (value : Nat) :
    intBytes (encode (decimalText value ++ ['\n'])) = some (value : Int) := by
  have ascii := ascii_line value
  have known : (encode (decimalText value ++ ['\n'])).all (fun byte =>
      byte < 28 || (32 ≤ byte && byte < 128)) = true := by
    rw [encode_ascii ascii, List.all_map, List.all_append, Bool.and_eq_true]
    refine ⟨?_, by decide⟩
    apply List.all_eq_true.mpr
    intro char member
    have bounds := isDigit_bounds (isDigit_of_mem_decimalText member)
    have small : (UInt8.ofNat char.toNat).toNat = char.toNat :=
      toNat_ofNat_ascii (ascii char (List.mem_append_left _ member))
    simp only [Function.comp_apply, Bool.or_eq_true, Bool.and_eq_true, decide_eq_true_eq,
      UInt8.lt_iff_toNat_lt, UInt8.le_iff_toNat_le, small]
    exact Or.inr ⟨Nat.le_trans (by decide) bounds.1, Nat.lt_of_le_of_lt bounds.2 (by decide)⟩
  have decoded : (encode (decimalText value ++ ['\n'])).map (fun byte => Char.ofNat byte.toNat) =
      decimalText value ++ ['\n'] := by
    rw [encode_ascii ascii, List.map_map]
    refine (List.map_congr_left fun char member => ?_).trans (List.map_id _)
    rw [Function.comp_apply, toNat_ofNat_ascii (ascii char member), Char.ofNat_toNat, id]
  rw [intBytes, if_pos known, decoded, int_line]

/-! ## The cell -/

/-- The area begins with the line of the number, and all positions are at the front. -/
structure Cell (mapping : Mapping) (value : Nat) : Prop where
  line : encode (decimalText value ++ ['\n']) <+: mapping.area
  front : ∀ process, mapping.position process = 0

namespace Cell

variable {mapping : Mapping} {value : Nat}

theorem seek_zero {process : Nat} (line : encode (decimalText value ++ ['\n']) <+: mapping.area)
    (others : ∀ other, other ≠ process → mapping.position other = 0) :
    Cell (mapping.seek process 0) value := by
  refine ⟨line, ?_⟩
  intro other
  by_cases same : other = process
  · exact if_pos same
  · exact (if_neg same).trans (others other same)

theorem seek_seek (cell : Cell mapping value) (process position : Nat) :
    Cell ((mapping.seek process position).seek process 0) value :=
  seek_zero cell.line fun other different => (if_neg different).trans (cell.front other)

theorem readPid (cell : Cell mapping value) (process : Nat) :
    (Daemon.readPid mapping process).2 = some (value : Int) ∧
      Cell (Daemon.readPid mapping process).1 value := by
  refine ⟨?_, cell.seek_seek process _⟩
  obtain ⟨rest, whole⟩ := cell.line
  have single : '\n' ∉ decimalText value := by
    intro newline
    exact absurd (isDigit_of_mem_decimalText newline) (by decide)
  unfold Daemon.readPid Mapping.readline
  dsimp only
  rw [cell.front, List.drop_zero, ← whole, readline_encode single, intBytes_line]

/-- A number that is written replaces the one before, however long that was. -/
theorem writePid (cell : Cell mapping value) (process : Nat) {pid : Nat}
    (fits : (decimalText pid).length ≤ 19) :
    ∃ written, Daemon.writePid mapping process pid = some written ∧ Cell written pid := by
  have length : (encode (decimalText pid) ++ [10]).length ≤ areaSize := by
    have ascii := (ascii_line pid).of_isPrefix (List.prefix_append _ _)
    rw [List.length_append, encode_length ascii]
    exact Nat.succ_le_succ fits
  have room : mapping.position process + (encode (decimalText pid) ++ [10]).length ≤
      mapping.area.length := by
    rw [cell.front, Nat.zero_add, mapping.size]
    exact length
  have newline : encode ['\n'] = [10] := by decide
  unfold Daemon.writePid Mapping.write
  dsimp only
  rw [dif_pos room]
  refine ⟨_, rfl, ?_⟩
  apply seek_zero
  · refine ⟨mapping.area.drop (mapping.position process +
      (encode (decimalText pid) ++ [10]).length), ?_⟩
    rw [encode_append, newline]
    unfold Mapping.seek
    dsimp only
    rw [cell.front, List.take_zero, List.nil_append]
  · exact fun other different => (if_neg different).trans (cell.front other)

theorem assignZero (front : ∀ process, mapping.position process = 0) :
    Cell mapping.assignZero 0 :=
  ⟨⟨mapping.area.drop 2, rfl⟩, front⟩

end Cell

/-! ## Simulation -/

/-- The cell has the identifier of the register, which is positive, or zero. -/
structure Simulates (mapping : Mapping) (held : Option Nat) : Prop where
  cell : Cell mapping (held.getD 0)
  positive : ∀ pid, held = some pid → 1 ≤ pid

namespace Simulates

variable {mapping : Mapping} {held : Option Nat}

/-- The number is positive exactly when there is an identifier. -/
theorem isRunning (simulates : Simulates mapping held) (process : Nat) :
    (Daemon.isRunning mapping process).2 = some held.isSome := by
  rw [Daemon.isRunning, (simulates.cell.readPid process).1]
  cases held with
  | none => rfl
  | some pid =>
      have positive : (0 : Int) < (pid : Int) := Int.natCast_pos.mpr (simulates.positive pid rfl)
      exact congrArg some (decide_eq_true positive)

/-- One call does to the cell what it does to the register. -/
theorem step (simulates : Simulates mapping held) {call : CellCall} (fits : call.Fits) :
    Simulates (cellStep mapping call).1 (registerStep held call).1 ∧
      (cellStep mapping call).2 = (registerStep held call).2 := by
  obtain ⟨cell, positive⟩ := simulates
  cases call with
  | running process pid =>
      obtain ⟨written, stored, next⟩ := cell.writePid process fits.2
      rw [cellStep, stored]
      refine ⟨⟨next, ?_⟩, rfl⟩
      intro other same
      cases same
      exact fits.1
  | notRunning process =>
      obtain ⟨read, next⟩ := (Cell.assignZero cell.front).readPid process
      refine ⟨⟨next, fun pid impossible => by cases impossible⟩, ?_⟩
      rw [cellStep, clearPid, read]
      rfl
  | readPid process =>
      obtain ⟨read, next⟩ := cell.readPid process
      refine ⟨⟨next, positive⟩, ?_⟩
      rw [cellStep, read]
      rfl
  | isRunning process =>
      refine ⟨⟨(cell.readPid process).2, positive⟩, ?_⟩
      rw [cellStep, (Simulates.mk cell positive).isRunning]
      rfl
  | fork parent child =>
      refine ⟨⟨?_, positive⟩, rfl⟩
      rw [cellStep, Mapping.fork, cell.front]
      exact Cell.seek_zero cell.line fun other _ => cell.front other

theorem run (simulates : Simulates mapping held) {calls : List CellCall}
    (fits : ∀ call ∈ calls, call.Fits) :
    Simulates (cellMachine.run mapping calls).1 (registerMachine.run held calls).1 ∧
      (cellMachine.run mapping calls).2 = (registerMachine.run held calls).2 := by
  induction calls generalizing mapping held with
  | nil => exact ⟨simulates, rfl⟩
  | cons call rest inductionHypothesis =>
      obtain ⟨next, events⟩ := simulates.step (fits call List.mem_cons_self)
      obtain ⟨final, later⟩ :=
        inductionHypothesis next fun other member => fits other (List.mem_cons_of_mem _ member)
      refine ⟨final, ?_⟩
      exact congrArg₂ (· ++ ·) events later

end Simulates

theorem simulates_testStatus : Simulates testStatus none where
  cell :=
    ((Cell.assignZero (show ∀ process, Mapping.new.position process = 0 from
      fun _ => rfl)).readPid 0).2
  positive := by
    intro pid impossible
    cases impossible

/-- What a call writes, as the sessions of the daemon say it. -/
def CellCall.written : CellCall → List SessionEvent
  | .running _ pid => [.running pid]
  | .notRunning _ => [.notRunning]
  | _ => []

/-! ## Main result -/

/-- For every sequence of calls and forks, by any processes: the calls return what those of
a register return, and then every process reads the identifier that was written last, or
zero if that was a clear, and sees a test running in the first case only. -/
theorem testStatus_register {calls : List CellCall} (fits : ∀ call ∈ calls, call.Fits) :
    (cellMachine.run testStatus calls).2 = (registerMachine.run none calls).2 ∧
      ∀ process,
        (readPid (cellMachine.run testStatus calls).1 process).2 =
            some (((registerMachine.run none calls).1.getD 0 : Nat) : Int) ∧
          (isRunning (cellMachine.run testStatus calls).1 process).2 =
            some (registerMachine.run none calls).1.isSome := by
  obtain ⟨simulates, events⟩ := simulates_testStatus.run fits
  refine ⟨events, ?_⟩
  intro process
  exact ⟨(simulates.cell.readPid process).1, simulates.isRunning process⟩

/-- The digits of a longer identifier stay behind the newline of a shorter one. -/
theorem testStatus_register_shorter :
    (cellMachine.run testStatus
      [.running 0 1234567890123456789, .fork 0 1, .readPid 1, .running 1 7, .isRunning 0]).2 =
        [.pid 1 1234567890123456789, .flag 0 true] :=
  (testStatus_register (by decide)).1

end Daemon
end Ipbench
