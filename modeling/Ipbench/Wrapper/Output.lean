import Ipbench.Daemon.Session
import Ipbench.Foundation.Attempt
import Ipbench.Foundation.Block
import Ipbench.Latency.Marshalling

namespace Ipbench
namespace Wrapper

open Foundation
open Latency (asInt asSize asInt_of_lt asSize_natCast)

/-!
# The output of a wrapped program

The wrapper test runs a script on each client and carries what the script
writes to the controller, which prints it.  `common_marshall` collects the
output from a pipe, chunk by chunk, in a block that it replaces for each of
them.  The block is null as long as nothing was read, and the shunt returns no
data for a null pointer.  The controller prints the block of each client as a
string, so it stops at a zero byte, which the script has to write itself.

What leaves its block, and the exception of Python that follows a null pointer,
is `none`.
-/

/-! ## The code of the client -/

def chunkSize : Nat := 100 * 1024

structure ReturnData where
  returnData : Option (List UInt8)
  rlen : Int
deriving DecidableEq, Repr

/-- The variables before the first chunk. -/
def noData : ReturnData where
  returnData := none
  rlen := 0

/-- A sum of two C integers, whose overflow is undefined. -/
def addInt (left right : Int) : Option Int :=
  if -0x80000000 ≤ left + right ∧ left + right < 0x80000000 then some (left + right) else none

/-- One turn of the loop of `common_marshall`.  A refused request is not noticed
before `memcpy`. -/
def readChunk (memory : Allocator) (data : ReturnData) (chunk : List UInt8) :
    Option ReturnData := do
  let len := chunk.length
  match data.returnData with
  | none =>
      let block ← memory.malloc len
      let filled ← memcpy block 0 chunk len
      let rlen ← addInt data.rlen len
      some { returnData := some filled, rlen := rlen }
  | some returnData =>
      let total ← addInt data.rlen len
      let newReturnData ← memory.malloc (asSize total)
      let kept ← memcpy newReturnData 0 returnData (asSize data.rlen)
      let filled ← memcpy kept (asSize data.rlen) chunk len
      some { returnData := some filled, rlen := total }

/-- `common_marshall`, for the chunks that `read` returns before the end. -/
def commonMarshall (memory : Allocator) (reads : List (List UInt8)) : Option ReturnData :=
  reads.foldlM (readChunk memory) noData

/-- The bytes that the pointer and the size of `marshall` stand for. -/
def ReturnData.bytes (data : ReturnData) : Option (List UInt8) :=
  match data.returnData with
  | none => if data.rlen = 0 then some [] else none
  | some block =>
      if 0 ≤ data.rlen ∧ data.rlen ≤ block.length then some (block.take data.rlen.toNat) else none

/-- The typemap of `marshall`, which appends no data for a null pointer. -/
def argout (data : ReturnData) : Option (Option (List UInt8)) :=
  match data.returnData with
  | none => some none
  | some _ => data.bytes.map some

/-- The results of the plugin, whose `marshall` returns zero. -/
def wrapperResults (data : Option (List UInt8)) : Daemon.PluginResults where
  name := literal "client_wrapper"
  load := none
  setup := 0
  start := 0
  marshall := 0
  data := data

/-- A client: the chunks that the pipe delivers, and the memory of its daemon
and of the controller. -/
structure WrapperClient where
  reads : List (List UInt8)
  bounded : ∀ chunk ∈ reads, 0 < chunk.length ∧ chunk.length ≤ chunkSize
  daemonMemory : Allocator
  controllerMemory : Allocator

namespace WrapperClient

def output (client : WrapperClient) : List UInt8 :=
  client.reads.flatten

/-- What `SHUNT.marshall()` returns. -/
def shuntPair (client : WrapperClient) : Option (Int × Option (List UInt8)) := do
  let data ← commonMarshall client.daemonMemory client.reads
  let bytes ← argout data
  some (Daemon.shuntMarshall (wrapperResults bytes))

end WrapperClient

/-! ## The code of the controller -/

/-- `client_wrap_unmarshall`, called with a length that was cast to `int`. -/
def clientWrapUnmarshall (memory : Allocator) (input : List UInt8) : Option (List UInt8) := do
  let inputLen := asSize (asInt input.length)
  let buf ← memory.malloc inputLen
  memcpy buf 0 input inputLen

/-- From the script to `client_data`.  The daemon cannot unpack a result without
data. -/
def WrapperClient.clientData (client : WrapperClient) : Option (List UInt8) := do
  let result ← client.shuntPair
  let data ← result.2
  clientWrapUnmarshall client.controllerMemory data

/-- The format `"%s\n"`. -/
def printLine (data : List UInt8) : Option (List UInt8) :=
  (readString data).map (· ++ [10])

def clientWrapOutput (data : List (List UInt8)) : Option (List UInt8) :=
  (data.mapM printLine).map List.flatten

/-- What the controller prints once the results of all clients are stored. -/
def controllerOutput (clients : List WrapperClient) : Option (List UInt8) := do
  let data ← clients.mapM WrapperClient.clientData
  clientWrapOutput data

/-! ## The statement -/

def outputLine (output : List UInt8) : List UInt8 :=
  (output.takeWhile fun byte => byte != 0) ++ [10]

/-- The outputs of all clients arrive and are printed. -/
structure CarriedFaithfully (clients : List WrapperClient) : Prop where
  marshalled : ∀ client ∈ clients, ∃ data,
    commonMarshall client.daemonMemory client.reads = some data ∧
      data.bytes = some client.output
  paired : ∀ client ∈ clients, client.shuntPair = some (0, some client.output)
  printed : controllerOutput clients =
    some (clients.flatMap fun client => outputLine client.output)

/-- The output fits into an `int`, and the daemon's memory grants a block for
every initial part of it. -/
structure Granted (memory : Allocator) (reads : List (List UInt8)) : Prop where
  fits : reads.flatten.length < 0x80000000
  blocks : ∀ before, before <+: reads → before ≠ [] →
    (memory.malloc before.flatten.length).isSome = true

/-- The output ends as a string does, and there is memory for it. -/
structure WrapperClient.Printable (client : WrapperClient) : Prop where
  terminated : 0 ∈ client.output
  granted : Granted client.daemonMemory client.reads
  copied : (client.controllerMemory.malloc client.output.length).isSome = true

/-! ## The chunks -/

/-- The variables after some chunks. -/
def filled (reads : List (List UInt8)) : ReturnData where
  returnData := if reads = [] then none else some reads.flatten
  rlen := reads.flatten.length

theorem addInt_natCast (left right : Nat) :
    addInt left right =
      if left + right < 0x80000000 then some ((left + right : Nat) : Int) else none := by
  unfold addInt
  split
  · next small => rw [if_pos (by omega), Nat.cast_add]
  · next large => rw [if_neg (by omega)]

/-- A turn of the loop appends its chunk if there is memory for both. -/
theorem readChunk_filled (memory : Allocator) {reads : List (List UInt8)} {chunk : List UInt8}
    (small : chunk.length ≤ chunkSize) (fits : reads.flatten.length < 0x80000000) :
    readChunk memory (filled reads) chunk =
      if (memory.malloc (reads.flatten.length + chunk.length)).isSome = true ∧
          reads.flatten.length + chunk.length < 0x80000000 then
        some (filled (reads ++ [chunk]))
      else none := by
  have after : filled (reads ++ [chunk]) =
      { returnData := some (reads.flatten ++ chunk)
        rlen := (reads.flatten.length + chunk.length : Nat) } := by
    simp [filled]
  have bound : chunk.length < 0x80000000 := Nat.lt_of_le_of_lt small (by decide)
  rw [after]
  by_cases empty : reads = []
  · subst empty
    simp only [readChunk, filled, if_true, List.flatten_nil, List.length_nil, Nat.zero_add,
      List.nil_append, addInt_natCast]
    cases granted : memory.malloc chunk.length with
    | none => simp
    | some block =>
        simp only [Option.bind_eq_bind, Option.bind_some, memcpy_fill (memory.size granted)]
        simp [bound]
  · simp only [readChunk, filled, if_neg empty, addInt_natCast]
    generalize reads.flatten = old at fits ⊢
    by_cases total : old.length + chunk.length < 0x80000000
    · simp only [if_pos total, Option.bind_eq_bind, Option.bind_some, asSize_natCast total,
        asSize_natCast fits]
      cases granted : memory.malloc (old.length + chunk.length) with
      | none => simp
      | some block =>
          rw [Option.bind_some, ← Option.bind_assoc, memcpy_both (memory.size granted)]
          simp [total]
    · simp [total]

/-- The loop ends, with the whole output, exactly when there is memory for it. -/
theorem commonMarshall_eq_some_iff (memory : Allocator) {reads : List (List UInt8)}
    (bounded : ∀ chunk ∈ reads, chunk.length ≤ chunkSize) {data : ReturnData} :
    commonMarshall memory reads = some data ↔ Granted memory reads ∧ data = filled reads := by
  induction reads using List.reverseRecOn generalizing data with
  | nil =>
      have nothing : Granted memory [] :=
        { fits := by simp
          blocks := fun _ initial more => False.elim (more (List.prefix_nil.mp initial)) }
      constructor
      · intro marshalled
        exact ⟨nothing, (Option.some.inj marshalled).symm⟩
      · rintro ⟨_, rfl⟩
        rfl
  | append_singleton reads chunk inductionHypothesis =>
      have earlier : ∀ {middle : ReturnData}, commonMarshall memory reads = some middle ↔
          Granted memory reads ∧ middle = filled reads :=
        inductionHypothesis fun other member => bounded other (List.mem_append_left _ member)
      have small := bounded chunk (List.mem_append_right _ List.mem_cons_self)
      have split : commonMarshall memory (reads ++ [chunk]) =
          (commonMarshall memory reads).bind fun middle => readChunk memory middle chunk := by
        simp [commonMarshall, List.foldlM_append]
      have whole : (reads ++ [chunk]).flatten.length = reads.flatten.length + chunk.length := by
        simp
      rw [split]
      constructor
      · intro marshalled
        rcases Option.bind_eq_some_iff.mp marshalled with ⟨middle, before, turn⟩
        rcases earlier.mp before with ⟨granted, rfl⟩
        rw [readChunk_filled memory small granted.fits] at turn
        split at turn
        · next room =>
            cases turn
            refine ⟨⟨whole ▸ room.2, fun part initial more => ?_⟩, rfl⟩
            rcases List.prefix_concat_iff.mp initial with all | older
            · rw [all, whole]
              exact room.1
            · exact granted.blocks part older more
        · cases turn
      · rintro ⟨granted, rfl⟩
        have before : Granted memory reads :=
          { fits := by
              have fits := granted.fits
              omega
            blocks := fun part initial =>
              granted.blocks part (initial.trans (List.prefix_append _ _)) }
        have last := granted.blocks _ (List.prefix_refl _) (by simp)
        have fits := granted.fits
        rw [whole] at last fits
        rw [earlier.mpr ⟨before, rfl⟩, Option.bind_some,
          readChunk_filled memory small before.fits, if_pos ⟨last, fits⟩]

theorem filled_bytes (reads : List (List UInt8)) : (filled reads).bytes = some reads.flatten := by
  unfold filled ReturnData.bytes
  by_cases empty : reads = []
  · subst empty
    rfl
  · simp only [if_neg empty]
    rw [if_pos ⟨Int.natCast_nonneg _, Int.le_refl _⟩, Int.toNat_natCast, List.take_length]

/-! ## One client -/

section Client

variable {client : WrapperClient}

theorem WrapperClient.small : ∀ chunk ∈ client.reads, chunk.length ≤ chunkSize :=
  fun chunk member => (client.bounded chunk member).2

/-- The shunt returns the output, or no data when there was none. -/
theorem shuntPair_eq (granted : Granted client.daemonMemory client.reads) :
    client.shuntPair =
      some (0, if client.reads = [] then none else some client.output) := by
  have marshalled := (commonMarshall_eq_some_iff client.daemonMemory client.small).mpr
    ⟨granted, rfl⟩
  have bytes := filled_bytes client.reads
  have returned : argout (filled client.reads) =
      some (if client.reads = [] then none else some client.output) := by
    unfold argout
    by_cases empty : client.reads = []
    · simp only [filled, if_pos empty]
    · rw [bytes]
      simp only [filled, if_neg empty]
      rfl
  simp only [WrapperClient.shuntPair, marshalled, returned, Option.bind_eq_bind, Option.bind_some]
  rfl

/-- The controller stores what it was sent, if there is memory for it. -/
theorem clientWrapUnmarshall_eq (memory : Allocator) {input : List UInt8}
    (fits : input.length < 0x80000000) :
    clientWrapUnmarshall memory input =
      if (memory.malloc input.length).isSome = true then some input else none := by
  unfold clientWrapUnmarshall
  rw [asInt_of_lt fits, asSize_natCast fits]
  dsimp only
  cases granted : memory.malloc input.length with
  | none => rfl
  | some block =>
      change memcpy block 0 input input.length = some input
      exact memcpy_fill (memory.size granted)

/-- What reaches the controller of an output that the daemon could collect. -/
theorem clientData_eq_some_iff (granted : Granted client.daemonMemory client.reads)
    {data : List UInt8} :
    client.clientData = some data ↔
      client.reads ≠ [] ∧ (client.controllerMemory.malloc client.output.length).isSome = true ∧
        data = client.output := by
  have fits : client.output.length < 0x80000000 := by
    unfold WrapperClient.output
    exact granted.fits
  unfold WrapperClient.clientData
  rw [shuntPair_eq granted, Option.bind_eq_bind, Option.bind_some]
  by_cases empty : client.reads = []
  · simp [empty]
  · rw [if_neg empty]
    dsimp only
    rw [Option.bind_eq_bind, Option.bind_some, clientWrapUnmarshall_eq _ fits]
    split
    · next copied => simp [empty, copied, eq_comm]
    · next refused => simp [refused]

end Client

/-! ## All clients -/

theorem printLine_isSome {data : List UInt8} : (printLine data).isSome = true ↔ 0 ∈ data := by
  rw [printLine, Option.isSome_map, readString_isSome]

/-- The controller prints the output of each client up to its first zero byte,
and reads nothing beyond what it stored, exactly when each output has a zero
byte, is shorter than the range of an `int`, and finds memory. -/
theorem carriedFaithfully_iff (clients : List WrapperClient) :
    CarriedFaithfully clients ↔ ∀ client ∈ clients, client.Printable := by
  constructor
  · intro carried client member
    rcases carried.marshalled client member with ⟨data, marshalled, _⟩
    have granted := ((commonMarshall_eq_some_iff client.daemonMemory client.small).mp marshalled).1
    rcases Option.bind_eq_some_iff.mp carried.printed with ⟨stored, collected, output⟩
    rcases Option.map_eq_some_iff.mp output with ⟨lines, printed, _⟩
    -- The client's entry, and the line printed for it.
    have entry : client.clientData ∈ stored.map some :=
      mapM_eq_some_iff.mp collected ▸ List.mem_map_of_mem member
    rcases List.mem_map.mp entry with ⟨bytes, listed, same⟩
    have line : printLine bytes ∈ lines.map some :=
      mapM_eq_some_iff.mp printed ▸ List.mem_map_of_mem listed
    rcases List.mem_map.mp line with ⟨text, _, known⟩
    rcases (clientData_eq_some_iff granted).mp same.symm with ⟨_, copied, rfl⟩
    refine ⟨printLine_isSome.mp ?_, granted, copied⟩
    rw [← known]
    rfl
  · intro printable
    have more : ∀ client ∈ clients, client.reads ≠ [] := by
      intro client member empty
      have terminated := (printable client member).terminated
      simp [WrapperClient.output, empty] at terminated
    constructor
    · intro client member
      have marshalled := (commonMarshall_eq_some_iff client.daemonMemory client.small).mpr
        ⟨(printable client member).granted, rfl⟩
      exact ⟨_, marshalled, filled_bytes client.reads⟩
    · intro client member
      rw [shuntPair_eq (printable client member).granted, if_neg (more client member)]
    · have stored : clients.mapM WrapperClient.clientData =
          some (clients.map WrapperClient.output) := by
        apply mapM_eq_some_iff.mpr
        rw [List.map_map]
        apply List.map_congr_left
        intro client member
        exact (clientData_eq_some_iff (printable client member).granted).mpr
          ⟨more client member, (printable client member).copied, rfl⟩
      have printed : (clients.map WrapperClient.output).mapM printLine =
          some (clients.map fun client => outputLine client.output) := by
        apply mapM_eq_some_iff.mpr
        rw [List.map_map, List.map_map]
        apply List.map_congr_left
        intro client member
        have terminated := (printable client member).terminated
        simp [printLine, readString, terminated, outputLine]
      simp [controllerOutput, clientWrapOutput, stored, printed, List.flatMap_def]

/-- A client whose script writes the given chunks, where all memory is granted. -/
def plentiful (reads : List (List UInt8))
    (bounded : ∀ chunk ∈ reads, 0 < chunk.length ∧ chunk.length ≤ chunkSize) : WrapperClient where
  reads := reads
  bounded := bounded
  daemonMemory := Allocator.zeros fun _ => true
  controllerMemory := Allocator.zeros fun _ => true

/-- An empty output leaves the daemon without a pair, and one without a zero
byte is read past its end. -/
theorem unterminated_notCarried :
    ¬ CarriedFaithfully [plentiful [] (by decide)] ∧
      ¬ CarriedFaithfully [plentiful [[97]] (by decide)] := by
  constructor
  · intro carried
    have paired := carried.paired _ List.mem_cons_self
    exact absurd paired (by decide)
  · intro carried
    exact absurd carried.printed (by decide)

end Wrapper
end Ipbench
