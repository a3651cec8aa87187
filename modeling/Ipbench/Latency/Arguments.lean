import Ipbench.Foundation.Block
import Ipbench.Foundation.CText
import Ipbench.Lib.NextToken

namespace Ipbench
namespace Latency

open Foundation Lib

/-!
# The arguments of the latency test

The argument string of SETUP is cut into options, and `parse_arg` stores what
they say in globals.  `latency_setup` divides the rate by the size of a packet,
multiplies by the threshold for drops, and allocates the packet table and the
sample buffer.  Nothing but the name of an option is checked: an option can
lack its value, and the numbers can be anything.

`admits_iff` says for which arguments the globals are fit for the test.  Running
into undefined behaviour or a signal is a `fault`.
-/

/-! ## The environment -/

/-- How the test was built, and what the file system, the memory and the network
answer.  Options are numbered by their position. -/
structure Host where
  rawLinux : Bool
  ethFrameLen : Nat
  frame : ethFrameLen = 1500 ∨ ethFrameLen = 1514
  ifnamsiz : Nat
  isDirectory : Nat → List UInt8 → Bool
  optionMemory : Nat → Allocator
  tableMemory : Allocator
  sampleMemory : Allocator
  setupSocket : Int

/-! ## The globals -/

inductive SockType where
  | tcp
  | udp
  | raw
deriving DecidableEq, Repr

structure Globals where
  samples : UInt64
  bps : UInt64
  size : UInt64
  warmup : UInt64
  cooldown : UInt64
  dropThreshold : UInt64
  socktype : SockType
  ifname : List UInt8
  sockopts : List UInt8
  withCpuTarget : Bool
  dumpDir : Option (List UInt8)
  dumpPrefix : Option (List UInt8)
deriving DecidableEq, Repr

def usPerS : Int := 1000000

def defaults : Globals where
  samples := 200000
  bps := 10000000
  size := 64
  warmup := 10000000
  cooldown := 10000000
  dropThreshold := 1
  socktype := .tcp
  ifname := []
  sockopts := []
  withCpuTarget := false
  dumpDir := none
  dumpPrefix := none

/-! ## The options -/

inductive OptionName where
  | bps
  | mbps
  | samples
  | size
  | warmup
  | cooldown
  | socktype
  | iface
  | drop
  | sockopts
  | withCpuTarget
  | dumpDir
  | dumpPrefix
deriving DecidableEq, Repr

/-- The names that `parse_arg` compares with, in its order. -/
def optionNames : List (String × OptionName) :=
  [("bps", .bps), ("Mbps", .mbps), ("samples", .samples), ("size", .size), ("warmup", .warmup),
    ("cooldown", .cooldown), ("socktype", .socktype), ("iface", .iface), ("drop", .drop),
    ("sockopts", .sockopts), ("with_cpu_target", .withCpuTarget), ("dump_dir", .dumpDir),
    ("dump_prefix", .dumpPrefix)]

def optionName (cmd : List UInt8) : Option OptionName :=
  (optionNames.find? fun entry => literal entry.1 == cmd).map Prod.snd

/-- What one option does: the loop goes on, or `parse_arg` returns -1. -/
inductive Parsed where
  | next (globals : Globals)
  | rejected
  | fault
deriving DecidableEq, Repr

/-- A conversion or a copy of the value, which faults when there is none. -/
def withValue (val : Option (List UInt8)) (use : List UInt8 → Parsed) : Parsed :=
  match val with
  | none => .fault
  | some text => use text

/-- A number of millions, whose product is signed. -/
def scaled (factor : Int) (text : List UInt8) (store : UInt64 → Globals) : Parsed :=
  match mulInt64 (strtoll text) factor with
  | none => .fault
  | some product => .next (store (asUint64 product))

/-- The body of the loop of `parse_arg`, for the option at a position.  `stat`
fails for a null pointer. -/
def parseOption (host : Host) (position : Nat) (globals : Globals) (cmd : List UInt8)
    (val : Option (List UInt8)) : Parsed :=
  match optionName cmd with
  | some .bps =>
      withValue val fun text => .next { globals with bps := asUint64 (strtoll text) }
  | some .mbps =>
      withValue val fun text => scaled 1000000 text fun rate => { globals with bps := rate }
  | some .samples =>
      withValue val fun text => .next { globals with samples := asUint64 (strtoll text) }
  | some .size =>
      withValue val fun text => .next { globals with size := asUint64 (strtoll text) }
  | some .warmup =>
      withValue val fun text => scaled usPerS text fun time => { globals with warmup := time }
  | some .cooldown =>
      withValue val fun text => scaled usPerS text fun time => { globals with cooldown := time }
  | some .socktype =>
      withValue val fun text =>
        if text = literal "udp" then .next { globals with socktype := .udp }
        else if text = literal "raw" then .next { globals with socktype := .raw }
        else .next globals
  | some .iface =>
      withValue val fun text => .next { globals with ifname := text.take (host.ifnamsiz - 1) }
  | some .drop =>
      withValue val fun text => .next { globals with dropThreshold := asUint64 (strtoll text) }
  | some .sockopts =>
      withValue val fun text => .next { globals with sockopts := text.take 199 }
  | some .withCpuTarget => .next { globals with withCpuTarget := true }
  | some .dumpDir =>
      match val with
      | none => .rejected
      | some text =>
          if host.isDirectory position text then
            match copyString (host.optionMemory position) text with
            | none => .fault
            | some copy => .next { globals with dumpDir := some copy }
          else .rejected
  | some .dumpPrefix =>
      withValue val fun text =>
        match copyString (host.optionMemory position) text with
        | none => .fault
        | some copy => .next { globals with dumpPrefix := some copy }
  | none => .rejected

/-- The buffer `cmd`, with room for a zero byte behind the token. -/
def cmdSize : Nat := 200

/-- The loop of `parse_arg` over the tokens of its argument. -/
def parseTokens (host : Host) : (position : Nat) → Globals → List (List UInt8) → Parsed
  | _, globals, [] => .next globals
  | position, globals, token :: rest =>
      if cmdSize ≤ token.length then .fault
      else
        let option := splitAtByte 61 token
        match parseOption host position globals option.1 option.2 with
        | .next later => parseTokens host (position + 1) later rest
        | .rejected => .rejected
        | .fault => .fault

def separators : List UInt8 := [32, 9, 44]

/-- Raw sockets only support frames of the size of ethernet. -/
def limitSize (host : Host) (globals : Globals) : Globals :=
  if globals.socktype = .raw ∧ host.ethFrameLen < globals.size.toNat then
    { globals with size := UInt64.ofNat host.ethFrameLen }
  else globals

def parseArg (host : Host) (arg : CString) : Parsed :=
  match parseTokens host 0 defaults (tokens separators arg.bytes) with
  | .next globals => .next (limitSize host globals)
  | .rejected => .rejected
  | .fault => .fault

/-! ## The setup -/

/-- The globals of the test with its two blocks. -/
structure LatencyState where
  globals : Globals
  packetListLength : UInt64
  packetList : List UInt8
  rttClientSample : List UInt8

/-- How `latency_setup` ends: with -1, with zero, or at the assertion that the
socket exists. -/
inductive SetupOutcome where
  | fault
  | failed
  | aborted (state : LatencyState)
  | ready (state : LatencyState)

/-- A run of `latency_setup` with the products for sizes that it computed. -/
structure SetupRun where
  products : List (Nat × Nat)
  outcome : SetupOutcome

/-- The part after the packet table, which ends with the choice of the layer. -/
def allocateSamples (host : Host) (globals : Globals) (packetListLength : UInt64)
    (packetList : List UInt8) (tableProducts : List (Nat × Nat)) : SetupRun :=
  let sampleSize := 8 * globals.samples
  let products := tableProducts ++ [(8, globals.samples.toNat)]
  match host.sampleMemory.malloc sampleSize.toNat with
  | none => { products := products, outcome := .failed }
  | some buffer =>
      match bzero buffer sampleSize.toNat with
      | none => { products := products, outcome := .fault }
      | some rttClientSample =>
          if globals.socktype = .raw ∧ host.rawLinux = false then
            { products := products, outcome := .failed }
          else
            let state : LatencyState :=
              { globals := globals
                packetListLength := packetListLength
                packetList := packetList
                rttClientSample := rttClientSample }
            { products := products
              outcome := if host.setupSocket = -1 then .aborted state else .ready state }

/-- The part after the division.  A node of the packet table has 16 bytes. -/
def allocate (host : Host) (globals : Globals) (packets : UInt64) : SetupRun :=
  let atLeastOne := if packets < 1 then 1 else packets
  let packetListLength := atLeastOne * globals.dropThreshold
  let tableSize := packetListLength * 16
  let products :=
    [(atLeastOne.toNat, globals.dropThreshold.toNat), (packetListLength.toNat, 16)]
  match host.tableMemory.malloc tableSize.toNat with
  | none => { products := products, outcome := .failed }
  | some table =>
      match bzero table tableSize.toNat with
      | none => { products := products, outcome := .fault }
      | some packetList => allocateSamples host globals packetListLength packetList products

/-- `latency_setup`, up to the options of the socket. -/
def latencySetup (host : Host) (arg : CString) : SetupRun :=
  match if arg.bytes.length ≠ 0 then parseArg host arg else .next defaults with
  | .fault => { products := [], outcome := .fault }
  | .rejected => { products := [], outcome := .failed }
  | .next globals =>
      if globals.size = 0 then { products := [], outcome := .fault }
      else allocate host globals (globals.bps / 8 / globals.size)

/-! ## The statement -/

/-- The state that the test relies on. -/
structure Established (state : LatencyState) : Prop where
  size : 8 ≤ state.globals.size.toNat
  samples : 1 ≤ state.globals.samples.toNat
  length : 1 ≤ state.packetListLength.toNat
  table : state.packetListLength.toNat * 16 ≤ state.packetList.length
  buffer : 8 * state.globals.samples.toNat ≤ state.rttClientSample.length

/-- A run that returns -1 or establishes the state, without a fault and without
a product that leaves 64 bits. -/
def Admits (run : SetupRun) : Prop :=
  (∀ product ∈ run.products, product.1 * product.2 < 0x10000000000000000) ∧
    match run.outcome with
    | .fault => False
    | .failed => True
    | .aborted state => Established state
    | .ready state => Established state

/-! ## What the options ask for -/

def cmdOf (option : List UInt8) : List UInt8 :=
  (splitAtByte 61 option).1

/-- The value of an option, unless it has none. -/
def valOf (option : List UInt8) : Option (List UInt8) :=
  (splitAtByte 61 option).2

def readNumber (name : OptionName) (option : List UInt8) : Option UInt64 :=
  if optionName (cmdOf option) = some name then
    (valOf option).map fun text => asUint64 (strtoll text)
  else none

/-- The rate can be given in two units. -/
def readRate (option : List UInt8) : Option UInt64 :=
  if optionName (cmdOf option) = some .mbps then
    (valOf option).map fun text => asUint64 (strtoll text * 1000000)
  else readNumber .bps option

def readSocktype (option : List UInt8) : Option SockType :=
  if optionName (cmdOf option) = some .socktype then
    if valOf option = some (literal "udp") then some .udp
    else if valOf option = some (literal "raw") then some .raw
    else none
  else none

/-- The last option that says something decides. -/
def lastGiven {Value : Type} (read : List UInt8 → Option Value) (default : Value)
    (options : List (List UInt8)) : Value :=
  ((options.filterMap read).getLast?).getD default

/-- The quantities that meet in the setup. -/
structure Request where
  bps : UInt64
  size : UInt64
  samples : UInt64
  drop : UInt64
  socktype : SockType
deriving DecidableEq, Repr

/-- What some options ask for, on top of an earlier request. -/
def Request.given (request : Request) (options : List (List UInt8)) : Request where
  bps := lastGiven readRate request.bps options
  size := lastGiven (readNumber .size) request.size options
  samples := lastGiven (readNumber .samples) request.samples options
  drop := lastGiven (readNumber .drop) request.drop options
  socktype := lastGiven readSocktype request.socktype options

def Globals.request (globals : Globals) : Request where
  bps := globals.bps
  size := globals.size
  samples := globals.samples
  drop := globals.dropThreshold
  socktype := globals.socktype

/-- With raw sockets a packet is at most a frame. -/
def Request.packetSize (host : Host) (request : Request) : Nat :=
  if request.socktype = .raw then min request.size.toNat host.ethFrameLen else request.size.toNat

/-- The packets that are sent in a second, and at least one. -/
def Request.packets (host : Host) (request : Request) : Nat :=
  max 1 (request.bps.toNat / 8 / request.packetSize host)

/-! ## The condition -/

/-- An option has the value that it needs, its scaled number stays in the range
of a `long long`, and there is memory for a copy. -/
def SafeValue (host : Host) (position : Nat) (option : List UInt8) : Prop :=
  match optionName (cmdOf option) with
  | none | some .withCpuTarget => True
  | some .dumpDir =>
      ∀ text, valOf option = some text → host.isDirectory position text = true →
        ((host.optionMemory position).malloc (text.length + 1)).isSome = true
  | some .dumpPrefix =>
      ∃ text, valOf option = some text ∧
        ((host.optionMemory position).malloc (text.length + 1)).isSome = true
  | some .mbps => ∃ text, valOf option = some text ∧ InInt64 (strtoll text * 1000000)
  | some .warmup | some .cooldown =>
      ∃ text, valOf option = some text ∧ InInt64 (strtoll text * usPerS)
  | some _ => ∃ text, valOf option = some text

/-- An unknown name, or a directory that does not exist. -/
def RejectedOption (host : Host) (position : Nat) (option : List UInt8) : Prop :=
  match optionName (cmdOf option) with
  | none => True
  | some .dumpDir => ∀ text, valOf option = some text → host.isDirectory position text = false
  | some _ => False

/-- Up to the first that is rejected, the options fit the buffer and are safe. -/
def SafeOptions (host : Host) : (position : Nat) → List (List UInt8) → Prop
  | _, [] => True
  | position, option :: rest =>
      option.length < cmdSize ∧ SafeValue host position option ∧
        (¬ RejectedOption host position option → SafeOptions host (position + 1) rest)

def AcceptedOptions (host : Host) : (position : Nat) → List (List UInt8) → Prop
  | _, [] => True
  | position, option :: rest =>
      ¬ RejectedOption host position option ∧ AcceptedOptions host (position + 1) rest

/-- The products stay in 64 bits, and what is allocated is not too small.  The
sizes count only as far as the memory grants the blocks before. -/
structure SizesFit (host : Host) (request : Request) : Prop where
  divisor : request.packetSize host ≠ 0
  nodes : request.packets host * request.drop.toNat < 0x10000000000000000
  table : request.packets host * request.drop.toNat * 16 < 0x10000000000000000
  buffer :
    (host.tableMemory.malloc (request.packets host * request.drop.toNat * 16)).isSome = true →
      8 * request.samples.toNat < 0x10000000000000000
  positive :
    (host.tableMemory.malloc (request.packets host * request.drop.toNat * 16)).isSome = true →
      (host.sampleMemory.malloc (8 * request.samples.toNat)).isSome = true →
        (request.socktype = .raw → host.rawLinux = true) →
          8 ≤ request.packetSize host ∧ 1 ≤ request.samples.toNat ∧ 1 ≤ request.drop.toNat

/-- The arguments for which the setup does what it should. -/
structure Admissible (host : Host) (arg : CString) : Prop where
  options : SafeOptions host 0 (tokens separators arg.bytes)
  sizes : AcceptedOptions host 0 (tokens separators arg.bytes) →
    SizesFit host (defaults.request.given (tokens separators arg.bytes))

/-! ## One option -/

theorem lastGiven_cons {Value : Type} (read : List UInt8 → Option Value) (default : Value)
    (option : List UInt8) (rest : List (List UInt8)) :
    lastGiven read default (option :: rest) = lastGiven read ((read option).getD default) rest := by
  unfold lastGiven
  cases said : read option with
  | none => simp [said]
  | some value => simp [said, List.getLast?_cons]

theorem lastGiven_nil {Value : Type} (read : List UInt8 → Option Value) (default : Value) :
    lastGiven read default [] = default := rfl

/-- What one option asks for comes before what the rest asks for. -/
theorem Request.given_cons (request : Request) (option : List UInt8)
    (rest : List (List UInt8)) :
    request.given (option :: rest) = (request.given [option]).given rest := by
  simp [Request.given, lastGiven_cons, lastGiven_nil]

/-- The three ways in which an option ends. -/
inductive OptionStep (host : Host) (position : Nat) (globals : Globals) (option : List UInt8) :
    Parsed → Prop where
  | next (later : Globals) (safe : SafeValue host position option)
      (accepted : ¬ RejectedOption host position option)
      (request : later.request = globals.request.given [option]) :
      OptionStep host position globals option (.next later)
  | rejected (safe : SafeValue host position option)
      (rejected : RejectedOption host position option) :
      OptionStep host position globals option .rejected
  | fault (unsafe_ : ¬ SafeValue host position option) :
      OptionStep host position globals option .fault

section Options

variable {host : Host} {position : Nat} {globals : Globals} {option : List UInt8}

theorem OptionStep.withValue {use : List UInt8 → Parsed}
    (needs : SafeValue host position option → ∃ text, valOf option = some text)
    (each : ∀ text, valOf option = some text →
      OptionStep host position globals option (use text)) :
    OptionStep host position globals option (Latency.withValue (valOf option) use) := by
  unfold Latency.withValue
  cases value : valOf option with
  | none =>
      refine .fault fun safe => ?_
      rcases needs safe with ⟨text, said⟩
      rw [value] at said
      cases said
  | some text => exact each text value

/-- A scaled number faults exactly when its product leaves the range. -/
theorem OptionStep.scaled {factor : Int} {text : List UInt8} {store : UInt64 → Globals}
    (safe : SafeValue host position option ↔ InInt64 (strtoll text * factor))
    (accepted : ¬ RejectedOption host position option)
    (request : (store (asUint64 (strtoll text * factor))).request =
      globals.request.given [option]) :
    OptionStep host position globals option (Latency.scaled factor text store) := by
  unfold Latency.scaled mulInt64
  by_cases range : InInt64 (strtoll text * factor)
  · rw [if_pos range]
    exact .next _ (safe.mpr range) accepted request
  · rw [if_neg range]
    exact .fault fun fine => range (safe.mp fine)

/-- A copied string faults exactly when there is no memory for it. -/
theorem OptionStep.copied {text : List UInt8} {store : List UInt8 → Globals}
    (safe : SafeValue host position option ↔
      ((host.optionMemory position).malloc (text.length + 1)).isSome = true)
    (accepted : ¬ RejectedOption host position option)
    (request : ∀ copy, (store copy).request = globals.request.given [option]) :
    OptionStep host position globals option
      (match copyString (host.optionMemory position) text with
        | none => .fault
        | some copy => .next (store copy)) := by
  rw [← copyString_isSome] at safe
  cases copied : copyString (host.optionMemory position) text with
  | none =>
      refine .fault fun fine => ?_
      simp [safe, copied] at fine
  | some copy => exact .next _ (safe.mpr (by simp [copied])) accepted (request copy)

/-- One option asks for what it says, and otherwise for what was asked before. -/
theorem Request.given_one (request : Request) (option : List UInt8) :
    request.given [option] =
      { bps := (readRate option).getD request.bps
        size := (readNumber .size option).getD request.size
        samples := (readNumber .samples option).getD request.samples
        drop := (readNumber .drop option).getD request.drop
        socktype := (readSocktype option).getD request.socktype } := by
  simp [Request.given, lastGiven_cons, lastGiven_nil]

theorem not_rejected {known : OptionName} (name : optionName (cmdOf option) = some known)
    (other : known ≠ .dumpDir) : ¬ RejectedOption host position option := by
  cases known with
  | dumpDir => exact absurd rfl other
  | _ => simp [RejectedOption, name]

/-- Options with other names leave the request as it is. -/
theorem Request.given_other {known : OptionName} (request : Request)
    (name : optionName (cmdOf option) = some known)
    (other : known ∉ [.bps, .mbps, .samples, .size, .socktype, .drop]) :
    request.given [option] = request := by
  cases known <;>
    simp [Request.given_one, readRate, readNumber, readSocktype, name] at other ⊢

theorem OptionStep.stored {store : List UInt8 → Globals}
    (safe : SafeValue host position option ↔ ∃ text, valOf option = some text)
    (accepted : ¬ RejectedOption host position option)
    (request : ∀ text, valOf option = some text →
      (store text).request = globals.request.given [option]) :
    OptionStep host position globals option
      (Latency.withValue (valOf option) fun text => .next (store text)) := by
  apply OptionStep.withValue safe.mp
  intro text value
  exact .next _ (safe.mpr ⟨text, value⟩) accepted (request text value)

theorem dumpDir_step (name : optionName (cmdOf option) = some .dumpDir) :
    OptionStep host position globals option
      (parseOption host position globals (cmdOf option) (valOf option)) := by
  unfold parseOption
  rw [name]
  dsimp only
  cases value : valOf option with
  | none =>
      apply OptionStep.rejected
      · simp [SafeValue, name, value]
      · simp [RejectedOption, name, value]
  | some text =>
      dsimp only
      by_cases directory : host.isDirectory position text = true
      · rw [if_pos directory]
        apply OptionStep.copied
        · simp [SafeValue, name, value, directory]
        · simp [RejectedOption, name, value, directory]
        · intro copy
          exact (Request.given_other _ name (by simp)).symm
      · rw [if_neg directory]
        apply OptionStep.rejected
        · simp [SafeValue, name, value, directory]
        · simp [RejectedOption, name, value, directory]

/-- Any other value than `udp` and `raw` is ignored. -/
theorem socktype_step (name : optionName (cmdOf option) = some .socktype) :
    OptionStep host position globals option
      (parseOption host position globals (cmdOf option) (valOf option)) := by
  have accepted : ¬ RejectedOption host position option := not_rejected name (by simp)
  unfold parseOption
  rw [name]
  dsimp only
  apply OptionStep.withValue
  · simp [SafeValue, name]
  · intro text value
    have safe : SafeValue host position option := by simp [SafeValue, name, value]
    by_cases udp : text = literal "udp"
    · rw [if_pos udp]
      apply OptionStep.next _ safe accepted
      simp [Request.given_one, Globals.request, readRate, readNumber, readSocktype, name, value,
        udp]
    · rw [if_neg udp]
      by_cases raw : text = literal "raw"
      · rw [if_pos raw]
        have other : literal "raw" ≠ literal "udp" := by decide
        apply OptionStep.next _ safe accepted
        simp [other, Request.given_one, Globals.request, readRate, readNumber, readSocktype, name,
          value, raw]
      · rw [if_neg raw]
        apply OptionStep.next _ safe accepted
        simp [Request.given_one, Globals.request, readRate, readNumber, readSocktype, name, value,
          udp, raw]

theorem parseOption_step :
    OptionStep host position globals option
      (parseOption host position globals (cmdOf option) (valOf option)) := by
  cases name : optionName (cmdOf option) with
  | none =>
      simp only [parseOption, name]
      exact .rejected (by simp [SafeValue, name]) (by simp [RejectedOption, name])
  | some known =>
      cases known with
      | dumpDir => exact dumpDir_step name
      | socktype => exact socktype_step name
      | bps =>
          simp only [parseOption, name]
          apply OptionStep.stored (by simp [SafeValue, name]) (not_rejected name (by simp))
          intro text value
          simp [Request.given_one, Globals.request, readRate, readNumber, readSocktype, name, value]
      | mbps =>
          simp only [parseOption, name]
          refine .withValue (by simp +contextual [SafeValue, name]) fun text value => ?_
          apply OptionStep.scaled _ (not_rejected name (by simp))
          · simp [Request.given_one, Globals.request, readRate, readNumber, readSocktype, name,
              value]
          · simp [SafeValue, name, value]
      | samples =>
          simp only [parseOption, name]
          apply OptionStep.stored (by simp [SafeValue, name]) (not_rejected name (by simp))
          intro text value
          simp [Request.given_one, Globals.request, readRate, readNumber, readSocktype, name, value]
      | size =>
          simp only [parseOption, name]
          apply OptionStep.stored (by simp [SafeValue, name]) (not_rejected name (by simp))
          intro text value
          simp [Request.given_one, Globals.request, readRate, readNumber, readSocktype, name, value]
      | drop =>
          simp only [parseOption, name]
          apply OptionStep.stored (by simp [SafeValue, name]) (not_rejected name (by simp))
          intro text value
          simp [Request.given_one, Globals.request, readRate, readNumber, readSocktype, name, value]
      | iface =>
          simp only [parseOption, name]
          apply OptionStep.stored (by simp [SafeValue, name]) (not_rejected name (by simp))
          intro text value
          exact (Request.given_other _ name (by simp)).symm
      | sockopts =>
          simp only [parseOption, name]
          apply OptionStep.stored (by simp [SafeValue, name]) (not_rejected name (by simp))
          intro text value
          exact (Request.given_other _ name (by simp)).symm
      | warmup =>
          simp only [parseOption, name]
          refine .withValue (by simp +contextual [SafeValue, name]) fun text value => ?_
          apply OptionStep.scaled (by simp [SafeValue, name, value]) (not_rejected name (by simp))
          exact (Request.given_other _ name (by simp)).symm
      | cooldown =>
          simp only [parseOption, name]
          refine .withValue (by simp +contextual [SafeValue, name]) fun text value => ?_
          apply OptionStep.scaled (by simp [SafeValue, name, value]) (not_rejected name (by simp))
          exact (Request.given_other _ name (by simp)).symm
      | withCpuTarget =>
          simp only [parseOption, name]
          apply OptionStep.next _ (by simp [SafeValue, name]) (not_rejected name (by simp))
          exact (Request.given_other _ name (by simp)).symm
      | dumpPrefix =>
          simp only [parseOption, name]
          refine .withValue (by simp +contextual [SafeValue, name]) fun text value => ?_
          apply OptionStep.copied (by simp [SafeValue, name, value]) (not_rejected name (by simp))
          intro copy
          exact (Request.given_other _ name (by simp)).symm

end Options

/-! ## The loop -/

/-- The three ways in which the loop ends. -/
inductive LoopStep (host : Host) (position : Nat) (globals : Globals)
    (options : List (List UInt8)) : Parsed → Prop where
  | next (later : Globals) (safe : SafeOptions host position options)
      (accepted : AcceptedOptions host position options)
      (request : later.request = globals.request.given options) :
      LoopStep host position globals options (.next later)
  | rejected (safe : SafeOptions host position options)
      (rejected : ¬ AcceptedOptions host position options) :
      LoopStep host position globals options .rejected
  | fault (unsafe_ : ¬ SafeOptions host position options) :
      LoopStep host position globals options .fault

theorem parseTokens_step (host : Host) (position : Nat) (globals : Globals)
    (options : List (List UInt8)) :
    LoopStep host position globals options (parseTokens host position globals options) := by
  induction options generalizing position globals with
  | nil => exact .next globals trivial trivial rfl
  | cons option rest inductionHypothesis =>
      rw [parseTokens]
      by_cases long : cmdSize ≤ option.length
      · rw [if_pos long]
        exact .fault fun safe => Nat.not_lt.mpr long safe.1
      · rw [if_neg long]
        have fits : option.length < cmdSize := Nat.lt_of_not_le long
        have here : OptionStep host position globals option
          (parseOption host position globals (cmdOf option) (valOf option)) := parseOption_step
        change LoopStep host position globals (option :: rest)
          (match parseOption host position globals (cmdOf option) (valOf option) with
            | .next later => parseTokens host (position + 1) later rest
            | .rejected => .rejected
            | .fault => .fault)
        generalize parseOption host position globals (cmdOf option) (valOf option) = result
          at here ⊢
        cases here with
        | fault unsafe_ => exact .fault fun safe => unsafe_ safe.2.1
        | rejected safe rejected =>
            exact .rejected ⟨fits, safe, fun accepted => False.elim (accepted rejected)⟩
              fun accepted => accepted.1 rejected
        | next later safe accepted request =>
            dsimp only
            have after := inductionHypothesis (position + 1) later
            generalize parseTokens host (position + 1) later rest = ended at after ⊢
            cases after with
            | next last safeRest acceptedRest requestRest =>
                refine .next last ⟨fits, safe, fun _ => safeRest⟩ ⟨accepted, acceptedRest⟩ ?_
                rw [requestRest, request, Request.given_cons globals.request option rest]
            | rejected safeRest rejectedRest =>
                exact .rejected ⟨fits, safe, fun _ => safeRest⟩ fun all => rejectedRest all.2
            | fault unsafeRest => exact .fault fun all => unsafeRest (all.2.2 accepted)

/-! ## The sizes -/

section Sizes

variable {host : Host} {globals : Globals}

theorem established_iff {packetListLength : UInt64} {packetList rttClientSample : List UInt8}
    (table : packetListLength.toNat * 16 ≤ packetList.length)
    (buffer : 8 * globals.samples.toNat ≤ rttClientSample.length) :
    Established
        { globals := globals
          packetListLength := packetListLength
          packetList := packetList
          rttClientSample := rttClientSample } ↔
      8 ≤ globals.size.toNat ∧ 1 ≤ globals.samples.toNat ∧ 1 ≤ packetListLength.toNat :=
  ⟨fun state => ⟨state.size, state.samples, state.length⟩,
    fun fine => ⟨fine.1, fine.2.1, fine.2.2, table, buffer⟩⟩

theorem allocateSamples_products (packetListLength : UInt64) (packetList : List UInt8)
    (products : List (Nat × Nat)) :
    (allocateSamples host globals packetListLength packetList products).products =
      products ++ [(8, globals.samples.toNat)] := by
  unfold allocateSamples
  dsimp only
  split
  · rfl
  · split
    · rfl
    · split
      · rfl
      · rfl

/-- The sample buffer is large enough if its product stays in 64 bits. -/
theorem admits_allocateSamples {packetListLength : UInt64} {packetList : List UInt8}
    (table : packetListLength.toNat * 16 ≤ packetList.length) (products : List (Nat × Nat)) :
    Admits (allocateSamples host globals packetListLength packetList products) ↔
      (∀ product ∈ products, product.1 * product.2 < 0x10000000000000000) ∧
        8 * globals.samples.toNat < 0x10000000000000000 ∧
          ((host.sampleMemory.malloc (8 * globals.samples.toNat)).isSome = true →
            (globals.socktype = .raw → host.rawLinux = true) →
              8 ≤ globals.size.toNat ∧ 1 ≤ globals.samples.toNat ∧
                1 ≤ packetListLength.toNat) := by
  unfold Admits
  rw [allocateSamples_products]
  simp only [List.forall_mem_append, List.forall_mem_singleton, and_assoc]
  apply and_congr_right
  intro _
  apply and_congr_right
  intro fits
  have size : (8 * globals.samples).toNat = 8 * globals.samples.toNat := by
    rw [UInt64.toNat_mul]
    exact Nat.mod_eq_of_lt fits
  unfold allocateSamples
  dsimp only
  rw [size]
  cases granted : host.sampleMemory.malloc (8 * globals.samples.toNat) with
  | none => simp
  | some buffer =>
      simp only [bzero_fill (host.sampleMemory.size granted), Option.isSome_some, true_imp_iff]
      by_cases unsupported : globals.socktype = .raw ∧ host.rawLinux = false
      · simp [unsupported]
      · rw [if_neg unsupported]
        have supported : globals.socktype = .raw → host.rawLinux = true := by
          intro raw
          simpa [raw] using unsupported
        have buffer : 8 * globals.samples.toNat ≤
            (List.replicate (8 * globals.samples.toNat) (0 : UInt8)).length := by simp
        have state := established_iff table buffer
        by_cases socket : host.setupSocket = -1
        · simp only [if_pos socket]
          exact state.trans ⟨fun fine _ => fine, fun fine => fine supported⟩
        · simp only [if_neg socket]
          exact state.trans ⟨fun fine _ => fine, fun fine => fine supported⟩

theorem atLeastOne_toNat (packets : UInt64) :
    (if packets < 1 then 1 else packets).toNat = max 1 packets.toNat := by
  by_cases few : packets < 1
  · have none : packets.toNat < 1 := few
    rw [if_pos few, UInt64.toNat_one]
    omega
  · have some_ : ¬ packets.toNat < 1 := few
    rw [if_neg few]
    omega

theorem allocate_products (packets : UInt64) :
    ∃ rest, (allocate host globals packets).products =
      ((if packets < 1 then 1 else packets).toNat, globals.dropThreshold.toNat) ::
        (((if packets < 1 then 1 else packets) * globals.dropThreshold).toNat, 16) :: rest := by
  unfold allocate
  dsimp only
  split
  · exact ⟨[], rfl⟩
  · split
    · exact ⟨[], rfl⟩
    · exact ⟨[(8, globals.samples.toNat)], allocateSamples_products _ _ _⟩

/-- The number of nodes of the table, if its product stays in 64 bits. -/
theorem packetListLength_toNat {packets : UInt64}
    (nodes : max 1 packets.toNat * globals.dropThreshold.toNat < 0x10000000000000000) :
    ((if packets < 1 then 1 else packets) * globals.dropThreshold).toNat =
      max 1 packets.toNat * globals.dropThreshold.toNat := by
  rw [UInt64.toNat_mul, atLeastOne_toNat]
  exact Nat.mod_eq_of_lt nodes

theorem products_of_admits {packets : UInt64}
    (admits : Admits (allocate host globals packets)) :
    max 1 packets.toNat * globals.dropThreshold.toNat < 0x10000000000000000 ∧
      max 1 packets.toNat * globals.dropThreshold.toNat * 16 < 0x10000000000000000 := by
  have split : ∃ rest, (allocate host globals packets).products = _ := allocate_products packets
  rcases split with ⟨rest, products⟩
  have each := admits.1
  rw [products, List.forall_mem_cons, List.forall_mem_cons, atLeastOne_toNat] at each
  have nodes : max 1 packets.toNat * globals.dropThreshold.toNat < 0x10000000000000000 := each.1
  have table := each.2.1
  rw [packetListLength_toNat nodes] at table
  exact ⟨nodes, table⟩

/-- With a table whose size is right, the rest depends on its memory. -/
theorem admits_allocate_table {packets : UInt64}
    (nodes : max 1 packets.toNat * globals.dropThreshold.toNat < 0x10000000000000000)
    (table : max 1 packets.toNat * globals.dropThreshold.toNat * 16 < 0x10000000000000000) :
    Admits (allocate host globals packets) ↔
      ((host.tableMemory.malloc
          (max 1 packets.toNat * globals.dropThreshold.toNat * 16)).isSome = true →
        8 * globals.samples.toNat < 0x10000000000000000 ∧
          ((host.sampleMemory.malloc (8 * globals.samples.toNat)).isSome = true →
            (globals.socktype = .raw → host.rawLinux = true) →
              8 ≤ globals.size.toNat ∧ 1 ≤ globals.samples.toNat ∧
                1 ≤ globals.dropThreshold.toNat)) := by
  have length : ((if packets < 1 then 1 else packets) * globals.dropThreshold).toNat =
      max 1 packets.toNat * globals.dropThreshold.toNat := packetListLength_toNat nodes
  have size : ((if packets < 1 then 1 else packets) * globals.dropThreshold * 16).toNat =
      max 1 packets.toNat * globals.dropThreshold.toNat * 16 := by
    rw [UInt64.toNat_mul, length]
    exact Nat.mod_eq_of_lt table
  have products : ∀ product ∈
      [((if packets < 1 then 1 else packets).toNat, globals.dropThreshold.toNat),
        (((if packets < 1 then 1 else packets) * globals.dropThreshold).toNat, 16)],
          product.1 * product.2 < 0x10000000000000000 := by
    rw [length, atLeastOne_toNat]
    simp only [List.forall_mem_cons]
    exact ⟨nodes, table, fun product member => absurd member List.not_mem_nil⟩
  unfold allocate
  dsimp only
  rw [size]
  cases granted : host.tableMemory.malloc
      (max 1 packets.toNat * globals.dropThreshold.toNat * 16) with
  | none => exact iff_of_true ⟨products, trivial⟩ (by simp)
  | some block =>
      simp only [bzero_fill (host.tableMemory.size granted)]
      have whole : ((if packets < 1 then 1 else packets) * globals.dropThreshold).toNat * 16 ≤
          (List.replicate (max 1 packets.toNat * globals.dropThreshold.toNat * 16)
            (0 : UInt8)).length :=
        Nat.le_of_eq (by rw [length, List.length_replicate])
      have positive : 1 ≤ max 1 packets.toNat * globals.dropThreshold.toNat ↔
          1 ≤ globals.dropThreshold.toNat := by
        have packets : 1 ≤ max 1 packets.toNat := Nat.le_max_left _ _
        exact ⟨fun some_ => Nat.pos_of_mul_pos_left some_, fun some_ => Nat.mul_pos packets some_⟩
      refine (admits_allocateSamples whole _).trans ?_
      rw [length] at products ⊢
      rw [positive]
      exact ⟨fun fits _ => fits.2, fun fits => ⟨products, fits rfl⟩⟩

/-- The setup after the division does what it should exactly when the sizes fit. -/
theorem admits_allocate {request : Request} {packets : UInt64}
    (bytes : globals.size.toNat = request.packetSize host)
    (drop : globals.dropThreshold = request.drop) (samples : globals.samples = request.samples)
    (socktype : globals.socktype = request.socktype)
    (counted : packets.toNat = request.bps.toNat / 8 / request.packetSize host)
    (divisor : request.packetSize host ≠ 0) :
    Admits (allocate host globals packets) ↔ SizesFit host request := by
  have number : max 1 packets.toNat = request.packets host := by
    rw [Request.packets, counted]
  constructor
  · intro admits
    rcases products_of_admits admits with ⟨nodes, table⟩
    have rest := (admits_allocate_table nodes table).mp admits
    rw [number, drop] at nodes table rest
    rw [bytes, samples, socktype] at rest
    exact ⟨divisor, nodes, table, fun granted => (rest granted).1, fun granted => (rest granted).2⟩
  · intro fits
    have nodes := fits.nodes
    have table := fits.table
    rw [← number, ← drop] at nodes table
    apply (admits_allocate_table nodes table).mpr
    rw [number, drop, bytes, samples, socktype]
    exact fun granted => ⟨fits.buffer granted, fits.positive granted⟩

end Sizes

/-! ## All arguments -/

/-- The globals after `parse_arg` hold the size that is used for packets. -/
theorem limitSize_size (host : Host) (globals : Globals) :
    (limitSize host globals).size.toNat = globals.request.packetSize host := by
  have frame : (UInt64.ofNat host.ethFrameLen).toNat = host.ethFrameLen := by
    rw [UInt64.toNat_ofNat']
    rcases host.frame with short | long
    · rw [short]
    · rw [long]
  unfold limitSize Request.packetSize Globals.request
  by_cases raw : globals.socktype = .raw
  · rw [if_pos raw]
    by_cases large : host.ethFrameLen < globals.size.toNat
    · rw [if_pos ⟨raw, large⟩, frame, Nat.min_eq_right (Nat.le_of_lt large)]
    · rw [if_neg fun both => large both.2, Nat.min_eq_left (Nat.le_of_not_lt large)]
  · rw [if_neg raw, if_neg fun both => raw both.1]

theorem limitSize_request (host : Host) (globals : Globals) :
    (limitSize host globals).request =
      { globals.request with size := (limitSize host globals).size } := by
  unfold limitSize
  split
  · rfl
  · rfl

theorem parseArg_empty (host : Host) {arg : CString} (empty : arg.bytes = []) :
    parseArg host arg = .next defaults := by
  unfold parseArg
  rw [empty]
  rfl

/-- The setup returns -1 or establishes the state, without undefined behaviour
on the way, exactly when every option up to the first that is rejected has the
value it needs, and the sizes of an accepted request fit. -/
theorem admits_iff (host : Host) (arg : CString) :
    Admits (latencySetup host arg) ↔ Admissible host arg := by
  have parsed : (if arg.bytes.length ≠ 0 then parseArg host arg else .next defaults) =
      parseArg host arg := by
    split
    · rfl
    · next empty =>
        exact (parseArg_empty host (List.eq_nil_of_length_eq_zero (not_not.mp empty))).symm
  unfold latencySetup
  rw [parsed, parseArg]
  have step := parseTokens_step host 0 defaults (tokens separators arg.bytes)
  generalize parseTokens host 0 defaults (tokens separators arg.bytes) = result at step ⊢
  cases step with
  | fault unsafe_ => exact iff_of_false (fun admits => admits.2) fun fits => unsafe_ fits.options
  | rejected safe rejected =>
      refine iff_of_true ⟨?_, trivial⟩ ⟨safe, fun accepted => False.elim (rejected accepted)⟩
      simp
  | next later safe accepted request =>
      have bytes := limitSize_size host later
      have rest := limitSize_request host later
      dsimp only
      by_cases zero : (limitSize host later).size = 0
      · rw [if_pos zero]
        refine iff_of_false (fun admits => admits.2) fun fits => (fits.sizes accepted).divisor ?_
        rw [← request, ← bytes, zero]
        rfl
      · have divisor : later.request.packetSize host ≠ 0 := by
          intro none
          rw [← bytes] at none
          exact zero (UInt64.toNat_inj.mp none)
        rw [if_neg zero]
        refine (admits_allocate bytes (congrArg Request.drop rest)
          (congrArg Request.samples rest) (congrArg Request.socktype rest) ?_ divisor).trans ?_
        · have rate : (limitSize host later).bps = later.request.bps := congrArg Request.bps rest
          rw [UInt64.toNat_div, UInt64.toNat_div, bytes, rate]
          rfl
        · rw [request]
          exact ⟨fun fits => ⟨safe, fun _ => fits⟩, fun admissible => admissible.sizes accepted⟩

theorem not_admits_of_fault {run : SetupRun} (fault : run.outcome = .fault) : ¬ Admits run := by
  intro admits
  have ended := admits.2
  rw [fault] at ended
  exact ended

/-- A host with memory, files and a network for every request. -/
def plentifulHost : Host where
  rawLinux := true
  ethFrameLen := 1514
  frame := Or.inr rfl
  ifnamsiz := 16
  isDirectory := fun _ _ => true
  optionMemory := fun _ => Allocator.zeros fun _ => true
  tableMemory := Allocator.zeros fun _ => true
  sampleMemory := Allocator.zeros fun _ => true
  setupSocket := 3

/-- A packet size of zero is a division by zero, an option without its value a
null pointer, and zero samples are accepted. -/
theorem zeroSize_faults :
    ¬ Admits (latencySetup plentifulHost ⟨literal "size=0", by decide⟩) ∧
      ¬ Admits (latencySetup plentifulHost ⟨literal "bps", by decide⟩) ∧
        ¬ Admits (latencySetup plentifulHost ⟨literal "bps=8,samples=0", by decide⟩) := by
  refine ⟨not_admits_of_fault rfl, not_admits_of_fault rfl, fun admits => ?_⟩
  have state : Established _ := admits.2
  exact absurd state.samples (by decide)

end Latency
end Ipbench
