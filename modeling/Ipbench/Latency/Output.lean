import Ipbench.Latency.Marshalling
import Ipbench.Latency.Statistics
import Mathlib.Algebra.Order.BigOperators.Group.Multiset

namespace Ipbench
namespace Latency

open Foundation

/-!
# Aggregating the results of all clients

The controller keeps one entry for each client and fills it when the client's
message arrives.  Every message also sets the global `samples`, and
`latency_output` then takes this number, of whichever client came last, as the
number of samples of each of them: as the length to copy, as the distance
between the copies, and as a factor of the divisor.

`Aggregated` says that the figures printed are those of the samples of all
clients together.  It holds for every order of arrival exactly when all
clients have the same number of samples, which is not zero, and the numbers
stay within the integers of the code.
-/

/-! ## The code -/

structure ClientData where
  data : Option (List UInt8)
  size : Int
  valid : Bool
deriving DecidableEq, Repr

/-- The memory of the controller.  An entry that was never written is `none`. -/
structure Controller where
  samples : UInt64
  clientData : List (Option ClientData)
deriving DecidableEq, Repr

def setupController (samples : UInt64) (totalclients : Nat) : Controller where
  samples := samples
  clientData := List.replicate totalclients none

/-- `unmarshall` of the shunt.  Its wrapper raises an exception when the status
is -1; the entry has no data then, and no line is printed here either. -/
def unmarshall (order : ByteOrder) (malloc : Nat → Bool) (controller : Controller)
    (clientid : Nat) (data : List UInt8) (valid : Bool) : Option Controller :=
  if clientid < controller.clientData.length then
    (latencyUnmarshall order malloc controller.samples data).map fun result =>
      { samples := result.samples
        clientData := controller.clientData.set clientid
          (some { data := result.data, size := result.dataLen, valid := valid }) }
  else none

/-- The local variables of the loop of `latency_output`. -/
structure Totals where
  totalRequestedThroughput : UInt64
  totalAchievedThroughput : UInt64
  totalSentThroughput : UInt64
  packetSize : UInt64
  rttTotals : List UInt64
deriving DecidableEq, Repr

def noTotals : Totals where
  totalRequestedThroughput := 0
  totalAchievedThroughput := 0
  totalSentThroughput := 0
  packetSize := 0
  rttTotals := []

/-- One turn of the loop.  The samples follow eight words of header, and the
copies stand one behind the other. -/
def addClient (order : ByteOrder) (samples : UInt64) (totals : Totals)
    (entry : Option ClientData) : Option Totals := do
  let client ← entry
  let theresult ← client.data
  let rtts ← readWords order theresult 8 samples.toNat
  let requested ← readWord order theresult 5
  let achieved ← readWord order theresult 6
  let sent ← readWord order theresult 7
  let size ← readWord order theresult 2
  some
    { totalRequestedThroughput := totals.totalRequestedThroughput + requested
      totalAchievedThroughput := totals.totalAchievedThroughput + achieved
      totalSentThroughput := totals.totalSentThroughput + sent
      packetSize := size
      rttTotals := totals.rttTotals ++ rtts }

/-- One turn of the loop with its dump: `dump` is `none` when `dump_dir` is not set, and
says which files can be opened otherwise.  A stream that could not be opened is
printed to all the same, since the descriptor of the client's socket is checked
in its place. -/
def addDumped (order : ByteOrder) (samples : UInt64) (dump : Option (Nat → Bool))
    (totals : Totals) (next : Option ClientData × Nat) : Option Totals := do
  let totals ← addClient order samples totals next.1
  if dump.all fun fopen => fopen next.2 then some totals else none

/-- How the format of a signed integer prints a word. -/
def printed (word : UInt64) : Int :=
  Int.bmod word.toNat 0x10000000000000000

/-- The line that is printed.  Of the variance the square root is printed. -/
structure OutputLine where
  totalRequestedThroughput : Int
  totalAchievedThroughput : Int
  totalSentThroughput : Int
  packetSize : Int
  rttMin : Int
  rttAv : Int
  rttMax : Int
  rttStd : UInt64
  rttMed : Int
deriving DecidableEq, Repr

inductive OutputResult where
  | outOfMemory
  | line (line : OutputLine)
deriving DecidableEq, Repr

def outputLine (totals : Totals) (result : RttResults) : OutputLine where
  totalRequestedThroughput := printed totals.totalRequestedThroughput
  totalAchievedThroughput := printed totals.totalAchievedThroughput
  totalSentThroughput := printed totals.totalSentThroughput
  packetSize := printed totals.packetSize
  rttMin := printed result.rttMin
  rttAv := printed result.rttAv
  rttMax := printed result.rttMax
  rttStd := result.rttStd
  rttMed := printed result.rttMed

def latencyOutput (order : ByteOrder) (malloc : Nat → Bool) (dump : Option (Nat → Bool))
    (controller : Controller) : Option OutputResult :=
  let samples := controller.samples
  let nelem := controller.clientData.length
  let size := (samples * 8 * UInt64.ofNat nelem).toNat
  if malloc size then do
    let totals ← controller.clientData.zipIdx.foldlM (addDumped order samples dump) noTotals
    if size < 8 * totals.rttTotals.length then none
    else
      let result ← rttResults totals.rttTotals (UInt64.ofNat nelem * samples).toNat
      some (.line (outputLine totals result))
  else some .outOfMemory

/-! ## A whole measurement -/

/-- A client that has finished.  The size of its message is a C integer. -/
structure Client where
  order : ByteOrder
  result : LatencyResult
  bps : UInt64
  rttSample : List UInt64
  valid : Bool
  fits : 64 + 8 * rttSample.length < 0x80000000

namespace Client

variable (tickToUsec : UInt64 → UInt64) (client : Client)

def samples : UInt64 :=
  UInt64.ofNat client.rttSample.length

def rtts : List UInt64 :=
  client.rttSample.map tickToUsec

def header : MarshalledResult :=
  marshalledResult client.result client.bps client.samples

/-- The message that the client marshalls. -/
def message : List UInt8 :=
  match latencyMarshall client.order (fun _ => true) tickToUsec client.result client.bps
      client.samples client.rttSample with
  | some (.message data _) => data
  | _ => []

end Client

section Run

variable (order : ByteOrder) (malloc : Nat → Bool) (dump : Option (Nat → Bool))
  (tickToUsec : UInt64 → UInt64) (clients : List Client)

/-- The arrival of the message of one client. -/
def arrive (controller : Controller) (clientid : Nat) : Option Controller :=
  match clients[clientid]? with
  | none => none
  | some client =>
      unmarshall order malloc controller clientid (client.message tickToUsec) client.valid

/-- All messages in the order of their arrival, and then the output. -/
def aggregate (samples : UInt64) (arrivals : List Nat) : Option OutputResult :=
  (arrivals.foldlM (arrive order malloc tickToUsec clients)
    (setupController samples clients.length)).bind (latencyOutput order malloc dump)

end Run

/-! ## The purpose -/

/-- The samples of all clients together. -/
def allRtts (tickToUsec : UInt64 → UInt64) (clients : List Client) : Multiset Nat :=
  (clients.map fun client => rttValues (client.rtts tickToUsec)).sum

/-- The line shows the minimum, the mean (rounded down), the maximum and the
median (of rank half the number, rounded down) of a collection. -/
structure Reports (values : Multiset Nat) (line : OutputLine) : Prop where
  least : ∃ least : Nat, line.rttMin = least ∧ IsLeast {value | value ∈ values} least
  mean : line.rttAv = (values.sum / values.card : Nat)
  greatest : ∃ greatest : Nat, line.rttMax = greatest ∧
    IsGreatest {value | value ∈ values} greatest
  median : ∃ median : Nat, line.rttMed = median ∧ values.sort[values.card / 2]? = some median

/-- A measurement ends with the figures of all samples, without touching other
memory. -/
def Aggregated (order : ByteOrder) (malloc : Nat → Bool) (dump : Option (Nat → Bool))
    (tickToUsec : UInt64 → UInt64) (clients : List Client) (samples : UInt64)
    (arrivals : List Nat) : Prop :=
  ∃ line, aggregate order malloc dump tickToUsec clients samples arrivals = some (.line line) ∧
    Reports (allRtts tickToUsec clients) line

/-- No dumps, or a file for each of so many clients. -/
def Opens (dump : Option (Nat → Bool)) (count : Nat) : Prop :=
  ∀ i < count, dump.all (fun fopen => fopen i) = true

/-- Equally many samples of every client, which the integers of the code and
the memory of the controller can hold, and a file for every dump. -/
structure Uniform (malloc : Nat → Bool) (dump : Option (Nat → Bool))
    (tickToUsec : UInt64 → UInt64) (clients : List Client) (count : Nat) : Prop where
  some : clients ≠ []
  positive : 0 < count
  equal : ∀ client ∈ clients, client.rttSample.length = count
  counted : clients.length * count < 0x80000000
  summed : (allRtts tickToUsec clients).sum < 0x10000000000000000
  signed : ∀ value ∈ allRtts tickToUsec clients, value < 0x8000000000000000
  messages : malloc (64 + 8 * count) = true
  totals : malloc (8 * (clients.length * count)) = true
  opens : Opens dump clients.length

/-! ## One message -/

namespace Client

variable (order : ByteOrder) (malloc : Nat → Bool) (tickToUsec : UInt64 → UInt64)
  (client : Client)

theorem samples_toNat : client.samples.toNat = client.rttSample.length := by
  have fits := client.fits
  rw [samples, UInt64.toNat_ofNat', Nat.mod_eq_of_lt (by omega)]

theorem message_eq : client.message tickToUsec =
    storeWords .big (client.header.words ++ client.rtts tickToUsec) := by
  have marshalled := latencyMarshall_message client.order (fun _ => true) tickToUsec
    client.result client.bps client.samples_toNat.symm
    (by rw [client.samples_toNat]; exact client.fits) rfl
  rw [message, marshalled]
  rfl

/-- What the controller keeps of the client. -/
def entry : ClientData where
  data :=
    if malloc (64 + 8 * client.rttSample.length) then
      some (storeWords order (client.header.words ++ client.rtts tickToUsec))
    else none
  size := (64 + 8 * client.rttSample.length : Nat)
  valid := client.valid

/-- The controller after the arrival of the message: the entry of the client is
written, and the number of its samples has become the global one. -/
def arrived (controller : Controller) (clientid : Nat) : Controller where
  samples :=
    if malloc (64 + 8 * client.rttSample.length) then client.samples else controller.samples
  clientData :=
    controller.clientData.set clientid (some (client.entry order malloc tickToUsec))

theorem unmarshall_message {controller : Controller} {clientid : Nat}
    (below : clientid < controller.clientData.length) :
    unmarshall order malloc controller clientid (client.message tickToUsec) client.valid =
      some (client.arrived order malloc tickToUsec controller clientid) := by
  have length : (client.rtts tickToUsec).length = client.rttSample.length := List.length_map _
  have unmarshalled := latencyUnmarshall_message order malloc controller.samples
    client.header (client.rtts tickToUsec)
    (by rw [length]; exact client.samples_toNat) (by rw [length]; exact client.fits)
  rw [length] at unmarshalled
  rw [unmarshall, if_pos below, client.message_eq, unmarshalled]
  unfold arrived entry
  by_cases available : malloc (64 + 8 * client.rttSample.length) = true
  · rw [if_pos available, if_pos available, if_pos available]
    rfl
  · rw [if_neg available, if_neg available, if_neg available]
    rfl

end Client

/-! ## All messages -/

/-- The entries of the controller when every message has arrived. -/
def entries (order : ByteOrder) (malloc : Nat → Bool) (tickToUsec : UInt64 → UInt64)
    (clients : List Client) : List (Option ClientData) :=
  clients.map fun client => some (client.entry order malloc tickToUsec)

section Messages

variable (order : ByteOrder) (malloc : Nat → Bool) (tickToUsec : UInt64 → UInt64)
  {clients : List Client}

theorem arrive_eq {controller : Controller} {clientid : Nat} {client : Client}
    (found : clients[clientid]? = some client)
    (whole : controller.clientData.length = clients.length) :
    arrive order malloc tickToUsec clients controller clientid =
      some (client.arrived order malloc tickToUsec controller clientid) := by
  have below : clientid < controller.clientData.length := by
    rw [whole]
    exact (List.getElem?_eq_some_iff.mp found).1
  rw [arrive, found]
  exact client.unmarshall_message order malloc tickToUsec below

theorem entries_getElem {clientid : Nat} {client : Client}
    (found : clients[clientid]? = some client) :
    (entries order malloc tickToUsec clients)[clientid]? =
      some (some (client.entry order malloc tickToUsec)) := by
  rw [entries, List.getElem?_map, found, Option.map_some]

/-- The messages fill exactly the entries of their clients. -/
theorem arrivals_fill {arrivals : List Nat} {controller : Controller}
    (whole : controller.clientData.length = clients.length)
    (known : ∀ clientid ∈ arrivals, clientid < clients.length) :
    ∃ finish, arrivals.foldlM (arrive order malloc tickToUsec clients) controller = some finish ∧
      finish.clientData.length = clients.length ∧
      ∀ clientid, finish.clientData[clientid]? =
        if clientid ∈ arrivals then (entries order malloc tickToUsec clients)[clientid]?
        else controller.clientData[clientid]? := by
  induction arrivals generalizing controller with
  | nil => exact ⟨controller, rfl, whole, fun _ => (if_neg List.not_mem_nil).symm⟩
  | cons first rest inductionHypothesis =>
      have below := known first List.mem_cons_self
      have found : clients[first]? = some clients[first] := List.getElem?_eq_getElem below
      have here := arrive_eq order malloc tickToUsec found whole
      have nextWhole : (clients[first].arrived order malloc tickToUsec controller
          first).clientData.length = clients.length := List.length_set.trans whole
      rcases inductionHypothesis nextWhole
        (fun clientid member => known clientid (List.mem_cons_of_mem _ member)) with
        ⟨finish, folded, length, filled⟩
      refine ⟨finish, ?_, length, ?_⟩
      · rw [List.foldlM_cons, here]
        exact folded
      · intro clientid
        rw [filled clientid]
        by_cases later : clientid ∈ rest
        · rw [if_pos later, if_pos (List.mem_cons_of_mem _ later)]
        · rw [if_neg later]
          by_cases same : clientid = first
          · subst same
            rw [if_pos List.mem_cons_self, entries_getElem order malloc tickToUsec found]
            exact List.getElem?_set_self (whole ▸ below)
          · rw [if_neg fun member => (List.mem_cons.mp member).elim same later]
            exact List.getElem?_set_ne (Ne.symm same)

theorem arrivals_all {arrivals : List Nat} (all : arrivals.Perm (List.range clients.length))
    (samples : UInt64) :
    ∃ finish, arrivals.foldlM (arrive order malloc tickToUsec clients)
        (setupController samples clients.length) = some finish ∧
      finish.clientData = entries order malloc tickToUsec clients := by
  have known : ∀ clientid ∈ arrivals, clientid < clients.length :=
    fun clientid member => List.mem_range.mp (all.mem_iff.mp member)
  have empty : (setupController samples clients.length).clientData.length = clients.length :=
    List.length_replicate
  rcases arrivals_fill order malloc tickToUsec empty known with ⟨finish, folded, length, filled⟩
  refine ⟨finish, folded, List.ext_getElem? fun clientid => ?_⟩
  by_cases below : clientid < clients.length
  · rw [filled, if_pos (all.mem_iff.mpr (List.mem_range.mpr below))]
  · have beyond : clients.length ≤ clientid := Nat.le_of_not_lt below
    rw [List.getElem?_eq_none (length ▸ beyond),
      List.getElem?_eq_none (by rw [entries, List.length_map]; exact beyond)]

/-- The global number of samples is that of the last client. -/
theorem arrivals_last {before : List Nat} {last : Nat} {client : Client}
    (all : (before ++ [last]).Perm (List.range clients.length))
    (found : clients[last]? = some client)
    (available : malloc (64 + 8 * client.rttSample.length) = true) (samples : UInt64) :
    (before ++ [last]).foldlM (arrive order malloc tickToUsec clients)
        (setupController samples clients.length) =
      some
        { samples := client.samples, clientData := entries order malloc tickToUsec clients } := by
  rcases arrivals_all order malloc tickToUsec all samples with ⟨finish, folded, filled⟩
  have known : ∀ clientid ∈ before, clientid < clients.length := fun clientid member =>
    List.mem_range.mp (all.mem_iff.mp (List.mem_append_left _ member))
  have empty : (setupController samples clients.length).clientData.length = clients.length :=
    List.length_replicate
  rcases arrivals_fill order malloc tickToUsec empty known with ⟨middle, earlier, length, _⟩
  have step := arrive_eq order malloc tickToUsec found length
  have final : (before ++ [last]).foldlM (arrive order malloc tickToUsec clients)
      (setupController samples clients.length) =
        some (client.arrived order malloc tickToUsec middle last) := by
    rw [List.foldlM_append, earlier, Option.bind_eq_bind, Option.bind_some, List.foldlM_cons, step]
    rfl
  rw [final] at folded ⊢
  have same := Option.some.inj folded
  rw [← filled, ← same, Client.arrived, if_pos available]

end Messages

/-! ## The loop of the output -/

section Loop

variable {order : ByteOrder} {malloc : Nat → Bool} {tickToUsec : UInt64 → UInt64}
  {samples : UInt64}

theorem addClient_entry {client : Client}
    (available : malloc (64 + 8 * client.rttSample.length) = true)
    (counted : client.rttSample.length = samples.toNat) (totals : Totals) :
    ∃ next, addClient order samples totals (some (client.entry order malloc tickToUsec)) =
        some next ∧
      next.rttTotals = totals.rttTotals ++ client.rtts tickToUsec := by
  have data : (client.entry order malloc tickToUsec).data =
      some (storeWords order (client.header.words ++ client.rtts tickToUsec)) := if_pos available
  have length : (client.rtts tickToUsec).length = samples.toNat :=
    (List.length_map _).trans counted
  have rtts : readWords order (storeWords order (client.header.words ++ client.rtts tickToUsec)) 8
      samples.toNat = some (client.rtts tickToUsec) := by
    have inside := readWords_inside order client.header.words (client.rtts tickToUsec) []
    rw [List.append_nil, length] at inside
    exact inside
  have word : ∀ {index value}, client.header.words[index]? = some value →
      readWord order (storeWords order (client.header.words ++ client.rtts tickToUsec)) index =
        some value := by
    intro index value found
    apply readWord_getElem
    rw [List.getElem?_append_left (List.getElem?_eq_some_iff.mp found).1]
    exact found
  have requested : client.header.words[5]? = some client.header.throughputRequested := rfl
  have achieved : client.header.words[6]? = some client.header.throughputAchieved := rfl
  have sent : client.header.words[7]? = some client.header.throughputSent := rfl
  have size : client.header.words[2]? = some client.header.size := rfl
  refine ⟨{ totalRequestedThroughput :=
              totals.totalRequestedThroughput + client.header.throughputRequested
            totalAchievedThroughput :=
              totals.totalAchievedThroughput + client.header.throughputAchieved
            totalSentThroughput := totals.totalSentThroughput + client.header.throughputSent
            packetSize := client.header.size
            rttTotals := totals.rttTotals ++ client.rtts tickToUsec }, ?_, rfl⟩
  simp only [addClient, data, rtts, word requested, word achieved, word sent, word size,
    Option.bind_eq_bind, Option.bind_some]

/-- A client that has reported fewer samples than are copied is read past its
end. -/
theorem of_addClient {client : Client} {totals next : Totals}
    (added : addClient order samples totals (some (client.entry order malloc tickToUsec)) =
      some next) :
    malloc (64 + 8 * client.rttSample.length) = true ∧
      samples.toNat ≤ client.rttSample.length := by
  unfold addClient at added
  rcases Option.bind_eq_some_iff.mp added with ⟨entry, same, rest⟩
  rcases Option.bind_eq_some_iff.mp rest with ⟨block, stored, rest⟩
  rcases Option.bind_eq_some_iff.mp rest with ⟨rtts, read, _⟩
  rw [← Option.some.inj same, Client.entry] at stored
  by_cases available : malloc (64 + 8 * client.rttSample.length) = true
  · refine ⟨available, ?_⟩
    rw [if_pos available] at stored
    by_contra more
    have outside : block.length < 8 * (8 + samples.toNat) := by
      rw [← Option.some.inj stored, storeWords_length, List.length_append, Client.rtts,
        List.length_map]
      change 8 * (8 + client.rttSample.length) < _
      omega
    rw [readWords_outside order outside (by omega)] at read
    cases read
  · rw [if_neg available] at stored
    cases stored

theorem addClients {clients : List Client}
    (available : ∀ client ∈ clients, malloc (64 + 8 * client.rttSample.length) = true)
    (counted : ∀ client ∈ clients, client.rttSample.length = samples.toNat) (totals : Totals) :
    ∃ finish, (entries order malloc tickToUsec clients).foldlM (addClient order samples) totals =
        some finish ∧
      finish.rttTotals = totals.rttTotals ++ clients.flatMap (Client.rtts tickToUsec) := by
  induction clients generalizing totals with
  | nil => exact ⟨totals, rfl, (List.append_nil _).symm⟩
  | cons client rest inductionHypothesis =>
      have step : ∃ next, addClient order samples totals
          (some (client.entry order malloc tickToUsec)) = some next ∧
            next.rttTotals = totals.rttTotals ++ client.rtts tickToUsec :=
        addClient_entry (available client List.mem_cons_self) (counted client List.mem_cons_self)
          totals
      rcases step with ⟨next, added, copied⟩
      rcases inductionHypothesis
        (fun other member => available other (List.mem_cons_of_mem _ member))
        (fun other member => counted other (List.mem_cons_of_mem _ member)) next with
        ⟨finish, folded, all⟩
      refine ⟨finish, ?_, ?_⟩
      · rw [entries, List.map_cons, List.foldlM_cons, added]
        exact folded
      · rw [all, copied, List.flatMap_cons, List.append_assoc]

theorem of_addClients {clients : List Client} {totals finish : Totals}
    (added : (entries order malloc tickToUsec clients).foldlM (addClient order samples) totals =
      some finish) :
    ∀ client ∈ clients, malloc (64 + 8 * client.rttSample.length) = true ∧
      samples.toNat ≤ client.rttSample.length := by
  induction clients generalizing totals with
  | nil => exact fun client member => absurd member List.not_mem_nil
  | cons first rest inductionHypothesis =>
      rw [entries, List.map_cons, List.foldlM_cons] at added
      rcases Option.bind_eq_some_iff.mp added with ⟨next, here, later⟩
      intro client member
      rcases List.mem_cons.mp member with same | among
      · rw [same]
        exact of_addClient here
      · exact inductionHypothesis later client among

/-- A turn ends when the client has been added and its file opens. -/
theorem addDumped_eq_some {dump : Option (Nat → Bool)} {totals next : Totals}
    {entry : Option ClientData} {i : Nat} :
    addDumped order samples dump totals (entry, i) = some next ↔
      addClient order samples totals entry = some next ∧
        dump.all (fun fopen => fopen i) = true := by
  unfold addDumped
  cases addClient order samples totals entry with
  | none => simp
  | some added =>
      by_cases opened : dump.all (fun fopen => fopen i) = true
      · simp [opened]
      · simp [opened]

/-- The loop with its dumps ends when every file opens, and adds up the same. -/
theorem addDumped_all {dump : Option (Nat → Bool)} {totals finish : Totals}
    {entries : List (Option ClientData)} {first : Nat} :
    (entries.zipIdx first).foldlM (addDumped order samples dump) totals = some finish ↔
      entries.foldlM (addClient order samples) totals = some finish ∧
        ∀ i < entries.length, dump.all (fun fopen => fopen (first + i)) = true := by
  induction entries generalizing totals first with
  | nil => exact (and_iff_left fun i below => absurd below (Nat.not_lt_zero i)).symm
  | cons entry rest inductionHypothesis =>
      rw [List.zipIdx_cons, List.foldlM_cons, List.foldlM_cons, Option.bind_eq_bind,
        Option.bind_eq_some_iff, Option.bind_eq_some_iff]
      constructor
      · rintro ⟨next, turn, later⟩
        rcases addDumped_eq_some.mp turn with ⟨added, opened⟩
        rcases inductionHypothesis.mp later with ⟨folded, others⟩
        refine ⟨⟨next, added, folded⟩, fun i below => ?_⟩
        cases i with
        | zero => exact opened
        | succ i =>
            rw [Nat.add_comm i 1, ← Nat.add_assoc]
            exact others i (Nat.lt_of_succ_lt_succ below)
      · rintro ⟨⟨next, added, folded⟩, opened⟩
        refine ⟨next, addDumped_eq_some.mpr ⟨added, opened 0 (Nat.zero_lt_succ _)⟩, ?_⟩
        refine inductionHypothesis.mpr ⟨folded, fun i below => ?_⟩
        rw [Nat.add_assoc, Nat.add_comm 1 i]
        exact opened (i + 1) (Nat.succ_lt_succ below)

theorem addDumped_iff {dump : Option (Nat → Bool)} {totals finish : Totals}
    {entries : List (Option ClientData)} :
    entries.zipIdx.foldlM (addDumped order samples dump) totals = some finish ↔
      entries.foldlM (addClient order samples) totals = some finish ∧
        Opens dump entries.length := by
  rw [addDumped_all]
  simp only [Nat.zero_add, Opens]

end Loop

theorem allRtts_eq (tickToUsec : UInt64 → UInt64) (clients : List Client) :
    allRtts tickToUsec clients = rttValues (clients.flatMap (Client.rtts tickToUsec)) := by
  induction clients with
  | nil => rfl
  | cons client rest inductionHypothesis =>
      unfold allRtts at inductionHypothesis ⊢
      rw [List.map_cons, List.sum_cons, inductionHypothesis, List.flatMap_cons, rttValues,
        rttValues, rttValues, List.map_append, Multiset.coe_add]

theorem flatMap_rtts_length {tickToUsec : UInt64 → UInt64} {clients : List Client} {count : Nat}
    (equal : ∀ client ∈ clients, client.rttSample.length = count) :
    (clients.flatMap (Client.rtts tickToUsec)).length = clients.length * count := by
  induction clients with
  | nil => exact (Nat.zero_mul count).symm
  | cons client rest inductionHypothesis =>
      rw [List.flatMap_cons, List.length_append, Client.rtts, List.length_map,
        equal client List.mem_cons_self, List.length_cons, Nat.succ_mul,
        inductionHypothesis fun other member => equal other (List.mem_cons_of_mem _ member),
        Nat.add_comm]

/-! ## The figures -/

/-- A word that is printed as a natural number is that number. -/
theorem of_printed {word : UInt64} {value : Nat} (same : printed word = value) :
    word.toNat = value ∧ value < 0x8000000000000000 := by
  have bound := word.toNat_lt
  unfold printed at same
  rw [Int.bmod_def] at same
  split at same
  · omega
  · omega

theorem printed_of_lt {word : UInt64} (small : word.toNat < 0x8000000000000000) :
    printed word = word.toNat := by
  unfold printed
  rw [Int.bmod_def]
  split
  · omega
  · omega

theorem mean_wraps {sum count : Nat} (some_ : 0 < count) (small : count ≤ 0x10000000000000000)
    (same : sum % 0x10000000000000000 / count = sum / count) : sum < 0x10000000000000000 := by
  by_contra large
  have more : sum % 0x10000000000000000 + count ≤ sum := by omega
  have less : (sum % 0x10000000000000000 + count) / count ≤ sum / count := Nat.div_le_div_right more
  rw [Nat.add_div_right _ some_] at less
  omega

theorem reports_iff {rtts : List UInt64} (nonempty : rtts ≠ [])
    (small : rtts.length < 0x80000000) {results : RttResults}
    (computed : rttResults rtts rtts.length = some results) (totals : Totals) :
    Reports (rttValues rtts) (outputLine totals results) ↔
      (rttValues rtts).sum < 0x10000000000000000 ∧
        ∀ value ∈ rttValues rtts, value < 0x8000000000000000 := by
  rcases rttResults_whole nonempty small with ⟨same, again, least, mean, greatest, median⟩
  rw [computed] at again
  rw [← Option.some.inj again] at least mean greatest median
  have positive : 0 < rtts.length := List.length_pos_iff.mpr nonempty
  have lineMin : (outputLine totals results).rttMin = printed results.rttMin := by
    rw [outputLine]
  have lineAv : (outputLine totals results).rttAv = printed results.rttAv := by
    rw [outputLine]
  have lineMax : (outputLine totals results).rttMax = printed results.rttMax := by
    rw [outputLine]
  have lineMed : (outputLine totals results).rttMed = printed results.rttMed := by
    rw [outputLine]
  constructor
  · intro reports
    constructor
    · have shown := (of_printed (lineAv ▸ reports.mean)).1
      rw [mean, card_rttValues] at shown
      exact mean_wraps positive (Nat.le_trans (Nat.le_of_lt small) (by simp)) shown
    · intro value member
      rcases reports.greatest with ⟨shown, print, isGreatest⟩
      rw [lineMax] at print
      exact Nat.lt_of_le_of_lt (isGreatest.2 member) (of_printed print).2
  · rintro ⟨summed, signed⟩
    have average : results.rttAv.toNat = (rttValues rtts).sum / (rttValues rtts).card := by
      rw [mean, Nat.mod_eq_of_lt summed, card_rttValues]
    have averageSigned : results.rttAv.toNat < 0x8000000000000000 := by
      have total := Multiset.sum_le_card_nsmul (rttValues rtts) results.rttMax.toNat
        fun value member => greatest.2 member
      rw [nsmul_eq_mul, card_rttValues] at total
      rw [average, card_rttValues]
      exact Nat.lt_of_le_of_lt (Nat.div_le_of_le_mul total) (signed _ greatest.1)
    have medianMember : results.rttMed.toNat ∈ rttValues rtts :=
      (Multiset.mem_sort _).mp (List.mem_of_getElem? median)
    constructor
    · rw [lineMin]
      exact ⟨_, printed_of_lt (signed _ least.1), least⟩
    · rw [lineAv, ← average]
      exact printed_of_lt averageSigned
    · rw [lineMax]
      exact ⟨_, printed_of_lt (signed _ greatest.1), greatest⟩
    · rw [lineMed, card_rttValues]
      exact ⟨_, printed_of_lt (signed _ medianMember), median⟩

/-! ## Every order of arrival -/

section Orders

variable {order : ByteOrder} {malloc : Nat → Bool} {dump : Option (Nat → Bool)}
  {tickToUsec : UInt64 → UInt64} {clients : List Client}

theorem totals_size (samples : UInt64) (nelem : Nat) :
    (samples * 8 * UInt64.ofNat nelem).toNat =
      8 * (nelem * samples.toNat) % 0x10000000000000000 := by
  have product : samples.toNat * 8 * nelem = 8 * (nelem * samples.toNat) := by
    rw [Nat.mul_comm samples.toNat 8, Nat.mul_assoc, Nat.mul_comm samples.toNat nelem]
  rw [UInt64.toNat_mul, UInt64.toNat_mul, UInt64.toNat_ofNat', ← product]
  exact (Nat.mul_mod _ _ _).symm

theorem totals_count (samples : UInt64) (nelem : Nat) :
    (UInt64.ofNat nelem * samples).toNat = nelem * samples.toNat % 0x10000000000000000 := by
  rw [UInt64.toNat_mul, UInt64.toNat_ofNat']
  exact Nat.mod_mul_mod _ _ _

theorem entries_length : (entries order malloc tickToUsec clients).length = clients.length :=
  List.length_map _

/-- A printed line has been computed from all the entries. -/
theorem latencyOutput_line {controller : Controller} {line : OutputLine}
    (output : latencyOutput order malloc dump controller = some (.line line)) :
    Opens dump controller.clientData.length ∧ ∃ totals results,
      controller.clientData.foldlM (addClient order controller.samples) noTotals = some totals ∧
      malloc (8 * (controller.clientData.length * controller.samples.toNat) %
        0x10000000000000000) = true ∧
      8 * totals.rttTotals.length ≤ 8 * (controller.clientData.length *
        controller.samples.toNat) % 0x10000000000000000 ∧
      rttResults totals.rttTotals (controller.clientData.length * controller.samples.toNat %
        0x10000000000000000) = some results ∧
      line = outputLine totals results := by
  unfold latencyOutput at output
  dsimp only at output
  rw [totals_size, totals_count] at output
  by_cases available : malloc (8 * (controller.clientData.length *
      controller.samples.toNat) % 0x10000000000000000) = true
  · rw [if_pos available] at output
    rcases Option.bind_eq_some_iff.mp output with ⟨totals, looped, rest⟩
    rcases addDumped_iff.mp looped with ⟨folded, opens⟩
    by_cases beyond : 8 * (controller.clientData.length * controller.samples.toNat) %
        0x10000000000000000 < 8 * totals.rttTotals.length
    · rw [if_pos beyond] at rest
      cases rest
    · rw [if_neg beyond] at rest
      rcases Option.bind_eq_some_iff.mp rest with ⟨results, computed, printed⟩
      refine ⟨opens, totals, results, folded, available, Nat.le_of_not_lt beyond, computed, ?_⟩
      exact (OutputResult.line.inj (Option.some.inj printed)).symm
  · rw [if_neg available] at output
    cases output

theorem totals_of_equal {count : Nat} {controller : Controller}
    (filled : controller.clientData = entries order malloc tickToUsec clients)
    (counted : controller.samples.toNat = count)
    (available : malloc (64 + 8 * count) = true)
    (equal : ∀ client ∈ clients, client.rttSample.length = count) :
    ∃ totals, controller.clientData.foldlM (addClient order controller.samples) noTotals =
        some totals ∧
      totals.rttTotals = clients.flatMap (Client.rtts tickToUsec) := by
  rw [filled]
  apply addClients
  · intro client member
    rw [equal client member]
    exact available
  · intro client member
    rw [equal client member, counted]

theorem aggregated_of_uniform {count : Nat} (uniform : Uniform malloc dump tickToUsec clients count)
    {arrivals : List Nat} (all : arrivals.Perm (List.range clients.length)) (samples : UInt64) :
    Aggregated order malloc dump tickToUsec clients samples arrivals := by
  rcases List.eq_nil_or_concat arrivals with empty | ⟨before, last, same⟩
  · rw [empty] at all
    have length := all.length_eq
    rw [List.length_nil, List.length_range] at length
    exact absurd (List.eq_nil_of_length_eq_zero length.symm) uniform.some
  · rw [List.concat_eq_append] at same
    subst same
    have below : last < clients.length :=
      List.mem_range.mp (all.mem_iff.mp (List.mem_append_right _ List.mem_cons_self))
    have found : clients[last]? = some clients[last] := List.getElem?_eq_getElem below
    have length := uniform.equal clients[last] (List.getElem_mem below)
    have counted : clients[last].samples.toNat = count := by
      rw [Client.samples_toNat, length]
    have collected := arrivals_last order malloc tickToUsec all found
      (by rw [length]; exact uniform.messages) samples
    generalize final : Controller.mk clients[last].samples
      (entries order malloc tickToUsec clients) = controller at collected
    have filled : controller.clientData = entries order malloc tickToUsec clients := by
      rw [← final]
    have number : controller.samples.toNat = count := by
      rw [← final]
      exact counted
    have nelem : controller.clientData.length = clients.length := by
      rw [filled, entries_length]
    rcases totals_of_equal filled number uniform.messages uniform.equal with
      ⟨totals, folded, copied⟩
    have looped : controller.clientData.zipIdx.foldlM (addDumped order controller.samples dump)
        noTotals = some totals :=
      addDumped_iff.mpr ⟨folded, nelem.symm ▸ uniform.opens⟩
    have rtts : totals.rttTotals.length = clients.length * count := by
      rw [copied, flatMap_rtts_length uniform.equal]
    have positive : 0 < clients.length * count :=
      Nat.mul_pos (List.length_pos_iff.mpr uniform.some) uniform.positive
    have nonempty : totals.rttTotals ≠ [] := List.length_pos_iff.mp (rtts ▸ positive)
    have small : totals.rttTotals.length < 0x80000000 := rtts ▸ uniform.counted
    rcases rttResults_whole nonempty small with ⟨results, computed, _⟩
    have values : allRtts tickToUsec clients = rttValues totals.rttTotals := by
      rw [allRtts_eq, copied]
    refine ⟨outputLine totals results, ?_, ?_⟩
    · have counted := uniform.counted
      have size : 8 * (clients.length * count) % 0x10000000000000000 =
          8 * (clients.length * count) := by omega
      have entries : clients.length * count % 0x10000000000000000 = clients.length * count := by
        omega
      rw [aggregate, collected, Option.bind_some, latencyOutput, totals_size, totals_count, nelem,
        looped, number, size, entries, if_pos uniform.totals, Option.bind_eq_bind,
        Option.bind_some, if_neg (by omega), ← rtts, computed]
      rfl
    · rw [values]
      apply (reports_iff nonempty small computed totals).mpr
      rw [← values]
      exact ⟨uniform.summed, uniform.signed⟩

section Necessary

variable {samples : UInt64}
  (each : ∀ arrivals, arrivals.Perm (List.range clients.length) →
    Aggregated order malloc dump tickToUsec clients samples arrivals)

include each

theorem some_of_aggregated : clients ≠ [] := by
  rintro rfl
  rcases each [] (List.Perm.refl _) with ⟨line, output, _⟩
  rcases latencyOutput_line output with ⟨_, totals, results, folded, _, _, computed, _⟩
  have empty : noTotals = totals := Option.some.inj folded
  rw [← empty] at computed
  exact (rttResults_some computed).1 rfl

theorem available_of_aggregated {client : Client} (member : client ∈ clients) :
    malloc (64 + 8 * client.rttSample.length) = true := by
  rcases each _ (List.Perm.refl _) with ⟨line, output, _⟩
  rcases arrivals_all order malloc tickToUsec (List.Perm.refl (List.range clients.length)) samples
    with ⟨controller, collected, filled⟩
  rw [aggregate, collected, Option.bind_some] at output
  rcases latencyOutput_line output with ⟨_, totals, results, folded, _⟩
  rw [filled] at folded
  exact (of_addClients folded client member).1

/-- When a client comes last, its samples are counted out to every client. -/
theorem last_of_aggregated {client : Client} (member : client ∈ clients) :
    ∃ controller line, controller.clientData = entries order malloc tickToUsec clients ∧
      controller.samples.toNat = client.rttSample.length ∧
      latencyOutput order malloc dump controller = some (.line line) ∧
      Reports (allRtts tickToUsec clients) line := by
  rcases List.mem_iff_getElem?.mp member with ⟨last, found⟩
  have below : last ∈ List.range clients.length :=
    List.mem_range.mpr (List.getElem?_eq_some_iff.mp found).1
  have all : ((List.range clients.length).erase last ++ [last]).Perm
      (List.range clients.length) :=
    (List.perm_append_singleton last _).trans (List.perm_cons_erase below).symm
  rcases each _ all with ⟨line, output, reports⟩
  rw [aggregate, arrivals_last order malloc tickToUsec all found
    (available_of_aggregated each member) samples, Option.bind_some] at output
  exact ⟨_, line, rfl, client.samples_toNat, output, reports⟩

theorem le_of_aggregated {client other : Client} (member : client ∈ clients)
    (among : other ∈ clients) : client.rttSample.length ≤ other.rttSample.length := by
  rcases last_of_aggregated each member with ⟨controller, line, filled, counted, output, _⟩
  rcases latencyOutput_line output with ⟨_, totals, results, folded, _⟩
  rw [filled] at folded
  rw [← counted]
  exact (of_addClients folded other among).2

theorem uniform_of_aggregated : ∃ count, Uniform malloc dump tickToUsec clients count := by
  have some_ := some_of_aggregated each
  rcases List.exists_mem_of_ne_nil clients some_ with ⟨client, member⟩
  refine ⟨client.rttSample.length, ?_⟩
  have equal : ∀ other ∈ clients, other.rttSample.length = client.rttSample.length :=
    fun other among =>
      Nat.le_antisymm (le_of_aggregated each among member) (le_of_aggregated each member among)
  have messages := available_of_aggregated each member
  rcases last_of_aggregated each member with ⟨controller, line, filled, counted, output, reports⟩
  have nelem : controller.clientData.length = clients.length := by
    rw [filled, entries_length]
  rcases totals_of_equal filled counted messages equal with ⟨copy, copyFolded, copied⟩
  rcases latencyOutput_line output with
    ⟨opens, totals, results, folded, available, inside, computed, printed⟩
  rw [folded] at copyFolded
  rw [← Option.some.inj copyFolded] at copied
  have rtts : totals.rttTotals.length = clients.length * client.rttSample.length := by
    rw [copied, flatMap_rtts_length equal]
  have values : allRtts tickToUsec clients = rttValues totals.rttTotals := by
    rw [allRtts_eq, copied]
  rw [nelem, counted] at available inside computed
  rw [rtts] at inside
  have size : 8 * (clients.length * client.rttSample.length) % 0x10000000000000000 =
      8 * (clients.length * client.rttSample.length) :=
    Nat.le_antisymm (Nat.mod_le _ _) inside
  have entries : clients.length * client.rttSample.length % 0x10000000000000000 =
      totals.rttTotals.length := by
    omega
  rw [size] at available
  rw [entries] at computed
  rcases rttResults_some computed with ⟨nonempty, small⟩
  have figures : Reports (rttValues totals.rttTotals) (outputLine totals results) := by
    rw [← values, ← printed]
    exact reports
  rcases (reports_iff nonempty small computed totals).mp figures with ⟨summed, signed⟩
  have positive : 0 < clients.length * client.rttSample.length :=
    rtts ▸ List.length_pos_iff.mpr nonempty
  exact
    { some := some_
      positive := Nat.pos_of_mul_pos_left positive
      equal := equal
      counted := rtts ▸ small
      summed := values ▸ summed
      signed := values ▸ signed
      messages := messages
      totals := available
      opens := nelem ▸ opens }

end Necessary

/-- The figures are those of all samples, in every order of arrival, exactly
when every client has the same number of them, which is not zero, the integers
of the code and the memory of the controller suffice, and a file opens for every
dump. -/
theorem aggregated_iff (order : ByteOrder) (malloc : Nat → Bool) (dump : Option (Nat → Bool))
    (tickToUsec : UInt64 → UInt64) (clients : List Client) (samples : UInt64) :
    (∀ arrivals, arrivals.Perm (List.range clients.length) →
      Aggregated order malloc dump tickToUsec clients samples arrivals) ↔
      ∃ count, Uniform malloc dump tickToUsec clients count := by
  constructor
  · exact uniform_of_aggregated
  · rintro ⟨count, uniform⟩ arrivals all
    exact aggregated_of_uniform uniform all samples

end Orders

/-- A client with the given samples. -/
def clientWith (rttSample : List UInt64) (fits : 64 + 8 * rttSample.length < 0x80000000) :
    Client where
  order := .little
  result :=
    { size := 64, transmittedBytes := 0, microseconds := 1, bps := 0, bpsSent := 0, sends := 0
      recvs := 0 }
  bps := 0
  rttSample := rttSample
  valid := true
  fits := fits

/-- When a client with two samples comes after one with a single sample, the
block of the latter is read past its end. -/
theorem unequal_samples_overread :
    let clients := [clientWith [10] (by decide), clientWith [20, 30] (by decide)]
    ¬ (∀ arrivals, arrivals.Perm (List.range clients.length) →
      Aggregated .little (fun _ => true) none id clients 200000 arrivals) ∧
      aggregate .little (fun _ => true) none id clients 200000 [0, 1] = none := by
  intro clients
  have overread : aggregate .little (fun _ => true) none id clients 200000 [0, 1] = none := by
    decide
  refine ⟨?_, overread⟩
  intro each
  rcases each [0, 1] (List.Perm.refl _) with ⟨line, output, _⟩
  rw [overread] at output
  cases output

end Latency
end Ipbench
