import Ipbench.Foundation.Block
import Ipbench.Latency.Output

namespace Ipbench
namespace Latency

open Foundation

/-!
# The lengths of untrusted messages

The bytes that a client sends reach `latency_unmarshall` whatever they are, with
their number as a C integer.  It converts as many words of the message as the
header announces, takes the size of the new block from the same number, and
copies as many bytes as have been received.  The two numbers are not compared.
`latency_output` then reads from every block as many samples as the last message
has announced.

Here the blocks are memory, and what leaves the message or a block is `none`.
-/

/-! ## The code -/

/-- A message for the controller, with the memory it finds there. -/
structure Arrival where
  clientid : Nat
  data : List UInt8
  valid : Bool
  memory : Allocator

/-- One message from each client, in the order of their arrival. -/
structure Results where
  count : Nat
  arrivals : List Arrival
  once : (arrivals.map Arrival.clientid).Perm (List.range count)

/-- `latency_unmarshall` in memory.  The length was cast to `int` by its caller,
and `memcpy` takes it as a `size_t`. -/
def unmarshallBytes (order : ByteOrder) (memory : Allocator) (samples : UInt64)
    (input : List UInt8) : Option Unmarshalled := do
  let header ← (List.range' 0 8).foldlM (changeWord order order.ntohll) input
  let count ← readWord order header 1
  -- beyond this number the counter `i` overflows
  if 0x80000000 ≤ count.toNat then none
  else
    let converted ← (List.range' 8 count.toNat).foldlM (changeWord order order.ntohll) header
    let dataLen := asInt (64 + 8 * count).toNat
    match memory.malloc (asSize dataLen) with
    | none => some { status := -1, data := none, dataLen := dataLen, samples := samples }
    | some block =>
        (memcpy block 0 converted (asSize (asInt input.length))).map fun data =>
          { status := 0, data := some data, dataLen := dataLen, samples := count }

inductive Received where
  | outside
  | refused
  | stored (controller : Controller)
deriving DecidableEq, Repr

/-- `unmarshall` of the shunt.  Python raises an exception for the status -1, which
ends the run. -/
def receive (order : ByteOrder) (controller : Controller) (arrival : Arrival) : Received :=
  if arrival.clientid < controller.clientData.length then
    match unmarshallBytes order arrival.memory controller.samples arrival.data with
    | none => .outside
    | some result =>
        if result.status = -1 then .refused
        else
          .stored
            { samples := result.samples
              clientData := controller.clientData.set arrival.clientid
                (some
                  { data := result.data, size := result.dataLen, valid := arrival.valid }) }
  else .outside

/-! ## The statement -/

/-- The number of samples that the header of a message announces. -/
def headerCount (message : List UInt8) : UInt64 :=
  ByteOrder.big.load ((message.drop 8).take 8)

/-- The length that agrees with this number. -/
def announcedLength (message : List UInt8) : Nat :=
  64 + 8 * (headerCount message).toNat

/-- `latency_output` reads only inside the blocks of the clients.  Without memory
for the totals it reads nothing. -/
def OutputInside (order : ByteOrder) (totalsMemory : Allocator) (controller : Controller) : Prop :=
  (totalsMemory.malloc
      (controller.samples * 8 * UInt64.ofNat controller.clientData.length).toNat).isSome = true →
    (controller.clientData.foldlM (addClient order controller.samples) noTotals).isSome = true

/-- Every message stays inside its bounds and is refused when the number of its
samples does not agree with its length, and so does the output when the run comes
to it. -/
def LengthChecked (order : ByteOrder) (totalsMemory : Allocator) :
    Controller → List Arrival → Prop
  | controller, [] => OutputInside order totalsMemory controller
  | controller, arrival :: rest =>
      match receive order controller arrival with
      | .outside => False
      | .refused => True
      | .stored next =>
          announcedLength arrival.data = arrival.data.length ∧
            LengthChecked order totalsMemory next rest

/-! ## The condition -/

/-- The number of bytes that are copied. -/
def copiedLength (message : List UInt8) : Nat :=
  asSize (asInt message.length)

def requestedSize (message : List UInt8) : Nat :=
  asSize (asInt (announcedLength message))

/-- The words that are converted lie in the message, and the counter can count
them. -/
structure Covered (message : List UInt8) : Prop where
  counted : (headerCount message).toNat < 0x80000000
  inside : announcedLength message ≤ message.length

/-- The header announces what is there, and the integers of the code can hold it. -/
structure Fitting (message : List UInt8) : Prop where
  agrees : announcedLength message = message.length
  copied : copiedLength message ≤ message.length

namespace Arrival

def Granted (arrival : Arrival) : Prop :=
  (arrival.memory.malloc (requestedSize arrival.data)).isSome = true

/-- The messages, up to the first that is refused, are what they should be. -/
def EachFitting : List Arrival → Prop
  | [] => True
  | arrival :: rest =>
      Covered arrival.data ∧ (arrival.Granted → Fitting arrival.data ∧ EachFitting rest)

/-- The number of samples that the last message announces. -/
def lastCount : UInt64 → List Arrival → UInt64
  | samples, [] => samples
  | _, arrival :: rest => lastCount (headerCount arrival.data) rest

end Arrival

/-- The messages that are stored fit, and when all are, no block is smaller than
the last message would need. -/
structure Honest (totalsMemory : Allocator) (samples : UInt64) (results : Results) : Prop where
  messages : Arrival.EachFitting results.arrivals
  output : (∀ arrival ∈ results.arrivals, arrival.Granted) →
    (totalsMemory.malloc (Arrival.lastCount samples results.arrivals * 8 *
      UInt64.ofNat results.count).toNat).isSome = true →
    ∀ arrival ∈ results.arrivals,
      64 + 8 * (Arrival.lastCount samples results.arrivals).toNat ≤ copiedLength arrival.data

/-! ## One message -/

theorem announcedSize_toNat {count : UInt64} (counted : count.toNat < 0x80000000) :
    (64 + 8 * count).toNat = 64 + 8 * count.toNat := by
  rw [UInt64.toNat_add, UInt64.toNat_mul]
  change (64 + 8 * count.toNat % 2 ^ 64) % 2 ^ 64 = _
  omega

/-- The header of a message that is long enough for one. -/
theorem header_converted (order : ByteOrder) {input : List UInt8} (long : 64 ≤ input.length) :
    ∃ header, (List.range' 0 8).foldlM (changeWord order order.ntohll) input = some header ∧
      header.length = input.length ∧ readWord order header 1 = some (headerCount input) := by
  have converted := foldlM_ntohll_rest order [] (networkWords 8 input) (input.drop (8 * 8))
  have whole : storeWords .big (networkWords 8 input) ++ input.drop (8 * 8) = input :=
    storeWords_networkWords long
  rw [storeWords_nil, List.nil_append, List.nil_append, whole, networkWords_length] at converted
  refine ⟨_, converted, ?_, readWord_header order rfl _⟩
  simp only [List.length_append, storeWords_length, networkWords_length, List.length_drop]
  omega

/-- The words of a message are converted exactly when it covers them, and the
copy is as long as the message. -/
theorem unmarshallBytes_covered (order : ByteOrder) (memory : Allocator) (samples : UInt64)
    {input : List UInt8} (covered : Covered input) :
    ∃ converted, converted.length = input.length ∧
      unmarshallBytes order memory samples input =
        match memory.malloc (requestedSize input) with
        | none =>
            some
              { status := -1
                data := none
                dataLen := asInt (announcedLength input)
                samples := samples }
        | some block =>
            (memcpy block 0 converted (copiedLength input)).map fun data =>
              { status := 0
                data := some data
                dataLen := asInt (announcedLength input)
                samples := headerCount input } := by
  have counted := covered.counted
  have inside := covered.inside
  unfold announcedLength at inside
  rcases header_converted order (Nat.le_trans (Nat.le_add_right 64 _) inside) with
    ⟨header, first, length, read⟩
  have room : ((List.range' 8 (headerCount input).toNat).foldlM
      (changeWord order order.ntohll) header).isSome = true := by
    rw [foldlM_changeWord_isSome]
    omega
  rcases Option.isSome_iff_exists.mp room with ⟨converted, second⟩
  have same : converted.length = input.length := (foldlM_changeWord_length second).trans length
  refine ⟨converted, same, ?_⟩
  simp only [unmarshallBytes, first, read, second, Option.bind_eq_bind, Option.bind_some,
    if_neg (Nat.not_le_of_lt counted), announcedSize_toNat counted]
  rfl

theorem unmarshallBytes_uncovered (order : ByteOrder) (memory : Allocator) (samples : UInt64)
    {input : List UInt8} (uncovered : ¬ Covered input) :
    unmarshallBytes order memory samples input = none := by
  unfold unmarshallBytes
  by_cases long : 64 ≤ input.length
  · rcases header_converted order long with ⟨header, first, length, read⟩
    simp only [first, read, Option.bind_eq_bind, Option.bind_some]
    split
    · rfl
    · next counted =>
        have outside : ¬ ((List.range' 8 (headerCount input).toNat).foldlM
            (changeWord order order.ntohll) header).isSome = true := by
          rw [foldlM_changeWord_isSome]
          intro inside
          apply uncovered
          refine ⟨Nat.lt_of_not_le counted, ?_⟩
          unfold announcedLength
          omega
        rw [Option.not_isSome_iff_eq_none.mp outside]
        rfl
  · have outside : ¬ ((List.range' 0 8).foldlM (changeWord order order.ntohll) input).isSome =
        true := by
      rw [foldlM_changeWord_isSome]
      omega
    rw [Option.not_isSome_iff_eq_none.mp outside]
    rfl

/-! ## The blocks of the controller -/

/-- A client is added to the totals when its block has room for the samples that
are read from it. -/
theorem addClient_isSome (order : ByteOrder) (samples : UInt64) (totals : Totals)
    (entry : Option ClientData) :
    (addClient order samples totals entry).isSome = true ↔
      ∃ client block, entry = some client ∧ client.data = some block ∧
        64 + 8 * samples.toNat ≤ block.length := by
  cases entry with
  | none => simp [addClient]
  | some client =>
      cases stored : client.data with
      | none => simp [addClient, stored]
      | some block =>
          have reads : (addClient order samples totals (some client)).isSome = true ↔
              (readWords order block 8 samples.toNat).isSome = true ∧
                (readWord order block 5).isSome = true ∧
                (readWord order block 6).isSome = true ∧
                (readWord order block 7).isSome = true ∧
                (readWord order block 2).isSome = true := by
            simp [addClient, stored, Option.isSome_iff_exists, Option.bind_eq_some_iff]
          rw [reads, readWords_isSome]
          simp only [readWord_isSome, Option.some.injEq]
          constructor
          · intro inside
            exact ⟨client, block, rfl, stored, by omega⟩
          · rintro ⟨_, _, rfl, same, room⟩
            cases stored.symm.trans same
            omega

/-- All clients are added to the totals when all blocks have room. -/
theorem addClients_isSome (order : ByteOrder) (samples : UInt64) (totals : Totals)
    (entries : List (Option ClientData)) :
    (entries.foldlM (addClient order samples) totals).isSome = true ↔
      ∀ entry ∈ entries, ∃ client block, entry = some client ∧ client.data = some block ∧
        64 + 8 * samples.toNat ≤ block.length :=
  foldlM_isSome_iff
    (fun totals entry (_ : True) => addClient_isSome order samples totals entry)
    (fun _ _ _ _ _ => trivial) trivial

/-- The blocks of the clients whose messages are stored are as long as their copies. -/
structure Blocks (count : Nat) (done : List Arrival) (controller : Controller) : Prop where
  whole : controller.clientData.length = count
  stored : ∀ arrival ∈ done, ∃ client block,
    controller.clientData[arrival.clientid]? = some (some client) ∧ client.data = some block ∧
      block.length = copiedLength arrival.data

theorem blocks_setup (samples : UInt64) (count : Nat) :
    Blocks count [] (setupController samples count) where
  whole := List.length_replicate
  stored := fun _ member => absurd member List.not_mem_nil

/-- A new block does not replace that of another client. -/
theorem Blocks.store {count : Nat} {done : List Arrival} {controller : Controller}
    (blocks : Blocks count done controller) {arrival : Arrival}
    (below : arrival.clientid < count) (fresh : arrival.clientid ∉ done.map Arrival.clientid)
    (samples : UInt64) {client : ClientData} {block : List UInt8}
    (data : client.data = some block) (length : block.length = copiedLength arrival.data) :
    Blocks count (done ++ [arrival])
      { samples := samples
        clientData := controller.clientData.set arrival.clientid (some client) } where
  whole := List.length_set.trans blocks.whole
  stored := by
    intro other member
    rcases List.mem_append.mp member with earlier | last
    · rcases blocks.stored other earlier with ⟨client', block', found, data', length'⟩
      refine ⟨client', block', ?_, data', length'⟩
      have different : arrival.clientid ≠ other.clientid := by
        intro same
        apply fresh
        rw [same]
        exact List.mem_map_of_mem earlier
      rw [← found]
      exact List.getElem?_set_ne different
    · rw [List.mem_singleton.mp last]
      refine ⟨client, block, ?_, data, length⟩
      exact List.getElem?_set_self (by rw [blocks.whole]; exact below)

/-- With a block for every client, the output stays inside when each of them has
room for the current number of samples. -/
theorem outputInside_iff {order : ByteOrder} {totalsMemory : Allocator} {count : Nat}
    {done : List Arrival} {controller : Controller} (blocks : Blocks count done controller)
    (all : (done.map Arrival.clientid).Perm (List.range count)) :
    OutputInside order totalsMemory controller ↔
      ((totalsMemory.malloc
          (controller.samples * 8 * UInt64.ofNat count).toNat).isSome = true →
        ∀ arrival ∈ done, 64 + 8 * controller.samples.toNat ≤ copiedLength arrival.data) := by
  unfold OutputInside
  rw [blocks.whole, addClients_isSome]
  refine forall_congr' fun _ => ?_
  constructor
  · intro inside arrival member
    rcases blocks.stored arrival member with ⟨client, block, found, data, length⟩
    rcases inside _ (List.mem_of_getElem? found) with ⟨client', block', same, data', room⟩
    rw [← Option.some.inj same, data] at data'
    rwa [← length, Option.some.inj data']
  · intro rooms entry member
    rcases List.mem_iff_getElem?.mp member with ⟨clientid, found⟩
    have below : clientid < count := blocks.whole ▸ (List.getElem?_eq_some_iff.mp found).1
    rcases List.mem_map.mp (all.mem_iff.mpr (List.mem_range.mpr below)) with
      ⟨arrival, listed, rfl⟩
    rcases blocks.stored arrival listed with ⟨client, block, found', data, length⟩
    refine ⟨client, block, Option.some.inj (found.symm.trans found'), data, ?_⟩
    rw [length]
    exact rooms arrival listed

/-! ## The run -/

section Run

variable {order : ByteOrder} {totalsMemory : Allocator} {count : Nat} {controller : Controller}
  {arrival : Arrival}

theorem receive_uncovered (uncovered : ¬ Covered arrival.data) :
    receive order controller arrival = .outside := by
  unfold receive
  rw [unmarshallBytes_uncovered order arrival.memory controller.samples uncovered]
  split
  · rfl
  · rfl

theorem receive_refused (below : arrival.clientid < controller.clientData.length)
    (covered : Covered arrival.data) (refused : ¬ arrival.Granted) :
    receive order controller arrival = .refused := by
  rcases unmarshallBytes_covered order arrival.memory controller.samples covered with
    ⟨converted, length, result⟩
  rw [Option.not_isSome_iff_eq_none.mp refused] at result
  unfold receive
  rw [if_pos below, result]
  rfl

/-- A fitting message fills the block that it was given. -/
theorem receive_fitting (below : arrival.clientid < controller.clientData.length)
    (covered : Covered arrival.data) (granted : arrival.Granted)
    (fitting : Fitting arrival.data) :
    ∃ client block, receive order controller arrival =
        .stored
          { samples := headerCount arrival.data
            clientData := controller.clientData.set arrival.clientid (some client) } ∧
      client.data = some block ∧ block.length = copiedLength arrival.data := by
  rcases unmarshallBytes_covered order arrival.memory controller.samples covered with
    ⟨converted, length, result⟩
  rcases Option.isSome_iff_exists.mp granted with ⟨empty, answered⟩
  have size : empty.length = copiedLength arrival.data := by
    rw [arrival.memory.size answered, requestedSize, fitting.agrees, copiedLength]
  have room : (memcpy empty 0 converted (copiedLength arrival.data)).isSome = true := by
    rw [memcpy_isSome, length, size, Nat.zero_add]
    exact ⟨fitting.copied, Nat.le_refl _⟩
  rcases Option.isSome_iff_exists.mp room with ⟨block, copied⟩
  rw [answered] at result
  dsimp only at result
  rw [copied, Option.map_some] at result
  refine ⟨{ data := some block, size := asInt (announcedLength arrival.data),
            valid := arrival.valid }, block, ?_, rfl, (memcpy_length copied).trans size⟩
  unfold receive
  rw [if_pos below, result]
  dsimp only
  rw [if_neg (by decide)]

/-- For a message that is too long the copy leaves it, and one with another length
than announced is stored if its copy stays in the block. -/
theorem receive_unfitting (below : arrival.clientid < controller.clientData.length)
    (covered : Covered arrival.data) (granted : arrival.Granted)
    (unfitting : ¬ Fitting arrival.data) :
    receive order controller arrival = .outside ∨
      ∃ next, receive order controller arrival = .stored next ∧
        announcedLength arrival.data ≠ arrival.data.length := by
  rcases unmarshallBytes_covered order arrival.memory controller.samples covered with
    ⟨converted, length, result⟩
  rcases Option.isSome_iff_exists.mp granted with ⟨empty, answered⟩
  rw [answered] at result
  dsimp only at result
  unfold receive
  rw [if_pos below, result]
  cases copied : memcpy empty 0 converted (copiedLength arrival.data) with
  | none => exact Or.inl rfl
  | some block =>
      refine Or.inr ⟨_, rfl, ?_⟩
      intro agrees
      have room := memcpy_isSome.mp (show (memcpy empty 0 converted _).isSome = true by
        rw [copied]; rfl)
      rw [length] at room
      exact unfitting ⟨agrees, room.1⟩

/-- The next message comes from a client of which none has been stored. -/
theorem fresh_of_once {done rest : List Arrival}
    (once : ((done ++ arrival :: rest).map Arrival.clientid).Perm (List.range count)) :
    arrival.clientid < count ∧ arrival.clientid ∉ done.map Arrival.clientid := by
  have listed : arrival.clientid ∈ (done ++ arrival :: rest).map Arrival.clientid :=
    List.mem_map_of_mem (List.mem_append_right _ List.mem_cons_self)
  have distinct := once.nodup_iff.mpr List.nodup_range
  rw [List.map_append] at distinct
  refine ⟨List.mem_range.mp (once.mem_iff.mp listed), fun earlier => ?_⟩
  exact List.disjoint_of_nodup_append distinct earlier List.mem_cons_self

/-- The messages that are still to come, after those that have been stored. -/
theorem lengthChecked_rest {done rest : List Arrival} (blocks : Blocks count done controller)
    (once : ((done ++ rest).map Arrival.clientid).Perm (List.range count)) :
    LengthChecked order totalsMemory controller rest ↔
      Arrival.EachFitting rest ∧
        ((∀ arrival ∈ rest, arrival.Granted) →
          (totalsMemory.malloc (Arrival.lastCount controller.samples rest * 8 *
            UInt64.ofNat count).toNat).isSome = true →
          ∀ arrival ∈ done ++ rest,
            64 + 8 * (Arrival.lastCount controller.samples rest).toNat ≤
              copiedLength arrival.data) := by
  induction rest generalizing done controller with
  | nil =>
      rw [List.append_nil] at once ⊢
      rw [LengthChecked, outputInside_iff blocks once]
      simp [Arrival.EachFitting, Arrival.lastCount]
  | cons arrival rest inductionHypothesis =>
      rcases fresh_of_once once with ⟨below, fresh⟩
      have inside : arrival.clientid < controller.clientData.length := by
        rw [blocks.whole]
        exact below
      rw [LengthChecked, Arrival.EachFitting]
      by_cases covered : Covered arrival.data
      · by_cases granted : arrival.Granted
        · by_cases fitting : Fitting arrival.data
          · rcases receive_fitting inside covered granted fitting with
              ⟨client, block, stored, data, length⟩
            have next := blocks.store below fresh (headerCount arrival.data) data length
            rw [List.append_cons] at once ⊢
            rw [stored]
            dsimp only
            rw [inductionHypothesis next once]
            simp [covered, granted, fitting, fitting.agrees, Arrival.lastCount]
          · refine iff_of_false ?_ fun both => fitting (both.1.2 granted).1
            rcases receive_unfitting inside covered granted fitting with
              received | ⟨next, received, differs⟩
            · rw [received]
              exact id
            · rw [received]
              exact fun both => differs both.1
        · rw [receive_refused inside covered granted]
          refine iff_of_true trivial ⟨⟨covered, fun other => absurd other granted⟩, ?_⟩
          exact fun all => absurd (all arrival List.mem_cons_self) granted
      · rw [receive_uncovered covered]
        exact iff_of_false id fun both => covered both.1.1

end Run

/-- Every message is checked against its length and everything stays inside its
bounds exactly when the clients send what they announce. -/
theorem lengthChecked_iff (order : ByteOrder) (totalsMemory : Allocator) (samples : UInt64)
    (results : Results) :
    LengthChecked order totalsMemory (setupController samples results.count) results.arrivals ↔
      Honest totalsMemory samples results := by
  have run : LengthChecked order totalsMemory (setupController samples results.count)
      results.arrivals ↔ _ :=
    lengthChecked_rest (blocks_setup samples results.count) results.once
  rw [run, List.nil_append]
  exact ⟨fun both => ⟨both.1, both.2⟩, fun honest => ⟨honest.messages, honest.output⟩⟩

/-- A message whose header announces no samples but is followed by one. -/
def surplus : Arrival where
  clientid := 0
  data := List.replicate 72 0
  valid := true
  memory := Allocator.zeros fun _ => true

def singleResult (arrival : Arrival) (first : arrival.clientid = 0) : Results where
  count := 1
  arrivals := [arrival]
  once := by
    rw [List.map_cons, first]
    exact List.Perm.refl _

/-- The message of 72 bytes is copied to a block of 64. -/
theorem surplus_leavesBlock :
    ¬ LengthChecked .little (Allocator.zeros fun _ => true) (setupController 200000 1)
      (singleResult surplus rfl).arrivals := by
  have outside : receive .little (setupController 200000 1) surplus = .outside := by
    decide
  intro checked
  simp only [singleResult, LengthChecked, outside] at checked

end Latency
end Ipbench
