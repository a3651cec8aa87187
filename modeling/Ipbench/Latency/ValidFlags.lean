import Ipbench.Latency.LengthCheck

namespace Ipbench
namespace Latency

open Foundation

/-!
# Data flagged as invalid

A client can flag its data, and the flag reaches the controller with them.  The
output of the dummy test looks at it; the loop of `latency_output` does not, so
the figures show the flagged data like all others.
-/

/-! ## The figures -/

/-- The throughputs and round trip times of a line. -/
structure Figures where
  totalRequestedThroughput : Int
  totalAchievedThroughput : Int
  totalSentThroughput : Int
  rttMin : Int
  rttAv : Int
  rttMax : Int
  rttStd : UInt64
  rttMed : Int
deriving DecidableEq, Repr

def OutputLine.figures (line : OutputLine) : Figures where
  totalRequestedThroughput := line.totalRequestedThroughput
  totalAchievedThroughput := line.totalAchievedThroughput
  totalSentThroughput := line.totalSentThroughput
  rttMin := line.rttMin
  rttAv := line.rttAv
  rttMax := line.rttMax
  rttStd := line.rttStd
  rttMed := line.rttMed

/-- What becomes of a line: none is printed, or one with figures, or anything may be. -/
inductive Printed where
  | nothing
  | figures (figures : Figures)
  | unknown
deriving DecidableEq, Repr

/-- The entry of a client as the loop meets it.  The header and the samples are
read from wherever the pointer leads: behind a block that is too short lie the
bytes `beyond`. -/
def seen (samples : UInt64) (beyond : Nat → Nat → UInt8) (next : ClientData × Nat) :
    Option ClientData :=
  some
    { next.1 with
      data := next.1.data.map fun block =>
        block ++ (List.range (64 + 8 * samples.toNat - block.length)).map (beyond next.2) }

/-- The controller with the results of all clients. -/
def controllerOf (samples : UInt64) (beyond : Nat → Nat → UInt8) (results : List ClientData) :
    Controller where
  samples := samples
  clientData := results.zipIdx.map (seen samples beyond)

/-- What `latency_output` prints.  A null pointer and a division by zero end the
process before the line.  When the loop has ended and there are too many samples
for the counters of the statistics, the line is unknown. -/
def printedFigures (order : ByteOrder) (malloc : Nat → Bool) (dump : Option (Nat → Bool))
    (beyond : Nat → Nat → UInt8) (samples : UInt64) (results : List ClientData) : Printed :=
  match latencyOutput order malloc dump (controllerOf samples beyond results) with
  | some (.line line) => .figures line.figures
  | some .outOfMemory => .nothing
  | none =>
      if 0x80000000 ≤ results.length * samples.toNat ∧
          ((controllerOf samples beyond results).clientData.zipIdx.foldlM
            (addDumped order samples dump) noTotals).isSome = true then .unknown
      else .nothing

/-! ## Two runs -/

/-- Results that differ at most in data that are flagged as invalid. -/
inductive Agree : ClientData → ClientData → Prop
  | same (client : ClientData) : Agree client client
  | flagged (client : ClientData) (data : Option (List UInt8)) (invalid : client.valid = false) :
      Agree client { client with data := data }

/-- The figures do not depend on data that are flagged as invalid.  An unknown
line is like no line of other results. -/
def HidesInvalid (order : ByteOrder) (malloc : Nat → Bool) (dump : Option (Nat → Bool))
    (beyond : Nat → Nat → UInt8) (samples : UInt64) (results : List ClientData) : Prop :=
  ∀ others, List.Forall₂ Agree results others →
    printedFigures order malloc dump beyond samples others =
        printedFigures order malloc dump beyond samples results ∧
      (printedFigures order malloc dump beyond samples results = .unknown → others = results)

/-- Nothing stops the call before its line, with suitable data in the flagged
entries: there are samples and the memory for them, every file opens, and the
other clients have data. -/
structure Exposes (malloc : Nat → Bool) (dump : Option (Nat → Bool)) (samples : UInt64)
    (results : List ClientData) : Prop where
  positive : 0 < results.length * samples.toNat
  granted : malloc (8 * (results.length * samples.toNat) % 0x10000000000000000) = true
  opens : Opens dump results.length
  sent : ∀ client ∈ results, client.valid = true → client.data ≠ none

/-! ## What is printed -/

section Print

variable {order : ByteOrder} {malloc : Nat → Bool} {dump : Option (Nat → Bool)}
  {beyond : Nat → Nat → UInt8} {samples : UInt64} {results : List ClientData}

theorem addClients_length {samples : UInt64} {entries : List (Option ClientData)}
    {totals finish : Totals}
    (added : entries.foldlM (addClient order samples) totals = some finish) :
    finish.rttTotals.length = totals.rttTotals.length + entries.length * samples.toNat := by
  induction entries generalizing totals with
  | nil =>
      cases added
      simp
  | cons entry rest inductionHypothesis =>
      rw [List.foldlM_cons] at added
      rcases Option.bind_eq_some_iff.mp added with ⟨next, here, later⟩
      rw [inductionHypothesis later, List.length_cons, Nat.succ_mul]
      unfold addClient at here
      rcases Option.bind_eq_some_iff.mp here with ⟨client, _, here⟩
      rcases Option.bind_eq_some_iff.mp here with ⟨block, _, here⟩
      rcases Option.bind_eq_some_iff.mp here with ⟨rtts, read, here⟩
      simp only [Option.bind_eq_bind, Option.bind_eq_some_iff, Option.some.injEq] at here
      rcases here with ⟨_, _, _, _, _, _, _, _, rfl⟩
      rw [List.length_append, readWords_length read]
      omega

theorem controllerOf_length :
    (controllerOf samples beyond results).clientData.length = results.length := by
  rw [controllerOf, List.length_map, List.length_zipIdx]

/-- A block with room for the samples is read as it is. -/
theorem seen_whole {client : ClientData} {block : List UInt8} (i : Nat)
    (whole : block.length = 64 + 8 * samples.toNat) :
    seen samples beyond ({ client with data := some block }, i) =
      some { client with data := some block } := by
  rw [seen, Option.map_some, whole, Nat.sub_self, List.range_zero, List.map_nil, List.append_nil]

variable (order beyond samples) in
/-- The loop adds up whatever it finds, unless a pointer is null. -/
theorem addSeen_isSome (totals : Totals) :
    ((controllerOf samples beyond results).clientData.foldlM (addClient order samples)
      totals).isSome = true ↔ ∀ client ∈ results, client.data ≠ none := by
  rw [addClients_isSome]
  constructor
  · intro blocks client member missing
    rcases List.mem_iff_getElem?.mp member with ⟨i, found⟩
    have listed : seen samples beyond (client, i) ∈
        (controllerOf samples beyond results).clientData :=
      List.mem_map_of_mem (List.mk_mem_zipIdx_iff_getElem?.mpr found)
    rcases blocks _ listed with ⟨other, block, same, stored, _⟩
    rw [seen, missing, Option.map_none] at same
    rw [← Option.some.inj same] at stored
    cases stored
  · intro present entry listed
    rcases List.mem_map.mp listed with ⟨⟨client, i⟩, member, rfl⟩
    have found := List.mk_mem_zipIdx_iff_getElem?.mp member
    rcases Option.ne_none_iff_exists'.mp (present client (List.mem_of_getElem? found)) with
      ⟨block, stored⟩
    refine ⟨_, _, rfl, by rw [stored]; rfl, ?_⟩
    rw [List.length_append, List.length_map, List.length_range]
    omega

variable (order beyond samples) in
theorem dumpSeen_isSome :
    ((controllerOf samples beyond results).clientData.zipIdx.foldlM (addDumped order samples dump)
      noTotals).isSome = true ↔
        Opens dump results.length ∧ ∀ client ∈ results, client.data ≠ none := by
  rw [← addSeen_isSome order beyond samples noTotals]
  simp only [Option.isSome_iff_exists, addDumped_iff, controllerOf_length]
  rw [exists_and_right, and_comm]

/-- A line, known or not, shows that nothing has stopped the call. -/
theorem exposes_of_printed
    (shown : printedFigures order malloc dump beyond samples results ≠ .nothing) :
    Exposes malloc dump samples results := by
  unfold printedFigures at shown
  split at shown
  · next line output =>
      rcases latencyOutput_line output with
        ⟨opens, totals, printed, folded, granted, inside, computed, _⟩
      have empty : noTotals.rttTotals.length = 0 := rfl
      have length := addClients_length folded
      have nonempty := List.length_pos_iff.mpr (rttResults_some computed).1
      rw [controllerOf_length] at opens granted length
      have present := (addSeen_isSome order beyond samples noTotals).mp
        (Option.isSome_iff_exists.mpr ⟨totals, folded⟩)
      exact
        { positive := by
            rw [length, empty, Nat.zero_add] at nonempty
            exact nonempty
          granted := granted
          opens := opens
          sent := fun client member _ => present client member }
  · exact absurd rfl shown
  · next output =>
      split at shown
      · next unknown =>
          rcases unknown with ⟨many, looped⟩
          rcases (dumpSeen_isSome order beyond samples).mp looped with ⟨opens, present⟩
          refine
            { positive := Nat.lt_of_lt_of_le (by decide) many
              granted := ?_
              opens := opens
              sent := fun client member _ => present client member }
          by_contra refused
          unfold latencyOutput at output
          dsimp only at output
          rw [totals_size, controllerOf_length] at output
          rw [show (controllerOf samples beyond results).samples = samples from rfl,
            if_neg refused] at output
          cases output
      · exact absurd rfl shown

/-- A total that is complete is printed, when it can be counted. -/
theorem printedFigures_eq {totals : Totals} (exposes : Exposes malloc dump samples results)
    (counted : results.length * samples.toNat < 0x80000000)
    (added : (controllerOf samples beyond results).clientData.foldlM (addClient order samples)
      noTotals = some totals) :
    ∃ computed, rttResults totals.rttTotals totals.rttTotals.length = some computed ∧
      printedFigures order malloc dump beyond samples results =
        .figures (outputLine totals computed).figures := by
  have length : totals.rttTotals.length = results.length * samples.toNat := by
    rw [addClients_length added, controllerOf_length]
    exact Nat.zero_add _
  have nonempty : totals.rttTotals ≠ [] :=
    List.length_pos_iff.mp (length ▸ exposes.positive)
  rcases rttResults_whole nonempty (length ▸ counted) with ⟨computed, figures, _⟩
  refine ⟨computed, figures, ?_⟩
  have looped : (controllerOf samples beyond results).clientData.zipIdx.foldlM
      (addDumped order samples dump) noTotals = some totals :=
    addDumped_iff.mpr ⟨added, controllerOf_length.symm ▸ exposes.opens⟩
  have entries : results.length * samples.toNat % 0x10000000000000000 =
      results.length * samples.toNat := by
    omega
  have granted := exposes.granted
  have printed : latencyOutput order malloc dump (controllerOf samples beyond results) =
      some (.line (outputLine totals computed)) := by
    unfold latencyOutput
    dsimp only
    rw [totals_size, totals_count, controllerOf_length,
      show (controllerOf samples beyond results).samples = samples from rfl, if_pos granted,
      looped, Option.bind_eq_bind, Option.bind_some, if_neg (by omega), entries, ← length, figures]
    rfl
  rw [printedFigures, printed]

/-- Samples that the counters cannot count give a line that is not known. -/
theorem printedFigures_unknown (exposes : Exposes malloc dump samples results)
    (many : 0x80000000 ≤ results.length * samples.toNat)
    (filled : ∀ client ∈ results, client.data ≠ none) :
    printedFigures order malloc dump beyond samples results = .unknown := by
  have looped := (dumpSeen_isSome order beyond samples).mpr ⟨exposes.opens, filled⟩
  have same : (controllerOf samples beyond results).samples = samples := rfl
  unfold printedFigures
  split
  · next line output =>
      rcases latencyOutput_line output with ⟨_, totals, _, folded, _, inside, computed, _⟩
      have copied := addClients_length folded
      have empty : noTotals.rttTotals.length = 0 := rfl
      have small := (rttResults_some computed).2
      rw [controllerOf_length, empty, Nat.zero_add, same] at copied
      rw [controllerOf_length, same] at inside small
      omega
  · next output =>
      unfold latencyOutput at output
      dsimp only at output
      rw [totals_size, controllerOf_length, same, if_pos exposes.granted] at output
      rcases Option.bind_eq_some_iff.mp output with ⟨totals, _, rest⟩
      split at rest
      · cases rest
      · rcases Option.bind_eq_some_iff.mp rest with ⟨_, _, printed⟩
        cases printed
  · exact if_pos ⟨many, looped⟩

/-- Without flagged entries there is nothing to differ in. -/
theorem eq_of_agree {others : List ClientData} (agree : List.Forall₂ Agree results others)
    (valid : ∀ client ∈ results, client.valid = true) : others = results := by
  induction agree with
  | nil => rfl
  | cons here _ inductionHypothesis =>
      rw [inductionHypothesis fun client member => valid client (List.mem_cons_of_mem _ member)]
      cases here with
      | same => rfl
      | flagged data invalid =>
          exact absurd (invalid.symm.trans (valid _ List.mem_cons_self)) (by decide)

theorem sent_of_agree {others : List ClientData} (agree : List.Forall₂ Agree results others)
    (sent : ∀ client ∈ others, client.valid = true → client.data ≠ none) :
    ∀ client ∈ results, client.valid = true → client.data ≠ none := by
  induction agree with
  | nil => exact sent
  | cons here _ inductionHypothesis =>
      intro client member valid
      rcases List.mem_cons.mp member with rfl | among
      · cases here with
        | same => exact sent _ List.mem_cons_self valid
        | flagged data invalid => exact absurd (invalid.symm.trans valid) (by decide)
      · exact inductionHypothesis (fun other listed => sent other (List.mem_cons_of_mem _ listed))
          client among valid

/-- Whether something stops the call does not depend on the flagged data. -/
theorem Exposes.of_agree {others : List ClientData} (agree : List.Forall₂ Agree results others)
    (exposes : Exposes malloc dump samples others) : Exposes malloc dump samples results := by
  have length : results.length = others.length := agree.length_eq
  exact
    { positive := by rw [length]; exact exposes.positive
      granted := by rw [length]; exact exposes.granted
      opens := by rw [length]; exact exposes.opens
      sent := sent_of_agree agree exposes.sent }

end Print

/-! ## Other data in a flagged entry -/

/-- A message of zeros with a requested throughput. -/
def flaggedBlock (order : ByteOrder) (requested : UInt64) (count : Nat) : List UInt8 :=
  storeWords order ([0, 0, 0, 0, 0, requested, 0, 0] ++ List.replicate count 0)

/-- Put such a message into an entry that is flagged. -/
def fillFlagged (order : ByteOrder) (count : Nat) (client : ClientData) : ClientData :=
  if client.valid then client else { client with data := some (flaggedBlock order 0 count) }

theorem fillFlagged_agree (order : ByteOrder) (count : Nat) (client : ClientData) :
    Agree client (fillFlagged order count client) := by
  by_cases valid : client.valid = true
  · rw [fillFlagged, if_pos valid]
    exact .same client
  · rw [fillFlagged, if_neg valid]
    exact .flagged client _ (Bool.not_eq_true _ ▸ valid)

/-- A list in which all flagged entries are filled, one of them with the requested
throughput. -/
def withRequested (order : ByteOrder) (count : Nat) (before : List ClientData)
    (client : ClientData) (after : List ClientData) (requested : UInt64) : List ClientData :=
  before.map (fillFlagged order count) ++
    { client with data := some (flaggedBlock order requested count) } ::
      after.map (fillFlagged order count)

theorem withRequested_agree (order : ByteOrder) (count : Nat) (before after : List ClientData)
    {client : ClientData} (invalid : client.valid = false) (requested : UInt64) :
    List.Forall₂ Agree (before ++ client :: after)
      (withRequested order count before client after requested) := by
  have filled : ∀ results : List ClientData,
      List.Forall₂ Agree results (results.map (fillFlagged order count)) := by
    intro results
    rw [List.forall₂_map_right_iff, List.forall₂_same]
    exact fun client _ => fillFlagged_agree order count client
  exact List.rel_append (filled before) (.cons (.flagged client _ invalid) (filled after))

theorem flaggedBlock_length (order : ByteOrder) (requested : UInt64) (count : Nat) :
    (flaggedBlock order requested count).length = 64 + 8 * count := by
  rw [flaggedBlock, storeWords_length, List.length_append, List.length_replicate, Nat.mul_add]
  rfl

theorem withRequested_data (order : ByteOrder) (count : Nat) {before after : List ClientData}
    {client : ClientData}
    (sent : ∀ other ∈ before ++ client :: after, other.valid = true → other.data ≠ none)
    (requested : UInt64) :
    ∀ other ∈ withRequested order count before client after requested, other.data ≠ none := by
  have filled : ∀ other ∈ before ++ client :: after,
      (fillFlagged order count other).data ≠ none := by
    intro other member
    by_cases valid : other.valid = true
    · rw [fillFlagged, if_pos valid]
      exact sent other member valid
    · rw [fillFlagged, if_neg valid]
      exact Option.some_ne_none _
  intro other member
  rcases List.mem_append.mp member with early | rest
  · rcases List.mem_map.mp early with ⟨first, listed, rfl⟩
    exact filled first (List.mem_append_left _ listed)
  · rcases List.mem_cons.mp rest with rfl | late
    · exact Option.some_ne_none _
    · rcases List.mem_map.mp late with ⟨last, listed, rfl⟩
      exact filled last (List.mem_append_right _ (List.mem_cons_of_mem _ listed))

theorem withRequested_ne {order : ByteOrder} {count : Nat} {before after : List ClientData}
    {client : ClientData} {first second : UInt64} (different : first ≠ second) :
    withRequested order count before client after first ≠
      withRequested order count before client after second := by
  intro same
  unfold withRequested at same
  have entry := List.head_eq_of_cons_eq (List.append_cancel_left same)
  have block : flaggedBlock order first count = flaggedBlock order second count :=
    Option.some.inj (congrArg ClientData.data entry)
  have word : ∀ requested, readWord order (flaggedBlock order requested count) 5 =
      some requested := fun requested => readWord_getElem order _ rfl
  have words := word first
  rw [block, word] at words
  exact different (Option.some.inj words).symm

def Totals.raise (more : UInt64) (totals : Totals) : Totals :=
  { totals with totalRequestedThroughput := totals.totalRequestedThroughput + more }

section Fill

variable {order : ByteOrder} {samples : UInt64}

/-- A larger total stays larger by the same amount. -/
theorem addClient_raise (more : UInt64) (totals : Totals) (entry : Option ClientData) :
    addClient order samples (totals.raise more) entry =
      (addClient order samples totals entry).map (Totals.raise more) := by
  simp only [addClient, Totals.raise, Option.bind_eq_bind, Option.map_bind, Function.comp_def,
    Option.map_some, UInt64.add_assoc, UInt64.add_comm more]

theorem addClients_raise (more : UInt64) (totals : Totals) (entries : List (Option ClientData)) :
    entries.foldlM (addClient order samples) (totals.raise more) =
      (entries.foldlM (addClient order samples) totals).map (Totals.raise more) := by
  induction entries generalizing totals with
  | nil => rfl
  | cons entry rest inductionHypothesis =>
      rw [List.foldlM_cons, List.foldlM_cons, addClient_raise]
      cases addClient order samples totals entry with
      | none => rfl
      | some next => exact inductionHypothesis next

/-- What a flagged message with another requested throughput adds. -/
theorem addClient_flagged (requested : UInt64) (totals : Totals) (client : ClientData) :
    addClient order samples totals
        (some { client with data := some (flaggedBlock order requested samples.toNat) }) =
      (addClient order samples totals
        (some { client with data := some (flaggedBlock order 0 samples.toNat) })).map
          (Totals.raise requested) := by
  have rtts : ∀ word, readWords order (flaggedBlock order word samples.toNat) 8 samples.toNat =
      some (List.replicate samples.toNat 0) := by
    intro word
    have inside := readWords_inside order [0, 0, 0, 0, 0, word, 0, 0]
      (List.replicate samples.toNat 0) []
    rw [List.append_nil, List.length_replicate] at inside
    exact inside
  have first : ∀ word, readWord order (flaggedBlock order word samples.toNat) 5 = some word :=
    fun word => readWord_getElem order _ rfl
  have zero : ∀ {index} (word : UInt64), index ∈ [2, 6, 7] →
      readWord order (flaggedBlock order word samples.toNat) index = some 0 := by
    intro index word among
    simp only [List.mem_cons, List.not_mem_nil, or_false] at among
    rcases among with rfl | rfl | rfl
    · exact readWord_getElem order _ rfl
    · exact readWord_getElem order _ rfl
    · exact readWord_getElem order _ rfl
  simp [addClient, rtts, first, zero, Totals.raise]

/-- The requested throughput of the flagged entry is added to the total. -/
theorem withRequested_raise (order : ByteOrder) (samples : UInt64) (beyond : Nat → Nat → UInt8)
    (before after : List ClientData) (client : ClientData) (requested : UInt64)
    (totals : Totals) :
    (controllerOf samples beyond
        (withRequested order samples.toNat before client after requested)).clientData.foldlM
          (addClient order samples) totals =
      ((controllerOf samples beyond
        (withRequested order samples.toNat before client after 0)).clientData.foldlM
          (addClient order samples) totals).map (Totals.raise requested) := by
  have split : ∀ word, (controllerOf samples beyond
      (withRequested order samples.toNat before client after word)).clientData =
        (((before.map (fillFlagged order samples.toNat)).zipIdx).map (seen samples beyond)) ++
          some { client with data := some (flaggedBlock order word samples.toNat) } ::
            (((after.map (fillFlagged order samples.toNat)).zipIdx (before.length + 1)).map
              (seen samples beyond)) := by
    intro word
    rw [controllerOf, withRequested, List.zipIdx_append, List.map_append, List.zipIdx_cons,
      List.map_cons, seen_whole _ (flaggedBlock_length order word samples.toNat), List.length_map,
      Nat.zero_add]
  rw [split, split, List.foldlM_append, List.foldlM_append]
  cases ((before.map (fillFlagged order samples.toNat)).zipIdx.map (seen samples beyond)).foldlM
      (addClient order samples) totals with
  | none => rfl
  | some middle =>
      simp only [Option.bind_eq_bind, Option.bind_some, List.foldlM_cons]
      rw [addClient_flagged]
      cases addClient order samples middle
          (some { client with data := some (flaggedBlock order 0 samples.toNat) }) with
      | none => rfl
      | some next => exact addClients_raise requested next _

end Fill

/-! ## When the figures hide flagged data -/

theorem eq_of_printed_eq {first second : UInt64} (same : printed first = printed second) :
    first = second := by
  have left := first.toNat_lt
  have right := second.toNat_lt
  apply UInt64.toNat_inj.mp
  unfold printed at same
  rw [Int.bmod_def, Int.bmod_def] at same
  split at same
  · split at same
    · omega
    · omega
  · split at same
    · omega
    · omega

/-- A flagged entry shows in the figures, unless something stops the call. -/
theorem shows_flagged {order : ByteOrder} {malloc : Nat → Bool} {dump : Option (Nat → Bool)}
    {beyond : Nat → Nat → UInt8} {samples : UInt64} {results : List ClientData}
    (exposes : Exposes malloc dump samples results) {client : ClientData}
    (member : client ∈ results) (invalid : client.valid = false) :
    ¬ HidesInvalid order malloc dump beyond samples results := by
  intro hides
  rcases List.append_of_mem member with ⟨before, after, rfl⟩
  have agree := withRequested_agree order samples.toNat before after invalid
  have present := withRequested_data order samples.toNat exposes.sent
  have length : ∀ requested,
      (withRequested order samples.toNat before client after requested).length =
        (before ++ client :: after).length := fun requested => (agree requested).length_eq.symm
  have all : ∀ requested, Exposes malloc dump samples
      (withRequested order samples.toNat before client after requested) := by
    intro requested
    exact
      { positive := by rw [length]; exact exposes.positive
        granted := by rw [length]; exact exposes.granted
        opens := by rw [length]; exact exposes.opens
        sent := fun other listed _ => present requested other listed }
  by_cases counted : (before ++ client :: after).length * samples.toNat < 0x80000000
  · have ended := (addSeen_isSome order beyond samples noTotals).mpr (present 0)
    rcases Option.isSome_iff_exists.mp ended with ⟨totals, added⟩
    have raised := withRequested_raise order samples beyond before after client 1 noTotals
    rw [added, Option.map_some] at raised
    rcases printedFigures_eq (all 0) (length 0 ▸ counted) added with ⟨results, _, shown⟩
    rcases printedFigures_eq (all 1) (length 1 ▸ counted) raised with ⟨others, _, shownRaised⟩
    rw [(hides _ (agree 0)).1] at shown
    rw [(hides _ (agree 1)).1, shown] at shownRaised
    have requested : (outputLine totals results).figures.totalRequestedThroughput =
        (outputLine (totals.raise 1) others).figures.totalRequestedThroughput := by
      rw [Printed.figures.inj shownRaised]
    simp only [OutputLine.figures, outputLine, Totals.raise] at requested
    have same := congrArg UInt64.toNat (eq_of_printed_eq requested)
    have bound := totals.totalRequestedThroughput.toNat_lt
    rw [UInt64.toNat_add, UInt64.toNat_one] at same
    omega
  · -- The counters overflow with either data, and the two lists are not the same.
    have unknown : printedFigures order malloc dump beyond samples
        (withRequested order samples.toNat before client after 0) = .unknown :=
      printedFigures_unknown (all 0) ((length 0).symm ▸ Nat.le_of_not_lt counted) (present 0)
    have other := (hides _ (agree 0)).1.symm.trans unknown
    exact withRequested_ne (by decide)
      (((hides _ (agree 0)).2 other).trans ((hides _ (agree 1)).2 other).symm)

/-- Flagged data are hidden exactly when there are none, or something stops the
call before its line whatever they are. -/
theorem hidesInvalid_iff (order : ByteOrder) (malloc : Nat → Bool) (dump : Option (Nat → Bool))
    (beyond : Nat → Nat → UInt8) (samples : UInt64) (results : List ClientData) :
    HidesInvalid order malloc dump beyond samples results ↔
      (∀ client ∈ results, client.valid = true) ∨ ¬ Exposes malloc dump samples results := by
  constructor
  · intro hides
    by_contra neither
    rw [not_or, not_not] at neither
    apply neither.1
    intro client member
    by_contra invalid
    exact shows_flagged neither.2 member (Bool.not_eq_true _ ▸ invalid) hides
  · rintro (valid | stopped) others agree
    · have same := eq_of_agree agree valid
      exact ⟨by rw [same], fun _ => same⟩
    · have nothing : ∀ list, ¬ Exposes malloc dump samples list →
          printedFigures order malloc dump beyond samples list = .nothing := by
        intro list stopped
        by_contra shown
        exact stopped (exposes_of_printed shown)
      rw [nothing results stopped, nothing others fun exposes => stopped (exposes.of_agree agree)]
      exact ⟨rfl, fun unknown => by cases unknown⟩

def dataWith (requested : UInt64) (valid : Bool) : ClientData where
  data := some (storeWords .little [1, 1, 64, 1, 1, requested, 0, 0, 5])
  size := 72
  valid := valid

/-- The throughput of a client that has flagged its data is added to that of a
client that has not. -/
theorem flagged_throughput_shown :
    ¬ HidesInvalid .little (fun _ => true) none (fun _ _ => 0) 1
      [dataWith 100 true, dataWith 900 false] := by
  have flagged : dataWith 900 false ∈ [dataWith 100 true, dataWith 900 false] :=
    List.mem_cons_of_mem _ List.mem_cons_self
  refine shows_flagged ?_ flagged rfl
  exact
    { positive := by decide
      granted := rfl
      opens := fun _ _ => rfl
      sent := by
        intro client member _
        simp only [List.mem_cons, List.not_mem_nil, or_false] at member
        rcases member with rfl | rfl
        · exact Option.some_ne_none _
        · exact Option.some_ne_none _ }

end Latency
end Ipbench
