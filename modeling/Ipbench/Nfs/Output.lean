import Ipbench.Latency.Output
import Ipbench.Nfs.Averages
import Ipbench.Nfs.Marshalling

namespace Ipbench
namespace Nfs

open Foundation Latency

/-!
# The output of the NFS latency test

`nfs_latency_output` collects the samples of all clients in one array and their
running times in another, sorts both, and discards the zeros at their beginning.
Then it takes averages, which assert that at least two numbers are left.  With one
client there is one running time, so nothing is ever printed for a single client.
-/

/-! ## The code -/

def compareUint64 (x y : UInt64) : Int :=
  if x < y then -1 else if x > y then 1 else 0

/-- `qsort` of a whole array. -/
def qsortUint64 (array : List UInt64) : List UInt64 :=
  array.mergeSort fun x y => compareUint64 x y ≤ 0

/-- Discard the zeros at the beginning, with a counter that is a C integer. -/
def discardZeros (array : List UInt64) : Option (List UInt64) :=
  let i := (array.takeWhile (· == 0)).length
  if 0x80000000 ≤ i then none else some (array.drop i)

def asInt64 (value : Int) : Int :=
  Int.bmod value 0x10000000000000000

/-- `absolute_deviation_uint64`.  The negation of the least number is this number. -/
def absoluteDeviationUint64 {Double : Type} (ops : DoubleOps Double) (samples : List UInt64)
    (n : Nat) (median : UInt64) : Option Double :=
  if samples.length < n then none
  else
    let deviation := (samples.take n).foldl
      (fun deviation sample =>
        let d := asInt64 (sample - median).toNat
        ops.add deviation (ops.ofInt64 (if 0 < d then d else asInt64 (-d))))
      ops.zero
    some (ops.div deviation (ops.ofUInt64 (UInt64.ofNat n)))

/-- The variables of the loop over the clients. -/
structure NfsTotals where
  totRequests : UInt64
  totReplies : UInt64
  runtime : List UInt64
  aggregate : List UInt64
deriving DecidableEq, Repr

def noNfsTotals : NfsTotals where
  totRequests := 0
  totReplies := 0
  runtime := []
  aggregate := []

/-- One turn of the loop.  Without memory for the samples the function returns. -/
def addResult (order : ByteOrder) (realloc : Nat → Bool) (totals : NfsTotals)
    (entry : ClientData) : Option (Option NfsTotals) := do
  let theresult ← entry.data
  let time ← readWord order theresult 0
  let samples ← readWord order theresult 1
  let sends ← readWord order theresult 2
  let recvs ← readWord order theresult 3
  if samples = 0 then none
  else
    let size := (UInt64.ofNat totals.aggregate.length + samples) * 8
    if realloc size.toNat then
      if 0x80000000 ≤ samples.toNat ∨
          size.toNat < 8 * (totals.aggregate.length + samples.toNat) then none
      else
        let data ← readWords order theresult 4 samples.toNat
        some (some
          { totRequests := totals.totRequests + sends
            totReplies := totals.totReplies + recvs
            runtime := totals.runtime ++ [time]
            aggregate := totals.aggregate ++ data })
    else some none

def addResults (order : ByteOrder) (realloc : Nat → Bool) :
    NfsTotals → List ClientData → Option (Option NfsTotals)
  | totals, [] => some (some totals)
  | totals, entry :: rest =>
      match addResult order realloc totals entry with
      | some (some next) => addResults order realloc next rest
      | ended => ended

/-- The line that is printed, in the order of its heading. -/
structure NfsLine (Double : Type) where
  achievedRequestRate : UInt64
  achievedReplyRate : UInt64
  minLatency : UInt64
  averageLatency : UInt64
  stddeviation : Double
  medianLatency : UInt64
  averageAbsDeviation : Double
  maxLatency : UInt64
  samples : UInt64
  minRuntime : UInt64
  averageRuntime : UInt64
  medianRuntime : UInt64
  stdDevRuntime : Double
  maxRuntime : UInt64
deriving DecidableEq, Repr

inductive NfsOutput (Double : Type) where
  | outOfMemory
  | line (line : NfsLine Double)
deriving DecidableEq, Repr

def asUnsigned (count : Nat) : Nat :=
  count % 0x100000000

variable {Double : Type}

/-- Sort an array, discard its zeros and take its average. -/
def nonzeroAverage (ops : DoubleOps Double) (array : List UInt64) :
    Option (List UInt64 × UInt64 × Double) := do
  let nonzero ← discardZeros (qsortUint64 array)
  let (average, stddev) ← (averageUint64 ops nonzero (asUnsigned nonzero.length)).1
  some (nonzero, average, stddev)

/-- What `nfs_latency_output` does behind the loop. -/
def printLine (ops : DoubleOps Double) (totals : NfsTotals) : Option (NfsLine Double) := do
  let (aggregate, avgLatency, stddevL) ← nonzeroAverage ops totals.aggregate
  let (runtime, avgRuntime, stddevR) ← nonzeroAverage ops totals.runtime
  if avgRuntime = 0 then none
  else
    let minLatency ← aggregate[0]?
    let medianLatency ← aggregate[aggregate.length / 2]?
    let deviation ← absoluteDeviationUint64 ops aggregate (asUnsigned aggregate.length)
      medianLatency
    let maxLatency ← aggregate[aggregate.length - 1]?
    let minRuntime ← runtime[0]?
    let medianRuntime ← runtime[runtime.length / 2]?
    let maxRuntime ← runtime[runtime.length - 1]?
    some
      { achievedRequestRate := totals.totRequests * 1000000 / avgRuntime
        achievedReplyRate := totals.totReplies * 1000000 / avgRuntime
        minLatency := minLatency
        averageLatency := avgLatency
        stddeviation := stddevL
        medianLatency := medianLatency
        averageAbsDeviation := deviation
        maxLatency := maxLatency
        samples := UInt64.ofNat aggregate.length
        minRuntime := minRuntime
        averageRuntime := avgRuntime
        medianRuntime := medianRuntime
        stdDevRuntime := stddevR
        maxRuntime := maxRuntime }

/-- `nfs_latency_output`.  Failed assertions, divisions by zero and accesses outside
the arrays are `none`. -/
def nfsLatencyOutput (ops : DoubleOps Double) (order : ByteOrder) (malloc : Nat → Bool)
    (data : List ClientData) : Option (NfsOutput Double) :=
  if malloc (8 * data.length) then
    match addResults order malloc noNfsTotals data with
    | none => none
    | some none => some .outOfMemory
    | some (some totals) => (printLine ops totals).map .line
  else none

/-! ## Sorted arrays -/

def nonzero (array : List UInt64) : List UInt64 :=
  array.filter (· != 0)

@[simp] theorem nonzero_zero (rest : List UInt64) : nonzero (0 :: rest) = nonzero rest := rfl

theorem nonzero_cons {first : UInt64} (other : first ≠ 0) (rest : List UInt64) :
    nonzero (first :: rest) = first :: nonzero rest := by
  unfold nonzero
  rw [List.filter_cons_of_pos (by simpa using other)]

theorem qsortUint64_perm (array : List UInt64) : (qsortUint64 array).Perm array :=
  List.mergeSort_perm array _

/-- Sorting an array sorts the collection of its numbers. -/
theorem map_qsortUint64 (array : List UInt64) :
    (qsortUint64 array).map UInt64.toNat = (rttValues array).sort :=
  (sort_rttValues array).symm

theorem qsortUint64_sorted (array : List UInt64) :
    (qsortUint64 array).Pairwise (· ≤ ·) := by
  have sorted : ((qsortUint64 array).map UInt64.toNat).Pairwise (· ≤ ·) := by
    rw [map_qsortUint64]
    exact Multiset.pairwise_sort _ _
  exact (List.pairwise_map.mp sorted).imp UInt64.le_iff_toNat_le.mpr

/-- Arrays with the same numbers are the same when sorted. -/
theorem qsortUint64_eq_of_perm {first second : List UInt64} (same : first.Perm second) :
    qsortUint64 first = qsortUint64 second := by
  apply List.Perm.eq_of_pairwise (fun x y _ _ => UInt64.le_antisymm)
    (qsortUint64_sorted first) (qsortUint64_sorted second)
  exact (qsortUint64_perm first).trans (same.trans (qsortUint64_perm second).symm)

/-- The zeros of a sorted array are at its beginning. -/
theorem dropWhile_zeros {array : List UInt64} (sorted : array.Pairwise (· ≤ ·)) :
    array.dropWhile (· == 0) = nonzero array := by
  induction array with
  | nil => rfl
  | cons first rest inductionHypothesis =>
      rw [List.pairwise_cons] at sorted
      by_cases zero : first = 0
      · subst zero
        exact inductionHypothesis sorted.2
      · have all : ∀ x ∈ first :: rest, (x != 0) = true := by
          intro x member
          rw [bne_iff_ne]
          rcases List.mem_cons.mp member with rfl | later
          · exact zero
          · rintro rfl
            exact zero (UInt64.le_zero_iff.mp (sorted.1 0 later))
        rw [List.dropWhile_cons_of_neg (by simpa using zero), nonzero, List.filter_eq_self.mpr all]

theorem count_add_nonzero (array : List UInt64) :
    array.count 0 + (nonzero array).length = array.length := by
  induction array with
  | nil => rfl
  | cons first rest inductionHypothesis =>
      by_cases zero : first = 0
      · subst zero
        rw [List.count_cons_self, nonzero_zero, List.length_cons]
        omega
      · rw [List.count_cons_of_ne zero, nonzero_cons zero, List.length_cons, List.length_cons]
        omega

theorem discardZeros_qsort (array : List UInt64) :
    discardZeros (qsortUint64 array) =
      if 0x80000000 ≤ array.count 0 then none else some (qsortUint64 (nonzero array)) := by
  have sorted := qsortUint64_sorted array
  have split : (qsortUint64 array).takeWhile (· == 0) ++ nonzero (qsortUint64 array) =
      qsortUint64 array := by
    rw [← dropWhile_zeros sorted]
    exact List.takeWhile_append_dropWhile
  have kept : (qsortUint64 array).drop ((qsortUint64 array).takeWhile (· == 0)).length =
      nonzero (qsortUint64 array) := by
    generalize (qsortUint64 array).takeWhile (· == 0) = zeros at split
    rw [← split, List.drop_left, split]
  have zeros : ((qsortUint64 array).takeWhile (· == 0)).length = array.count 0 := by
    have length := congrArg List.length split
    have total := count_add_nonzero (qsortUint64 array)
    rw [List.length_append] at length
    rw [(qsortUint64_perm array).count_eq] at total
    omega
  have ordered : nonzero (qsortUint64 array) = qsortUint64 (nonzero array) := by
    apply List.Perm.eq_of_pairwise (fun x y _ _ => UInt64.le_antisymm)
      (sorted.filter _) (qsortUint64_sorted _)
    exact ((qsortUint64_perm array).filter _).trans (qsortUint64_perm _).symm
  unfold discardZeros
  dsimp only
  rw [kept, zeros, ordered]

/-! ## Averages of sorted arrays -/

theorem asUnsigned_le (count : Nat) : asUnsigned count ≤ count :=
  Nat.mod_le _ _

theorem sum_nonzero (array : List UInt64) :
    (rttValues (nonzero array)).sum = (rttValues array).sum := by
  induction array with
  | nil => rfl
  | cons first rest inductionHypothesis =>
      by_cases zero : first = 0
      · subst zero
        rw [nonzero_zero, sum_rttValues_cons, inductionHypothesis, UInt64.toNat_zero,
          Nat.zero_add]
      · rw [nonzero_cons zero, sum_rttValues_cons, sum_rttValues_cons, inductionHypothesis]

theorem sum_qsortUint64 (array : List UInt64) :
    (rttValues (qsortUint64 array)).sum = (rttValues array).sum := by
  unfold rttValues
  rw [Multiset.coe_eq_coe.mpr ((qsortUint64_perm array).map UInt64.toNat)]

theorem sum_take_le (array : List UInt64) (n : Nat) :
    (rttValues (array.take n)).sum ≤ (rttValues array).sum := by
  have split : (rttValues array).sum =
      (rttValues (array.take n)).sum + (rttValues (array.drop n)).sum := by
    rw [sum_rttValues, sum_rttValues, sum_rttValues, ← List.sum_append, ← List.map_append,
      List.take_append_drop]
  omega

/-- Numbers that are not zero add up to their count at least. -/
theorem length_le_sum {array : List UInt64} (each : ∀ x ∈ array, x ≠ 0) :
    array.length ≤ (rttValues array).sum := by
  induction array with
  | nil => exact Nat.zero_le _
  | cons first rest inductionHypothesis =>
      have positive : first.toNat ≠ 0 := fun zero =>
        each first List.mem_cons_self (UInt64.toNat_inj.mp zero)
      have later := inductionHypothesis fun x member => each x (List.mem_cons_of_mem _ member)
      rw [sum_rttValues_cons, List.length_cons]
      omega

theorem mem_nonzero {array : List UInt64} {x : UInt64} (member : x ∈ nonzero array) : x ≠ 0 :=
  bne_iff_ne.mp (List.mem_filter.mp member).2

variable (ops : DoubleOps Double)

/-- The average of what is left of an array, when at least two numbers are. -/
theorem nonzeroAverage_value {array : List UInt64} (few : array.count 0 < 0x80000000)
    (several : 1 < asUnsigned (nonzero array).length)
    (fits : (rttValues array).sum < 0x10000000000000000) :
    ∃ average stddev, nonzeroAverage ops array =
        some (qsortUint64 (nonzero array), average, stddev) ∧
      average.toNat =
        (rttValues ((qsortUint64 (nonzero array)).take (asUnsigned (nonzero array).length))).sum /
          asUnsigned (nonzero array).length := by
  have length := (qsortUint64_perm (nonzero array)).length_eq
  have inside : asUnsigned (nonzero array).length ≤ (qsortUint64 (nonzero array)).length := by
    rw [length]
    exact asUnsigned_le _
  have total := sum_take_le (qsortUint64 (nonzero array)) (asUnsigned (nonzero array).length)
  rw [sum_qsortUint64, sum_nonzero] at total
  rcases averageUint64_fits ops several inside (by omega) with ⟨sum, stddev, averaged, number⟩
  refine ⟨sum / UInt64.ofNat (asUnsigned (nonzero array).length), stddev, ?_, ?_⟩
  · unfold nonzeroAverage
    rw [discardZeros_qsort, if_neg (Nat.not_le.mpr few), Option.bind_eq_bind, Option.bind_some,
      length, averaged]
    rfl
  · have bound : asUnsigned (nonzero array).length < 0x100000000 := Nat.mod_lt _ (by decide)
    rw [UInt64.toNat_div, number, UInt64.toNat_ofNat', Nat.mod_eq_of_lt (by omega)]

theorem nonzeroAverage_fits {array : List UInt64} (few : array.count 0 < 0x80000000)
    (several : 1 < asUnsigned (nonzero array).length)
    (fits : (rttValues array).sum < 0x10000000000000000) :
    ∃ average stddev, nonzeroAverage ops array =
        some (qsortUint64 (nonzero array), average, stddev) ∧ average ≠ 0 := by
  rcases nonzeroAverage_value ops few several fits with ⟨average, stddev, averaged, value⟩
  refine ⟨average, stddev, averaged, ?_⟩
  rintro rfl
  have each : ∀ x ∈ (qsortUint64 (nonzero array)).take (asUnsigned (nonzero array).length),
      x ≠ 0 := fun x member =>
    mem_nonzero ((qsortUint64_perm (nonzero array)).mem_iff.mp (List.mem_of_mem_take member))
  have least := length_le_sum each
  rw [List.length_take, (qsortUint64_perm (nonzero array)).length_eq,
    Nat.min_eq_left (asUnsigned_le _)] at least
  have none_ := Nat.div_eq_zero_iff.mp value.symm
  omega

theorem of_nonzeroAverage {array : List UInt64} {result : List UInt64 × UInt64 × Double}
    (averaged : nonzeroAverage ops array = some result) :
    array.count 0 < 0x80000000 ∧ 1 < asUnsigned (nonzero array).length := by
  have length := (qsortUint64_perm (nonzero array)).length_eq
  unfold nonzeroAverage at averaged
  rw [discardZeros_qsort] at averaged
  rcases Option.bind_eq_some_iff.mp averaged with ⟨left, discarded, averaged⟩
  split at discarded
  · cases discarded
  · rename_i few
    cases discarded
    rcases Option.bind_eq_some_iff.mp averaged with ⟨pair, some_, _⟩
    have several := (of_averageUint64 ops some_).1
    rw [length] at several
    exact ⟨Nat.lt_of_not_le few, several⟩

/-! ## What the clients have reported -/

/-- The message of a client, whose size is a C integer, and its flag. -/
structure NfsReport where
  time : UInt64
  sends : UInt64
  recvs : UInt64
  data : List UInt64
  valid : Bool
  fits : 32 + 8 * data.length < 0x80000000

namespace NfsReport

def header (report : NfsReport) : MarshalledResult where
  time := report.time
  samples := UInt64.ofNat report.data.length
  sends := report.sends
  recvs := report.recvs

def entry (order : ByteOrder) (report : NfsReport) : ClientData where
  data := some (storeWords order (report.header.words ++ report.data))
  size := (32 + 8 * report.data.length : Nat)
  valid := report.valid

theorem samples_toNat (report : NfsReport) :
    report.header.samples.toNat = report.data.length := by
  have fits := report.fits
  exact UInt64.toNat_ofNat_of_lt' (by simp only [UInt64.size]; omega)

theorem unmarshalled (order : ByteOrder) {malloc : Nat → Bool} (report : NfsReport)
    (available : malloc (32 + 8 * report.data.length)) :
    nfsLatencyUnmarshall order malloc (storeWords .big (report.header.words ++ report.data))
        (report.entry order).size =
      some
        { status := 0
          data := (report.entry order).data
          dataLen := (report.entry order).size } :=
  nfsLatencyUnmarshall_message order report.header report.samples_toNat report.fits available

end NfsReport

def allSamples (clients : List NfsReport) : List UInt64 :=
  clients.flatMap NfsReport.data

/-- The totals with the report of one more client. -/
def NfsTotals.add (totals : NfsTotals) (report : NfsReport) : NfsTotals where
  totRequests := totals.totRequests + report.sends
  totReplies := totals.totReplies + report.recvs
  runtime := totals.runtime ++ [report.time]
  aggregate := totals.aggregate ++ report.data

/-- There is memory for the samples of every client with those before it. -/
def Granted (realloc : Nat → Bool) : (count : Nat) → List NfsReport → Prop
  | _, [] => True
  | count, report :: rest =>
      realloc (8 * (count + report.data.length)) = true ∧
        Granted realloc (count + report.data.length) rest

/-- The number of all samples, which the memory of a process can hold. -/
theorem allSamples_length (clients : List NfsReport) :
    (allSamples clients).length ≤ clients.length * 0x10000000 := by
  induction clients with
  | nil => exact Nat.zero_le _
  | cons report rest inductionHypothesis =>
      have fits := report.fits
      rw [allSamples, List.flatMap_cons, List.length_append, List.length_cons]
      unfold allSamples at inductionHypothesis
      omega

section Loop

variable (order : ByteOrder) (realloc : Nat → Bool)

theorem addResult_entry {report : NfsReport} (some_ : report.data ≠ []) (totals : NfsTotals)
    (bounded : totals.aggregate.length + report.data.length < 0x1000000000000000) :
    addResult order realloc totals (report.entry order) =
      if realloc (8 * (totals.aggregate.length + report.data.length)) then
        some (some (totals.add report))
      else some none := by
  have counted := report.samples_toNat
  have fits := report.fits
  have word : ∀ {index value}, report.header.words[index]? = some value →
      readWord order (storeWords order (report.header.words ++ report.data)) index =
        some value := by
    intro index value found
    apply readWord_getElem
    rw [List.getElem?_append_left (List.getElem?_eq_some_iff.mp found).1]
    exact found
  have time : report.header.words[0]? = some report.time := rfl
  have samples : report.header.words[1]? = some report.header.samples := rfl
  have sends : report.header.words[2]? = some report.sends := rfl
  have recvs : report.header.words[3]? = some report.recvs := rfl
  have data : readWords order (storeWords order (report.header.words ++ report.data)) 4
      report.header.samples.toNat = some report.data := by
    have inside := readWords_inside order report.header.words report.data []
    rw [List.append_nil, ← counted] at inside
    exact inside
  have positive : report.header.samples ≠ 0 := by
    intro zero
    rw [zero] at counted
    exact some_ (List.eq_nil_of_length_eq_zero counted.symm)
  have size : ((UInt64.ofNat totals.aggregate.length + report.header.samples) * 8).toNat =
      8 * (totals.aggregate.length + report.data.length) := by
    rw [UInt64.toNat_mul, UInt64.toNat_add, UInt64.toNat_ofNat', counted]
    change ((totals.aggregate.length % 2 ^ 64 + report.data.length) % 2 ^ 64) * 8 % 2 ^ 64 = _
    omega
  have inside : ¬ (0x80000000 ≤ report.data.length ∨
      8 * (totals.aggregate.length + report.data.length) <
        8 * (totals.aggregate.length + report.data.length)) := by
    omega
  unfold addResult NfsReport.entry
  simp only [Option.bind_eq_bind, Option.bind_some, word time, word samples, word sends,
    word recvs, data]
  rw [if_neg positive, size, counted, if_neg inside]
  rfl

/-- The loop collects all reports, or it ends without memory. -/
theorem addResults_entries {clients : List NfsReport}
    (each : ∀ report ∈ clients, report.data ≠ []) (totals : NfsTotals)
    (bounded : totals.aggregate.length + (allSamples clients).length < 0x1000000000000000) :
    (Granted realloc totals.aggregate.length clients →
      addResults order realloc totals (clients.map (NfsReport.entry order)) =
        some (some (clients.foldl NfsTotals.add totals))) ∧
    (¬ Granted realloc totals.aggregate.length clients →
      addResults order realloc totals (clients.map (NfsReport.entry order)) = some none) := by
  induction clients generalizing totals with
  | nil => exact ⟨fun _ => rfl, fun refused => absurd trivial refused⟩
  | cons report rest inductionHypothesis =>
      have whole : (allSamples (report :: rest)).length =
          report.data.length + (allSamples rest).length := List.length_append
      have longer : (totals.add report).aggregate.length =
          totals.aggregate.length + report.data.length := List.length_append
      rw [whole] at bounded
      have here := addResult_entry order realloc (each report List.mem_cons_self) totals
        (by omega)
      have later := inductionHypothesis
        (fun other member => each other (List.mem_cons_of_mem _ member)) (totals.add report)
        (by rw [longer]; omega)
      rw [longer] at later
      rw [List.map_cons, addResults, here, List.foldl_cons, Granted]
      by_cases available : realloc (8 * (totals.aggregate.length + report.data.length)) = true
      · rw [if_pos available]
        exact ⟨fun granted => later.1 granted.2,
          fun refused => later.2 fun rest => refused ⟨available, rest⟩⟩
      · rw [if_neg available]
        exact ⟨fun granted => absurd granted.1 available, fun _ => rfl⟩

theorem foldl_add_aggregate (clients : List NfsReport) (totals : NfsTotals) :
    (clients.foldl NfsTotals.add totals).aggregate = totals.aggregate ++ allSamples clients := by
  induction clients generalizing totals with
  | nil => exact (List.append_nil _).symm
  | cons report rest inductionHypothesis =>
      rw [List.foldl_cons, inductionHypothesis, NfsTotals.add, List.append_assoc]
      rfl

theorem foldl_add_runtime (clients : List NfsReport) (totals : NfsTotals) :
    (clients.foldl NfsTotals.add totals).runtime =
      totals.runtime ++ clients.map NfsReport.time := by
  induction clients generalizing totals with
  | nil => exact (List.append_nil _).symm
  | cons report rest inductionHypothesis =>
      rw [List.foldl_cons, inductionHypothesis, NfsTotals.add, List.append_assoc]
      rfl

end Loop

/-! ## When a line is printed -/

/-- A line is printed for the reports. -/
def Prints (ops : DoubleOps Double) (order : ByteOrder) (malloc : Nat → Bool)
    (clients : List NfsReport) : Prop :=
  ∃ line, nfsLatencyOutput ops order malloc (clients.map (NfsReport.entry order)) =
    some (.line line)

/-- There is memory, and at least two numbers are left of both arrays.  The helper
functions see the number of samples modulo 2^32. -/
structure Printable (malloc : Nat → Bool) (clients : List NfsReport) : Prop where
  runtimes : malloc (8 * clients.length) = true
  samples : Granted malloc 0 clients
  zeros : (allSamples clients).count 0 < 0x80000000
  severalSamples : 1 < asUnsigned (nonzero (allSamples clients)).length
  severalRuntimes : 1 < (nonzero (clients.map NfsReport.time)).length

theorem absoluteDeviation_some {samples : List UInt64} {n : Nat} (inside : n ≤ samples.length)
    (median : UInt64) : ∃ deviation, absoluteDeviationUint64 ops samples n median =
      some deviation := by
  unfold absoluteDeviationUint64
  rw [if_neg (Nat.not_lt.mpr inside)]
  exact ⟨_, rfl⟩

/-- The integers of a line, by what is left of the two arrays and their averages. -/
structure NfsLine.Shows (line : NfsLine Double) (totals : NfsTotals)
    (aggregate runtime : List UInt64) (avgLatency avgRuntime : UInt64) : Prop where
  requestRate : line.achievedRequestRate = totals.totRequests * 1000000 / avgRuntime
  replyRate : line.achievedReplyRate = totals.totReplies * 1000000 / avgRuntime
  minLatency : aggregate[0]? = some line.minLatency
  averageLatency : line.averageLatency = avgLatency
  medianLatency : aggregate[aggregate.length / 2]? = some line.medianLatency
  maxLatency : aggregate[aggregate.length - 1]? = some line.maxLatency
  samples : line.samples = UInt64.ofNat aggregate.length
  minRuntime : runtime[0]? = some line.minRuntime
  averageRuntime : line.averageRuntime = avgRuntime
  medianRuntime : runtime[runtime.length / 2]? = some line.medianRuntime
  maxRuntime : runtime[runtime.length - 1]? = some line.maxRuntime

/-- A line is printed when both arrays have an average. -/
theorem printLine_some {totals : NfsTotals} {aggregate runtime : List UInt64}
    {avgLatency avgRuntime : UInt64} {stddevL stddevR : Double}
    (latencies : nonzeroAverage ops totals.aggregate = some (aggregate, avgLatency, stddevL))
    (runtimes : nonzeroAverage ops totals.runtime = some (runtime, avgRuntime, stddevR))
    (divisor : avgRuntime ≠ 0) (someSamples : aggregate ≠ []) (someRuntimes : runtime ≠ []) :
    ∃ line, printLine ops totals = some line ∧
      line.Shows totals aggregate runtime avgLatency avgRuntime := by
  have samples := List.length_pos_iff.mpr someSamples
  have times := List.length_pos_iff.mpr someRuntimes
  have middle := Nat.div_lt_self samples (Nat.lt_succ_self 1)
  have minLatency := List.getElem?_eq_getElem samples
  have medianLatency := List.getElem?_eq_getElem middle
  have maxLatency := List.getElem?_eq_getElem (Nat.sub_lt samples Nat.zero_lt_one)
  have minRuntime := List.getElem?_eq_getElem times
  have medianRuntime := List.getElem?_eq_getElem (Nat.div_lt_self times (Nat.lt_succ_self 1))
  have maxRuntime := List.getElem?_eq_getElem (Nat.sub_lt times Nat.zero_lt_one)
  rcases absoluteDeviation_some ops (asUnsigned_le aggregate.length)
    aggregate[aggregate.length / 2] with ⟨deviation, deviated⟩
  unfold printLine
  simp only [latencies, runtimes, Option.bind_eq_bind, Option.bind_some, if_neg divisor,
    minLatency, medianLatency, deviated, maxLatency, minRuntime, medianRuntime, maxRuntime]
  exact ⟨_, rfl, rfl, rfl, minLatency, rfl, medianLatency, maxLatency, rfl, minRuntime, rfl,
    medianRuntime, maxRuntime⟩

theorem of_printLine {totals : NfsTotals} {line : NfsLine Double}
    (printed : printLine ops totals = some line) :
    (∃ result, nonzeroAverage ops totals.aggregate = some result) ∧
      ∃ result, nonzeroAverage ops totals.runtime = some result := by
  rcases Option.bind_eq_some_iff.mp printed with ⟨latencies, first, printed⟩
  rcases Option.bind_eq_some_iff.mp printed with ⟨runtimes, second, _⟩
  exact ⟨⟨latencies, first⟩, runtimes, second⟩

def allTotals (clients : List NfsReport) : NfsTotals :=
  clients.foldl NfsTotals.add noNfsTotals

theorem allTotals_aggregate (clients : List NfsReport) :
    (allTotals clients).aggregate = allSamples clients :=
  foldl_add_aggregate clients noNfsTotals

theorem allTotals_runtime (clients : List NfsReport) :
    (allTotals clients).runtime = clients.map NfsReport.time :=
  foldl_add_runtime clients noNfsTotals

section Clients

variable {clients : List NfsReport} (order : ByteOrder) (malloc : Nat → Bool)
  (each : ∀ report ∈ clients, report.data ≠ []) (bounded : clients.length < 0x80000000)
include each bounded

/-- With memory the output is what is printed for the totals. -/
theorem nfsLatencyOutput_granted (runtimes : malloc (8 * clients.length) = true)
    (granted : Granted malloc 0 clients) :
    nfsLatencyOutput ops order malloc (clients.map (NfsReport.entry order)) =
      (printLine ops (allTotals clients)).map .line := by
  have length := allSamples_length clients
  have start : noNfsTotals.aggregate.length + (allSamples clients).length < 0x1000000000000000 := by
    change 0 + _ < _
    omega
  have collected := (addResults_entries order malloc each noNfsTotals start).1 granted
  unfold nfsLatencyOutput
  rw [List.length_map, if_pos runtimes, collected]
  rfl

theorem granted_of_prints (prints : Prints ops order malloc clients) :
    malloc (8 * clients.length) = true ∧ Granted malloc 0 clients := by
  have length := allSamples_length clients
  have start : noNfsTotals.aggregate.length + (allSamples clients).length < 0x1000000000000000 := by
    change 0 + _ < _
    omega
  rcases prints with ⟨line, prints⟩
  unfold nfsLatencyOutput at prints
  rw [List.length_map] at prints
  split at prints
  · rename_i runtimes
    refine ⟨runtimes, ?_⟩
    by_contra refused
    rw [(addResults_entries order malloc each noNfsTotals start).2 refused] at prints
    cases prints
  · cases prints

omit each in
theorem asUnsigned_runtimes :
    asUnsigned (nonzero (clients.map NfsReport.time)).length =
        (nonzero (clients.map NfsReport.time)).length ∧
      (clients.map NfsReport.time).count 0 < 0x80000000 := by
  have parts := count_add_nonzero (clients.map NfsReport.time)
  rw [List.length_map] at parts
  exact ⟨Nat.mod_eq_of_lt (by omega), by omega⟩

/-- The line that is printed, and the two averages it is made of. -/
theorem nfsLatencyOutput_line (printable : Printable malloc clients)
    (samplesFit : (rttValues (allSamples clients)).sum < 0x10000000000000000)
    (runtimesFit : (rttValues (clients.map NfsReport.time)).sum < 0x10000000000000000) :
    ∃ line avgLatency stddevL avgRuntime stddevR,
      nfsLatencyOutput ops order malloc (clients.map (NfsReport.entry order)) =
        some (.line line) ∧
      nonzeroAverage ops (allSamples clients) =
        some (qsortUint64 (nonzero (allSamples clients)), avgLatency, stddevL) ∧
      nonzeroAverage ops (clients.map NfsReport.time) =
        some (qsortUint64 (nonzero (clients.map NfsReport.time)), avgRuntime, stddevR) ∧
      line.Shows (allTotals clients) (qsortUint64 (nonzero (allSamples clients)))
        (qsortUint64 (nonzero (clients.map NfsReport.time))) avgLatency avgRuntime := by
  have unsigned := asUnsigned_runtimes bounded
  rcases nonzeroAverage_fits ops printable.zeros printable.severalSamples samplesFit with
    ⟨avgLatency, stddevL, latencies, _⟩
  have several : 1 < asUnsigned (nonzero (clients.map NfsReport.time)).length := by
    rw [unsigned.1]
    exact printable.severalRuntimes
  rcases nonzeroAverage_fits ops unsigned.2 several runtimesFit with
    ⟨avgRuntime, stddevR, times, divisor⟩
  have someSamples : qsortUint64 (nonzero (allSamples clients)) ≠ [] := by
    intro empty
    have length := (qsortUint64_perm (nonzero (allSamples clients))).length_eq
    have below := asUnsigned_le (nonzero (allSamples clients)).length
    have more := printable.severalSamples
    rw [empty, List.length_nil] at length
    omega
  have someRuntimes : qsortUint64 (nonzero (clients.map NfsReport.time)) ≠ [] := by
    intro empty
    have length := (qsortUint64_perm (nonzero (clients.map NfsReport.time))).length_eq
    have more := printable.severalRuntimes
    rw [empty, List.length_nil] at length
    omega
  have first := (congrArg (nonzeroAverage ops) (allTotals_aggregate clients)).trans latencies
  have second := (congrArg (nonzeroAverage ops) (allTotals_runtime clients)).trans times
  rcases printLine_some ops first second divisor someSamples someRuntimes with
    ⟨line, printed, shows⟩
  refine ⟨line, avgLatency, stddevL, avgRuntime, stddevR, ?_, latencies, times, shows⟩
  rw [nfsLatencyOutput_granted ops order malloc each bounded printable.runtimes
    printable.samples, printed]
  rfl

/-- A line is only printed for two numbers of each kind. -/
theorem printable_of_prints (prints : Prints ops order malloc clients) :
    Printable malloc clients := by
  rcases granted_of_prints ops order malloc each bounded prints with ⟨runtimes, granted⟩
  rcases prints with ⟨line, prints⟩
  rw [nfsLatencyOutput_granted ops order malloc each bounded runtimes granted] at prints
  rcases Option.map_eq_some_iff.mp prints with ⟨shown, printed, _⟩
  rcases of_printLine ops printed with ⟨⟨_, latencies⟩, _, times⟩
  rw [allTotals_aggregate] at latencies
  rw [allTotals_runtime] at times
  have samples := of_nonzeroAverage ops latencies
  have others := (of_nonzeroAverage ops times).2
  rw [(asUnsigned_runtimes bounded).1] at others
  exact ⟨runtimes, granted, samples.1, samples.2, others⟩

/-- For every list of clients with at least one sample each, whose totals fit: a line
is printed exactly if there is memory and at least two samples and two running times
are not zero. -/
theorem prints_iff (samplesFit : (rttValues (allSamples clients)).sum < 0x10000000000000000)
    (runtimesFit : (rttValues (clients.map NfsReport.time)).sum < 0x10000000000000000) :
    Prints ops order malloc clients ↔ Printable malloc clients := by
  constructor
  · exact printable_of_prints ops order malloc each bounded
  · intro printable
    rcases nfsLatencyOutput_line ops order malloc each bounded printable samplesFit runtimesFit
      with ⟨line, _, _, _, _, prints, _⟩
    exact ⟨line, prints⟩

end Clients

def twoSampleReport (time : UInt64) : NfsReport where
  time := time
  sends := 2
  recvs := 2
  data := [3, 4]
  valid := true
  fits := by decide

theorem prints_iff_two :
    Prints exactOps .little (fun _ => true) [twoSampleReport 10, twoSampleReport 12] ↔
      Printable (fun _ => true) [twoSampleReport 10, twoSampleReport 12] :=
  prints_iff exactOps .little (fun _ => true) (by simp [twoSampleReport]) (by decide) (by decide)
    (by decide)

/-- With one client the average of the running times fails its assertion. -/
theorem oneClient_aborts :
    ¬ Prints exactOps .little (fun _ => true) [twoSampleReport 10] := by
  intro prints
  have printable := printable_of_prints exactOps .little (fun _ => true)
    (by simp [twoSampleReport]) (by decide) prints
  have several := printable.severalRuntimes
  revert several
  decide

end Nfs
end Ipbench
