import Ipbench.Nfs.Output

namespace Ipbench
namespace Nfs

open Foundation Latency

/-!
# What the printed line says

The latencies of the line are those of all clients together, without the zeros, and
its running times are those that are not zero.  Neither depends on the order in which
the clients stand.  A client without samples stops the output by an assertion.
-/

variable {Double : Type} (ops : DoubleOps Double)

/-! ## Collections and their figures -/

/-- The latencies of all clients that are not zero. -/
def allLatencies (clients : List NfsReport) : Multiset Nat :=
  (clients.map fun report => (rttValues report.data).filter (· ≠ 0)).sum

/-- The running times that are not zero. -/
def allRuntimes (clients : List NfsReport) : Multiset Nat :=
  Multiset.filter (· ≠ 0) (clients.map fun report => report.time.toNat : List Nat)

/-- The least number, the mean rounded down, the number of the middle rank and the
greatest number. -/
structure Figures (values : Multiset Nat) (min average median max : UInt64) : Prop where
  least : IsLeast {value | value ∈ values} min.toNat
  mean : average.toNat = values.sum / values.card
  middle : values.sort[values.card / 2]? = some median.toNat
  greatest : IsGreatest {value | value ∈ values} max.toNat

/-- The line shows the figures of both collections, and the two rates. -/
structure NfsLine.Aggregates (line : NfsLine Double) (clients : List NfsReport) : Prop where
  latencies : Figures (allLatencies clients) line.minLatency line.averageLatency
    line.medianLatency line.maxLatency
  count : line.samples.toNat = (allLatencies clients).card
  runtimes : Figures (allRuntimes clients) line.minRuntime line.averageRuntime
    line.medianRuntime line.maxRuntime
  requestRate : line.achievedRequestRate.toNat =
    (clients.map fun report => report.sends.toNat).sum * 1000000 /
      ((allRuntimes clients).sum / (allRuntimes clients).card)
  replyRate : line.achievedReplyRate.toNat =
    (clients.map fun report => report.recvs.toNat).sum * 1000000 /
      ((allRuntimes clients).sum / (allRuntimes clients).card)

/-- Two numbers of each kind at least, and counts and totals that fit. -/
structure Aggregable (clients : List NfsReport) : Prop where
  severalLatencies : 1 < (allLatencies clients).card
  severalRuntimes : 1 < (allRuntimes clients).card
  zeros : (allSamples clients).count 0 < 0x80000000
  count : (allLatencies clients).card < 0x100000000
  samplesFit : (rttValues (allSamples clients)).sum < 0x10000000000000000
  runtimesFit : (rttValues (clients.map NfsReport.time)).sum < 0x10000000000000000
  sendsFit : (clients.map fun report => report.sends.toNat).sum * 1000000 < 0x10000000000000000
  recvsFit : (clients.map fun report => report.recvs.toNat).sum * 1000000 < 0x10000000000000000

theorem rttValues_nonzero (array : List UInt64) :
    rttValues (nonzero array) = (rttValues array).filter (· ≠ 0) := by
  rw [rttValues, rttValues, Multiset.filter_coe, nonzero, List.filter_map]
  congr 2
  apply List.filter_congr
  intro x _
  rw [Function.comp_apply, Bool.eq_iff_iff, bne_iff_ne, decide_eq_true_eq, ← UInt64.toNat_zero,
    ne_eq, ne_eq, UInt64.toNat_inj]

theorem rttValues_append (first second : List UInt64) :
    rttValues (first ++ second) = rttValues first + rttValues second := by
  rw [rttValues, List.map_append, ← Multiset.coe_add]
  rfl

theorem rttValues_nonzero_allSamples (clients : List NfsReport) :
    rttValues (nonzero (allSamples clients)) = allLatencies clients := by
  rw [rttValues_nonzero]
  induction clients with
  | nil => rfl
  | cons report rest inductionHypothesis =>
      rw [allSamples, List.flatMap_cons, rttValues_append, Multiset.filter_add, allLatencies,
        List.map_cons, List.sum_cons]
      congr 1

theorem rttValues_nonzero_times (clients : List NfsReport) :
    rttValues (nonzero (clients.map NfsReport.time)) = allRuntimes clients := by
  rw [rttValues_nonzero, rttValues, List.map_map]
  rfl

/-- The entries of a sorted array at its beginning, its middle and its end. -/
theorem figures_of_sorted {array : List UInt64} {min average median max : UInt64}
    (first : (qsortUint64 array)[0]? = some min)
    (mean : average.toNat = (rttValues array).sum / array.length)
    (middle : (qsortUint64 array)[(qsortUint64 array).length / 2]? = some median)
    (last : (qsortUint64 array)[(qsortUint64 array).length - 1]? = some max) :
    Figures (rttValues array) min average median max := by
  have ordered := List.pairwise_iff_getElem.mp (qsortUint64_sorted array)
  have among : ∀ {index} {x : UInt64}, (qsortUint64 array)[index]? = some x →
      x.toNat ∈ rttValues array := fun found =>
    mem_rttValues.mpr ⟨_, (qsortUint64_perm array).mem_iff.mp (List.mem_of_getElem? found), rfl⟩
  have place : ∀ {value}, value ∈ rttValues array →
      ∃ index, ∃ inside : index < (qsortUint64 array).length,
        (qsortUint64 array)[index].toNat = value := by
    intro value member
    rcases mem_rttValues.mp member with ⟨x, found, rfl⟩
    rcases List.mem_iff_getElem.mp ((qsortUint64_perm array).mem_iff.mpr found) with
      ⟨index, inside, rfl⟩
    exact ⟨index, inside, rfl⟩
  constructor
  · refine ⟨among first, ?_⟩
    intro value member
    rcases place member with ⟨index, inside, rfl⟩
    rcases List.getElem?_eq_some_iff.mp first with ⟨some_, rfl⟩
    rcases Nat.eq_zero_or_pos index with rfl | later
    · exact Nat.le_refl _
    · exact UInt64.le_iff_toNat_le.mp (ordered 0 index some_ inside later)
  · rw [mean, card_rttValues]
  · rw [← map_qsortUint64, card_rttValues, List.getElem?_map, ← (qsortUint64_perm array).length_eq,
      middle]
    rfl
  · refine ⟨among last, ?_⟩
    intro value member
    rcases place member with ⟨index, inside, rfl⟩
    rcases List.getElem?_eq_some_iff.mp last with ⟨some_, rfl⟩
    rcases Nat.eq_or_lt_of_le (Nat.le_sub_one_of_lt inside) with rfl | earlier
    · exact Nat.le_refl _
    · exact UInt64.le_iff_toNat_le.mp (ordered index _ inside some_ earlier)

/-! ## Totals -/

/-- A counter that adds up a number of every report holds the sum, if it fits. -/
theorem foldl_add_count (total : NfsTotals → UInt64) (count : NfsReport → UInt64)
    (step : ∀ totals report, total (NfsTotals.add totals report) = total totals + count report)
    (clients : List NfsReport) (totals : NfsTotals)
    (fits : (total totals).toNat + (clients.map fun report => (count report).toNat).sum <
      0x10000000000000000) :
    (total (clients.foldl NfsTotals.add totals)).toNat =
      (total totals).toNat + (clients.map fun report => (count report).toNat).sum := by
  induction clients generalizing totals with
  | nil => rfl
  | cons report rest inductionHypothesis =>
      rw [List.map_cons, List.sum_cons] at fits ⊢
      have here : (total totals + count report).toNat =
          (total totals).toNat + (count report).toNat := toNat_add_of_fits (by omega)
      rw [List.foldl_cons, inductionHypothesis (totals.add report) (by rw [step, here]; omega),
        step, here, Nat.add_assoc]

theorem allTotals_totRequests (clients : List NfsReport)
    (fits : (clients.map fun report => report.sends.toNat).sum < 0x10000000000000000) :
    (allTotals clients).totRequests.toNat =
      (clients.map fun report => report.sends.toNat).sum := by
  have counted := foldl_add_count NfsTotals.totRequests NfsReport.sends (fun _ _ => rfl) clients
    noNfsTotals
  rw [show noNfsTotals.totRequests.toNat = 0 from rfl, Nat.zero_add] at counted
  exact counted fits

theorem allTotals_totReplies (clients : List NfsReport)
    (fits : (clients.map fun report => report.recvs.toNat).sum < 0x10000000000000000) :
    (allTotals clients).totReplies.toNat =
      (clients.map fun report => report.recvs.toNat).sum := by
  have counted := foldl_add_count NfsTotals.totReplies NfsReport.recvs (fun _ _ => rfl) clients
    noNfsTotals
  rw [show noNfsTotals.totReplies.toNat = 0 from rfl, Nat.zero_add] at counted
  exact counted fits

/-- A rate whose product fits is the exact quotient, rounded down. -/
theorem rate_toNat {total mean : UInt64} (fits : total.toNat * 1000000 < 0x10000000000000000) :
    (total * 1000000 / mean).toNat = total.toNat * 1000000 / mean.toNat := by
  rw [UInt64.toNat_div, UInt64.toNat_mul]
  congr 1
  exact Nat.mod_eq_of_lt fits

/-! ## The order of the clients -/

theorem nonzeroAverage_of_perm {first second : List UInt64} (same : first.Perm second) :
    nonzeroAverage ops first = nonzeroAverage ops second := by
  unfold nonzeroAverage
  rw [qsortUint64_eq_of_perm same]

/-- The line depends on the order of neither array. -/
theorem printLine_of_perm {first second : NfsTotals}
    (requests : first.totRequests = second.totRequests)
    (replies : first.totReplies = second.totReplies)
    (runtime : first.runtime.Perm second.runtime)
    (aggregate : first.aggregate.Perm second.aggregate) :
    printLine ops first = printLine ops second := by
  unfold printLine
  rw [nonzeroAverage_of_perm ops runtime, nonzeroAverage_of_perm ops aggregate, requests, replies]

/-- Memory for all samples and for all running times is enough. -/
theorem granted_of_available {realloc : Nat → Bool} {limit : Nat}
    (available : ∀ size ≤ limit, realloc size = true) (clients : List NfsReport) (count : Nat)
    (inside : 8 * (count + (allSamples clients).length) ≤ limit) :
    Granted realloc count clients := by
  induction clients generalizing count with
  | nil => trivial
  | cons report rest inductionHypothesis =>
      rw [allSamples, List.flatMap_cons, List.length_append] at inside
      unfold allSamples at inductionHypothesis
      exact ⟨available _ (by omega), inductionHypothesis _ (by omega)⟩

/-! ## The line of all clients -/

section Clients

variable {clients : List NfsReport} (order : ByteOrder) (malloc : Nat → Bool)
  (each : ∀ report ∈ clients, report.data ≠ []) (bounded : clients.length < 0x80000000)

/-- The mean of an array that fits and is shorter than an unsigned number can be. -/
theorem nonzeroAverage_mean {array : List UInt64} (few : array.count 0 < 0x80000000)
    (several : 1 < (nonzero array).length) (short : (nonzero array).length < 0x100000000)
    (fits : (rttValues array).sum < 0x10000000000000000)
    {result : List UInt64} {average : UInt64} {stddev : Double}
    (averaged : nonzeroAverage ops array = some (result, average, stddev)) :
    average.toNat = (rttValues (nonzero array)).sum / (nonzero array).length := by
  have unsigned : asUnsigned (nonzero array).length = (nonzero array).length :=
    Nat.mod_eq_of_lt short
  rcases nonzeroAverage_value ops few (by rw [unsigned]; exact several) fits with
    ⟨mean, deviation, value, number⟩
  rw [averaged] at value
  cases value
  rw [number, unsigned, ← (qsortUint64_perm (nonzero array)).length_eq, List.take_length,
    sum_qsortUint64]

/-- Counts of the collections, in the arrays of the code. -/
theorem Aggregable.lengths (fit : Aggregable clients) :
    1 < (nonzero (allSamples clients)).length ∧
      (nonzero (allSamples clients)).length < 0x100000000 ∧
      1 < (nonzero (clients.map NfsReport.time)).length := by
  have samples := card_rttValues (nonzero (allSamples clients))
  have times := card_rttValues (nonzero (clients.map NfsReport.time))
  rw [rttValues_nonzero_allSamples] at samples
  rw [rttValues_nonzero_times] at times
  exact ⟨samples ▸ fit.severalLatencies, samples ▸ fit.count, times ▸ fit.severalRuntimes⟩

/-- There is a line for clients whose numbers fit, with memory for all of them. -/
theorem Aggregable.printable (fit : Aggregable clients)
    (available : ∀ size ≤ 8 * max clients.length (allSamples clients).length, malloc size = true) :
    Printable malloc clients := by
  have lengths := fit.lengths
  constructor
  · exact available _ (Nat.mul_le_mul_left 8 (Nat.le_max_left _ _))
  · apply granted_of_available available
    rw [Nat.zero_add]
    exact Nat.mul_le_mul_left 8 (Nat.le_max_right _ _)
  · exact fit.zeros
  · rw [asUnsigned, Nat.mod_eq_of_lt lengths.2.1]
    exact lengths.1
  · exact lengths.2.2

include each bounded

/-- The same line is printed for the clients in another order. -/
theorem nfsLatencyOutput_of_perm {others : List NfsReport}
    (same : others.Perm clients) (fit : Aggregable clients)
    (available : ∀ size ≤ 8 * max clients.length (allSamples clients).length, malloc size = true) :
    nfsLatencyOutput ops order malloc (others.map (NfsReport.entry order)) =
      nfsLatencyOutput ops order malloc (clients.map (NfsReport.entry order)) := by
  have samples : (allSamples others).Perm (allSamples clients) := same.flatMap_right _
  have printable := fit.printable malloc available
  have requests := fit.sendsFit
  have replies := fit.recvsFit
  have sends := (same.map fun report => report.sends.toNat).sum_nat
  have recvs := (same.map fun report => report.recvs.toNat).sum_nat
  have granted : Granted malloc 0 others := by
    apply granted_of_available available
    rw [Nat.zero_add, samples.length_eq]
    exact Nat.mul_le_mul_left 8 (Nat.le_max_right _ _)
  rw [nfsLatencyOutput_granted ops order malloc
      (fun report member => each report (same.mem_iff.mp member)) (same.length_eq ▸ bounded)
      (same.length_eq ▸ printable.runtimes) granted,
    nfsLatencyOutput_granted ops order malloc each bounded printable.runtimes printable.samples]
  congr 1
  apply printLine_of_perm
  · rw [← UInt64.toNat_inj, allTotals_totRequests others (by omega),
      allTotals_totRequests clients (by omega), sends]
  · rw [← UInt64.toNat_inj, allTotals_totReplies others (by omega),
      allTotals_totReplies clients (by omega), recvs]
  · rw [allTotals_runtime, allTotals_runtime]
    exact same.map _
  · rw [allTotals_aggregate, allTotals_aggregate]
    exact samples

/-- For every list of clients with at least one sample each, whose numbers fit: the
line shows the figures of all latencies and of all running times that are not zero,
and it is the same for the clients in every order. -/
theorem nfsLatencyOutput_aggregates (fit : Aggregable clients)
    (available : ∀ size ≤ 8 * max clients.length (allSamples clients).length, malloc size = true) :
    ∃ line, line.Aggregates clients ∧ ∀ others : List NfsReport, others.Perm clients →
      nfsLatencyOutput ops order malloc (others.map (NfsReport.entry order)) =
        some (.line line) := by
  have lengths := fit.lengths
  have unsigned := asUnsigned_runtimes bounded
  rcases nfsLatencyOutput_line ops order malloc each bounded (fit.printable malloc available)
    fit.samplesFit fit.runtimesFit with
    ⟨line, avgLatency, stddevL, avgRuntime, stddevR, printed, latencies, times, shows⟩
  have short : (nonzero (clients.map NfsReport.time)).length < 0x100000000 := by
    rw [← unsigned.1]
    exact Nat.mod_lt _ (by decide)
  have latency := nonzeroAverage_mean ops fit.zeros lengths.1 lengths.2.1 fit.samplesFit latencies
  have runtime := nonzeroAverage_mean ops unsigned.2 lengths.2.2 short fit.runtimesFit times
  have divisor : avgRuntime.toNat = (allRuntimes clients).sum / (allRuntimes clients).card := by
    rw [runtime, ← rttValues_nonzero_times, card_rttValues]
  have requests := allTotals_totRequests clients (by have := fit.sendsFit; omega)
  have replies := allTotals_totReplies clients (by have := fit.recvsFit; omega)
  refine ⟨line, ?_, ?_⟩
  · constructor
    · rw [← rttValues_nonzero_allSamples]
      exact figures_of_sorted shows.minLatency (shows.averageLatency ▸ latency)
        shows.medianLatency shows.maxLatency
    · rw [shows.samples, ← rttValues_nonzero_allSamples, card_rttValues,
        (qsortUint64_perm _).length_eq]
      exact UInt64.toNat_ofNat_of_lt' (by simp only [UInt64.size]; omega)
    · rw [← rttValues_nonzero_times]
      exact figures_of_sorted shows.minRuntime (shows.averageRuntime ▸ runtime)
        shows.medianRuntime shows.maxRuntime
    · rw [shows.requestRate, ← divisor, ← requests]
      exact rate_toNat (by rw [requests]; exact fit.sendsFit)
    · rw [shows.replyRate, ← divisor, ← replies]
      exact rate_toNat (by rw [replies]; exact fit.recvsFit)
  · intro others same
    rw [nfsLatencyOutput_of_perm ops order malloc each bounded same fit available]
    exact printed

end Clients

theorem nfsLatencyOutput_aggregates_two :
    ∃ line, line.Aggregates [twoSampleReport 10, twoSampleReport 12] ∧
      ∀ others : List NfsReport, others.Perm [twoSampleReport 10, twoSampleReport 12] →
        nfsLatencyOutput exactOps .little (fun _ => true)
          (others.map (NfsReport.entry .little)) = some (.line line) :=
  nfsLatencyOutput_aggregates exactOps .little (fun _ => true) (by simp [twoSampleReport])
    (by decide) (by constructor <;> decide) (fun _ _ => rfl)

def withoutSamples (time : UInt64) : NfsReport where
  time := time
  sends := 0
  recvs := 0
  data := []
  valid := true
  fits := by decide

/-- A client without samples fails the assertion on their number. -/
theorem withoutSamples_aborts :
    Aggregable [twoSampleReport 10, withoutSamples 12] ∧
      nfsLatencyOutput exactOps .little (fun _ => true)
        ([twoSampleReport 10, withoutSamples 12].map (NfsReport.entry .little)) = none :=
  ⟨by constructor <;> decide, by decide⟩

end Nfs
end Ipbench
