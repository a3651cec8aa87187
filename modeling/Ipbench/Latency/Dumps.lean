import Ipbench.Foundation.CText
import Ipbench.Latency.Output
import Ipbench.LatencyCheck.BadPackets

namespace Ipbench
namespace Latency

open Foundation

/-!
# The dumps of the samples

With `dump_dir` set, each turn of the loop of `latency_output` also writes a
file for its client.  The lines are taken from the front of the array that all
clients' samples are copied to, so every file shows the samples of the first
client.

The tests latency and latency-check have the same loop and differ in the length
of the header before the samples.
-/

/-! ## The code -/

inductive LatencyTest where
  | latency
  | latencyCheck
deriving DecidableEq, Repr

/-- The number of words before the samples. -/
def LatencyTest.width : LatencyTest → Nat
  | .latency => 8
  | .latencyCheck => 9

/-- The turn of the loop without the dump. -/
def LatencyTest.addClient : LatencyTest → ByteOrder → UInt64 → Totals → Option ClientData →
    Option Totals
  | .latency => Latency.addClient
  | .latencyCheck => LatencyCheck.addClient

/-- The same turn for a header of any length, which ends with the throughputs. -/
def addMessage (width : Nat) (order : ByteOrder) (samples : UInt64) (totals : Totals)
    (entry : Option ClientData) : Option Totals := do
  let client ← entry
  let theresult ← client.data
  let rtts ← readWords order theresult width samples.toNat
  let requested ← readWord order theresult (width - 3)
  let achieved ← readWord order theresult (width - 2)
  let sent ← readWord order theresult (width - 1)
  let size ← readWord order theresult 2
  some
    { totalRequestedThroughput := totals.totalRequestedThroughput + requested
      totalAchievedThroughput := totals.totalAchievedThroughput + achieved
      totalSentThroughput := totals.totalSentThroughput + sent
      packetSize := size
      rttTotals := totals.rttTotals ++ rtts }

theorem LatencyTest.addClient_eq (test : LatencyTest) :
    test.addClient = addMessage test.width := by
  cases test with
  | latency => rfl
  | latencyCheck => rfl

/-- The options of the controller, and which of the files can be opened. -/
structure DumpHost where
  dumpDir : List UInt8
  dumpPrefix : Option (List UInt8)
  maxpathlen : Nat
  fopen : Nat → Bool

/-- The format `"%s/%s_%d.dmp"`, cut off at the length of the buffer. -/
def dumpFilename (host : DumpHost) (i : Nat) : List UInt8 :=
  (host.dumpDir ++ literal "/" ++ host.dumpPrefix.getD (literal "(null)") ++ literal "_" ++
    decimal i ++ literal ".dmp").take (host.maxpathlen - 1)

/-- The contents of the files that have been written, by name. -/
def Files : Type := List UInt8 → Option (List UInt8)

def noFiles : Files := fun _ => none

/-- A file that is opened with `"w"` is written from its beginning. -/
def Files.write (files : Files) (name content : List UInt8) : Files :=
  fun other => if other = name then some content else files other

/-- One turn of the loop.  A stream that could not be opened is used all the
same, since the descriptor of the client's socket is checked in its place. -/
def dumpClient (test : LatencyTest) (order : ByteOrder) (samples : UInt64) (host : DumpHost)
    (state : Totals × Files) (next : Option ClientData × Nat) : Option (Totals × Files) := do
  let totals ← test.addClient order samples state.1 next.1
  if host.fopen next.2 then
    some (totals, state.2.write (dumpFilename host next.2)
      (numberLines ((totals.rttTotals.take samples.toNat).map printed)))
  else none

/-- The files that `latency_output` writes. -/
def latencyDumps (test : LatencyTest) (order : ByteOrder) (malloc : Nat → Bool) (host : DumpHost)
    (controller : Controller) : Option Files :=
  let samples := controller.samples
  let nelem := controller.clientData.length
  let size := (samples * 8 * UInt64.ofNat nelem).toNat
  if malloc size then do
    let (totals, files) ← controller.clientData.zipIdx.foldlM (dumpClient test order samples host)
      (noTotals, noFiles)
    if size < 8 * totals.rttTotals.length then none else some files
  else some noFiles

/-- A turn with its file adds up what the turn that prints the line adds up. -/
theorem dumpClient_totals (order : ByteOrder) (samples : UInt64) (host : DumpHost)
    (state : Totals × Files) (next : Option ClientData × Nat) :
    (dumpClient .latency order samples host state next).map Prod.fst =
      addDumped order samples (some host.fopen) state.1 next := by
  unfold dumpClient addDumped
  simp only [LatencyTest.addClient, Option.all_some, Option.bind_eq_bind, Option.map_bind]
  congr 1
  funext totals
  dsimp only [Function.comp]
  split
  · rfl
  · rfl

theorem foldlM_dumpClient_totals (order : ByteOrder) (samples : UInt64) (host : DumpHost)
    (entries : List (Option ClientData × Nat)) (state : Totals × Files) :
    (entries.foldlM (dumpClient .latency order samples host) state).map Prod.fst =
      entries.foldlM (addDumped order samples (some host.fopen)) state.1 := by
  induction entries generalizing state with
  | nil => rfl
  | cons entry rest inductionHypothesis =>
      rw [List.foldlM_cons, List.foldlM_cons, ← dumpClient_totals]
      cases dumpClient .latency order samples host state entry with
      | none => rfl
      | some next => exact inductionHypothesis next

/-- A call that prints its line has written its files. -/
theorem latencyDumps_of_line {order : ByteOrder} {malloc : Nat → Bool} {host : DumpHost}
    {controller : Controller} {line : OutputLine}
    (output : latencyOutput order malloc (some host.fopen) controller = some (.line line)) :
    ∃ files, latencyDumps .latency order malloc host controller = some files := by
  unfold latencyOutput at output
  unfold latencyDumps
  dsimp only at output ⊢
  split at output
  · next granted =>
      rcases Option.bind_eq_some_iff.mp output with ⟨totals, looped, rest⟩
      rw [← foldlM_dumpClient_totals order controller.samples host _ (noTotals, noFiles)] at looped
      rcases Option.map_eq_some_iff.mp looped with ⟨⟨same, files⟩, dumped, rfl⟩
      refine ⟨files, ?_⟩
      rw [if_pos granted, dumped]
      dsimp only [Option.bind_eq_bind, Option.bind_some]
      split at rest
      · cases rest
      · next inside => rw [if_neg inside]
  · cases output

/-! ## What the controller has received -/

/-- The words of the message of a client. -/
structure Report (test : LatencyTest) where
  header : List UInt64
  rtts : List UInt64
  whole : header.length = test.width

namespace Report

variable {test : LatencyTest} (order : ByteOrder) (report : Report test)

def entry : Option ClientData :=
  some
    { data := some (storeWords order (report.header ++ report.rtts))
      size := (8 * (report.header.length + report.rtts.length) : Nat)
      valid := true }

theorem readWords_report (count : Nat) :
    readWords order (storeWords order (report.header ++ report.rtts)) test.width count =
      if count ≤ report.rtts.length then some (report.rtts.take count) else none := by
  by_cases enough : count ≤ report.rtts.length
  · have inside := readWords_inside order report.header (report.rtts.take count)
      (report.rtts.drop count)
    rw [List.take_append_drop, List.length_take, Nat.min_eq_left enough, report.whole] at inside
    rw [if_pos enough, inside]
  · rw [if_neg enough]
    apply readWords_outside
    · rw [storeWords_length, List.length_append, report.whole]
      omega
    · omega

theorem readWord_report (index : Nat) (inside : index < test.width) :
    ∃ word, readWord order (storeWords order (report.header ++ report.rtts)) index =
      some word := by
  rw [← report.whole] at inside
  refine ⟨report.header[index], readWord_getElem order _ ?_⟩
  rw [List.getElem?_append_left inside, List.getElem?_eq_getElem inside]

/-- A turn of the loop reads as many samples as the global variable says. -/
theorem addClient_report (samples : UInt64) (totals : Totals) :
    ∃ next : Totals, next.rttTotals = totals.rttTotals ++ report.rtts.take samples.toNat ∧
      test.addClient order samples totals (report.entry order) =
        if samples.toNat ≤ report.rtts.length then some next else none := by
  have large : 8 ≤ test.width := by
    cases test <;> decide
  rcases report.readWord_report order (test.width - 3) (by omega) with ⟨requested, readRequested⟩
  rcases report.readWord_report order (test.width - 2) (by omega) with ⟨achieved, readAchieved⟩
  rcases report.readWord_report order (test.width - 1) (by omega) with ⟨sent, readSent⟩
  rcases report.readWord_report order 2 (by omega) with ⟨size, readSize⟩
  refine ⟨{ totalRequestedThroughput := totals.totalRequestedThroughput + requested
            totalAchievedThroughput := totals.totalAchievedThroughput + achieved
            totalSentThroughput := totals.totalSentThroughput + sent
            packetSize := size
            rttTotals := totals.rttTotals ++ report.rtts.take samples.toNat }, rfl, ?_⟩
  simp only [LatencyTest.addClient_eq, addMessage, entry, Option.bind_eq_bind, Option.bind_some,
    report.readWords_report order, readRequested, readAchieved, readSent, readSize]
  split
  · rfl
  · rfl

/-- What the dump of a client shows when its turn comes after `before`. -/
theorem dumpClient_report (samples : UInt64) (host : DumpHost) (state : Totals × Files) (i : Nat) :
    ∃ next : Totals × Files,
      next.1.rttTotals = state.1.rttTotals ++ report.rtts.take samples.toNat ∧
      next.2 = state.2.write (dumpFilename host i)
        (numberLines ((next.1.rttTotals.take samples.toNat).map printed)) ∧
      dumpClient test order samples host state (report.entry order, i) =
        if samples.toNat ≤ report.rtts.length ∧ host.fopen i = true then some next else none := by
  rcases report.addClient_report order samples state.1 with ⟨totals, copied, added⟩
  refine ⟨(totals, state.2.write (dumpFilename host i)
    (numberLines ((totals.rttTotals.take samples.toNat).map printed))), copied, rfl, ?_⟩
  simp only [dumpClient, added]
  by_cases enough : samples.toNat ≤ report.rtts.length
  · simp [enough]
  · simp [enough]

end Report

/-! ## The loop -/

section Loop

variable {test : LatencyTest} {order : ByteOrder} {samples : UInt64} {host : DumpHost}

theorem Files.write_same (files : Files) (name content : List UInt8) :
    files.write name content name = some content := if_pos rfl

/-- Writing one content does not take it away from another file. -/
theorem Files.write_keeps {files : Files} {name content other : List UInt8}
    (before : files other = some content) : files.write name content other = some content := by
  by_cases same : other = name
  · rw [same, Files.write_same]
  · exact (if_neg same).trans before

/-- The turns after the first one.  Each dump has the same content, and the
copies come one behind the other. -/
theorem foldlM_dumpClient {reports : List (Report test)} {first : Nat}
    {state finish : Totals × Files} {front : List UInt64}
    (starts : state.1.rttTotals.take samples.toNat = front)
    (filled : samples.toNat ≤ state.1.rttTotals.length)
    (dumped : ((reports.map (Report.entry order)).zipIdx first).foldlM
      (dumpClient test order samples host) state = some finish) :
    finish.1.rttTotals.length = state.1.rttTotals.length + reports.length * samples.toNat ∧
      (∀ i, i < reports.length → host.fopen (first + i) = true ∧
        finish.2 (dumpFilename host (first + i)) = some (numberLines (front.map printed))) ∧
      ∀ name, state.2 name = some (numberLines (front.map printed)) →
        finish.2 name = some (numberLines (front.map printed)) := by
  induction reports generalizing first state with
  | nil =>
      cases dumped
      exact ⟨by simp, fun i below => absurd below (Nat.not_lt_zero i), fun _ kept => kept⟩
  | cons report rest inductionHypothesis =>
      rcases report.dumpClient_report order samples host state first with
        ⟨next, copied, written, turn⟩
      rw [List.map_cons, List.zipIdx_cons, List.foldlM_cons, turn] at dumped
      split at dumped
      · next good =>
          have front' : next.1.rttTotals.take samples.toNat = front := by
            rw [copied, List.take_append_of_le_length filled, starts]
          have length : next.1.rttTotals.length = state.1.rttTotals.length + samples.toNat := by
            rw [copied, List.length_append, List.length_take, Nat.min_eq_left good.1]
          rcases inductionHypothesis front' (length ▸ Nat.le_add_right_of_le filled) dumped with
            ⟨total, later, kept⟩
          rw [front'] at written
          refine ⟨?_, ?_, ?_⟩
          · rw [total, length, List.length_cons, Nat.succ_mul]
            omega
          · intro i below
            cases i with
            | zero =>
                refine ⟨good.2, kept _ ?_⟩
                rw [written]
                exact Files.write_same _ _ _
            | succ i =>
                rw [Nat.add_comm i 1, ← Nat.add_assoc]
                exact later i (Nat.lt_of_succ_lt_succ below)
          · intro name before
            apply kept
            rw [written]
            exact Files.write_keeps before
      · cases dumped

/-- The loop ends when every client has enough samples and every file can be
opened. -/
theorem foldlM_dumpClient_ends {reports : List (Report test)} {first : Nat}
    {state : Totals × Files}
    (enough : ∀ report ∈ reports, samples.toNat ≤ report.rtts.length)
    (opened : ∀ i, i < reports.length → host.fopen (first + i) = true) :
    ∃ finish, ((reports.map (Report.entry order)).zipIdx first).foldlM
      (dumpClient test order samples host) state = some finish := by
  induction reports generalizing first state with
  | nil => exact ⟨state, rfl⟩
  | cons report rest inductionHypothesis =>
      rcases report.dumpClient_report order samples host state first with ⟨next, _, _, turn⟩
      rw [if_pos ⟨enough report List.mem_cons_self, opened 0 (Nat.zero_lt_succ _)⟩] at turn
      rw [List.map_cons, List.zipIdx_cons, List.foldlM_cons, turn]
      apply inductionHypothesis
      · exact fun other member => enough other (List.mem_cons_of_mem _ member)
      · intro i below
        rw [Nat.add_assoc, Nat.add_comm 1 i]
        exact opened (i + 1) (Nat.succ_lt_succ below)

/-- The whole loop.  Each dump shows what was copied from the first client. -/
theorem foldlM_dumpClient_all {first : Report test} {rest : List (Report test)}
    {finish : Totals × Files}
    (dumped : (((first :: rest).map (Report.entry order)).zipIdx).foldlM
      (dumpClient test order samples host) (noTotals, noFiles) = some finish) :
    finish.1.rttTotals.length = (first :: rest).length * samples.toNat ∧
      samples.toNat ≤ first.rtts.length ∧
      ∀ i, i < (first :: rest).length → host.fopen i = true ∧
        finish.2 (dumpFilename host i) =
          some (numberLines ((first.rtts.take samples.toNat).map printed)) := by
  rcases first.dumpClient_report order samples host (noTotals, noFiles) 0 with
    ⟨next, copied, written, turn⟩
  rw [List.map_cons, List.zipIdx_cons, List.foldlM_cons, turn] at dumped
  split at dumped
  · next good =>
      have all : next.1.rttTotals = first.rtts.take samples.toNat := copied
      have length : next.1.rttTotals.length = samples.toNat := by
        rw [all, List.length_take, Nat.min_eq_left good.1]
      have front : next.1.rttTotals.take samples.toNat = first.rtts.take samples.toNat := by
        rw [all, List.take_take, Nat.min_self]
      rcases foldlM_dumpClient front (Nat.le_of_eq length.symm) dumped with ⟨total, later, kept⟩
      refine ⟨?_, good.1, ?_⟩
      · rw [total, length, List.length_cons, Nat.succ_mul, Nat.add_comm]
      · intro i below
        cases i with
        | zero =>
            refine ⟨good.2, kept _ ?_⟩
            rw [written, front]
            exact Files.write_same _ _ _
        | succ i =>
            rw [Nat.add_comm i 1]
            exact later i (Nat.lt_of_succ_lt_succ below)
  · cases dumped

end Loop

/-! ## Whose samples are in the files -/

section Own

variable {test : LatencyTest}

/-- The controller when all messages have arrived. -/
def received (order : ByteOrder) (samples : UInt64) (reports : List (Report test)) :
    Controller where
  samples := samples
  clientData := reports.map (Report.entry order)

/-- The file of each client shows its samples, one on each line. -/
def DumpsOwn (order : ByteOrder) (malloc : Nat → Bool) (host : DumpHost) (samples : UInt64)
    (reports : List (Report test)) : Prop :=
  ∀ clientid report, reports[clientid]? = some report →
    ∃ files, latencyDumps test order malloc host (received order samples reports) = some files ∧
      files (dumpFilename host clientid) =
        some (numberLines (report.rtts.map fun rtt => (rtt.toNat : Int)))

/-- All clients have reported the same samples, which are positive as signed
integers and fit into the memory, and all files can be opened. -/
structure Alike (malloc : Nat → Bool) (host : DumpHost) (samples : UInt64)
    (reports : List (Report test)) (rtts : List UInt64) : Prop where
  equal : ∀ report ∈ reports, report.rtts = rtts
  counted : samples.toNat = rtts.length
  signed : ∀ rtt ∈ rtts, rtt.toNat < 0x8000000000000000
  fits : 8 * (reports.length * rtts.length) < 0x10000000000000000
  granted : malloc (8 * (reports.length * rtts.length)) = true
  opened : ∀ clientid, clientid < reports.length → host.fopen clientid = true

/-- Signed and unsigned lines agree on small numbers only. -/
theorem map_printed_eq {shown own : List UInt64}
    (same : shown.map printed = own.map fun rtt => (rtt.toNat : Int)) :
    own = shown ∧ ∀ rtt ∈ own, rtt.toNat < 0x8000000000000000 := by
  induction shown generalizing own with
  | nil =>
      cases own with
      | nil => exact ⟨rfl, fun rtt member => absurd member List.not_mem_nil⟩
      | cons rtt others => exact absurd same.symm (List.cons_ne_nil _ _)
  | cons word rest inductionHypothesis =>
      cases own with
      | nil => exact absurd same (List.cons_ne_nil _ _)
      | cons rtt others =>
          rw [List.map_cons, List.map_cons, List.cons.injEq] at same
          rcases of_printed same.1 with ⟨value, small⟩
          rcases inductionHypothesis same.2 with ⟨later, signed⟩
          refine ⟨?_, List.forall_mem_cons.mpr ⟨small, signed⟩⟩
          rw [later, UInt64.toNat_inj.mp value]

section Call

variable {order : ByteOrder} {malloc : Nat → Bool} {host : DumpHost} {samples : UInt64}
  {first : Report test} {rest : List (Report test)}

theorem received_length :
    (received order samples (first :: rest)).clientData.length = (first :: rest).length :=
  List.length_map _

theorem received_samples : (received order samples (first :: rest)).samples = samples := rfl

/-- When there is a file for the first client, there is one for each, with the
samples of the first one. -/
theorem of_latencyDumps {files : Files}
    (dumped : latencyDumps test order malloc host (received order samples (first :: rest)) =
      some files) (written : files (dumpFilename host 0) ≠ none) :
    malloc (8 * ((first :: rest).length * samples.toNat)) = true ∧
      8 * ((first :: rest).length * samples.toNat) < 0x10000000000000000 ∧
      samples.toNat ≤ first.rtts.length ∧
      ∀ i, i < (first :: rest).length → host.fopen i = true ∧
        files (dumpFilename host i) =
          some (numberLines ((first.rtts.take samples.toNat).map printed)) := by
  unfold latencyDumps at dumped
  dsimp only at dumped
  rw [received_length, received_samples, totals_size] at dumped
  split at dumped
  · next granted =>
      rcases Option.bind_eq_some_iff.mp dumped with ⟨⟨totals, all⟩, looped, kept⟩
      rcases foldlM_dumpClient_all looped with ⟨length, enough, shown⟩
      dsimp only at kept length shown
      rw [length] at kept
      split at kept
      · cases kept
      · next inside =>
          have small := Nat.mod_lt (8 * ((first :: rest).length * samples.toNat))
            (show 0 < 0x10000000000000000 by decide)
          have whole : 8 * ((first :: rest).length * samples.toNat) < 0x10000000000000000 :=
            Nat.lt_of_le_of_lt (Nat.le_of_not_lt inside) small
          rw [Nat.mod_eq_of_lt whole] at granted
          cases kept
          exact ⟨granted, whole, enough, shown⟩
  · cases dumped
    exact absurd rfl written

/-- The files of a call with enough memory, samples and files. -/
theorem latencyDumps_eq (order : ByteOrder)
    (granted : malloc (8 * ((first :: rest).length * samples.toNat)) = true)
    (whole : 8 * ((first :: rest).length * samples.toNat) < 0x10000000000000000)
    (enough : ∀ report ∈ first :: rest, samples.toNat ≤ report.rtts.length)
    (opened : ∀ i, i < (first :: rest).length → host.fopen i = true) :
    ∃ files, latencyDumps test order malloc host (received order samples (first :: rest)) =
        some files ∧
      ∀ i, i < (first :: rest).length → files (dumpFilename host i) =
        some (numberLines ((first.rtts.take samples.toNat).map printed)) := by
  have opened' : ∀ i, i < (first :: rest).length → host.fopen (0 + i) = true := by
    intro i below
    rw [Nat.zero_add]
    exact opened i below
  have ended : ∃ finish, (((first :: rest).map (Report.entry order)).zipIdx).foldlM
      (dumpClient test order samples host) (noTotals, noFiles) = some finish :=
    foldlM_dumpClient_ends enough opened'
  rcases ended with ⟨finish, looped⟩
  rcases foldlM_dumpClient_all looped with ⟨length, _, shown⟩
  refine ⟨finish.2, ?_, fun i below => (shown i below).2⟩
  unfold latencyDumps
  dsimp only
  rw [received_length, received_samples, totals_size, Nat.mod_eq_of_lt whole, if_pos granted]
  change (((first :: rest).map (Report.entry order)).zipIdx.foldlM
    (dumpClient test order samples host) (noTotals, noFiles)).bind _ = _
  rw [looped, Option.bind_some, length, if_neg (Nat.lt_irrefl _)]

end Call

/-- The dumps show every client's own samples exactly when there is no client,
or all have the same samples, in memory that is granted and files that open. -/
theorem dumpsOwn_iff (order : ByteOrder) (malloc : Nat → Bool) (host : DumpHost)
    (samples : UInt64) (reports : List (Report test)) :
    DumpsOwn order malloc host samples reports ↔
      reports = [] ∨ ∃ rtts, Alike malloc host samples reports rtts := by
  cases reports with
  | nil => exact iff_of_true (fun clientid report found => by cases found) (Or.inl rfl)
  | cons first rest =>
      constructor
      · intro own
        right
        rcases own 0 first rfl with ⟨files, dumped, content⟩
        rcases of_latencyDumps dumped (by rw [content]; exact Option.some_ne_none _) with
          ⟨granted, whole, enough, shown⟩
        have same : ∀ report ∈ first :: rest, report.rtts = first.rtts.take samples.toNat ∧
            ∀ rtt ∈ report.rtts, rtt.toNat < 0x8000000000000000 := by
          intro report member
          rcases List.mem_iff_getElem?.mp member with ⟨clientid, found⟩
          rcases own clientid report found with ⟨again, dumpedAgain, content'⟩
          rw [dumped] at dumpedAgain
          have below : clientid < (first :: rest).length := (List.getElem?_eq_some_iff.mp found).1
          rw [← Option.some.inj dumpedAgain, (shown clientid below).2] at content'
          exact map_printed_eq (numberLines_injective (Option.some.inj content'))
        have length : (first.rtts.take samples.toNat).length = samples.toNat := by
          rw [List.length_take, Nat.min_eq_left enough]
        have front := (same first List.mem_cons_self).1
        refine ⟨first.rtts.take samples.toNat, ?_⟩
        exact
          { equal := fun report member => (same report member).1
            counted := length.symm
            signed := fun rtt member => (same first List.mem_cons_self).2 rtt (front ▸ member)
            fits := by rw [length]; exact whole
            granted := by rw [length]; exact granted
            opened := fun clientid below => (shown clientid below).1 }
      · rintro (empty | ⟨rtts, alike⟩)
        · cases empty
        · have enough : ∀ report ∈ first :: rest, samples.toNat ≤ report.rtts.length := by
            intro report member
            rw [alike.equal report member]
            exact Nat.le_of_eq alike.counted
          rcases latencyDumps_eq order (alike.counted ▸ alike.granted)
            (alike.counted ▸ alike.fits) enough alike.opened with ⟨files, dumped, shown⟩
          intro clientid report found
          have member := List.mem_of_getElem? found
          have lines : rtts.map printed = rtts.map fun rtt => (rtt.toNat : Int) :=
            List.map_congr_left fun rtt listed => printed_of_lt (alike.signed rtt listed)
          refine ⟨files, dumped, ?_⟩
          rw [shown clientid (List.getElem?_eq_some_iff.mp found).1,
            alike.equal first List.mem_cons_self, alike.equal report member, alike.counted,
            List.take_length, lines]

end Own

/-- The report of a latency client with one sample. -/
def reportOf (rtt : UInt64) : Report .latency where
  header := [0, 1, 0, 0, 0, 0, 0, 0]
  rtts := [rtt]
  whole := rfl

theorem second_dump_shows_first :
    let host : DumpHost :=
      { dumpDir := literal "/tmp", dumpPrefix := some (literal "run"), maxpathlen := 4096
        fopen := fun _ => true }
    ¬ DumpsOwn .little (fun _ => true) host 1 [reportOf 5, reportOf 7] ∧
      ∃ files, latencyDumps .latency .little (fun _ => true) host
          (received .little 1 [reportOf 5, reportOf 7]) = some files ∧
        files (literal "/tmp/run_1.dmp") = some (literal "5\n") := by
  intro host
  have shown : (latencyDumps .latency .little (fun _ => true) host
      (received .little 1 [reportOf 5, reportOf 7])).bind
        (fun files => files (literal "/tmp/run_1.dmp")) = some (literal "5\n") := by
    decide
  rcases Option.bind_eq_some_iff.mp shown with ⟨files, dumped, content⟩
  refine ⟨?_, files, dumped, content⟩
  intro own
  rcases own 1 (reportOf 7) rfl with ⟨again, dumpedAgain, own_⟩
  rw [dumped] at dumpedAgain
  have name : dumpFilename host 1 = literal "/tmp/run_1.dmp" := by decide
  rw [← Option.some.inj dumpedAgain, name, content] at own_
  exact absurd own_ (by decide)

end Latency
end Ipbench
