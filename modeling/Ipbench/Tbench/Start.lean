import Ipbench.Foundation.Attempt
import Ipbench.Tbench.LoadFile

namespace Ipbench
namespace Tbench

open Foundation

/-!
# A test of several children

`create_procs` connects each child to a server of its own, and `start_procs`
lets all of them read the same load file under their own names and waits for
them.  `_tbench_start` adds up what they have counted.

Both print a rate, for which they divide by the whole seconds that have passed:
a test of less than a second ends with a division by zero.
-/

/-! ## The code -/

/-- What surrounds a child: the buffers of both ends, what stands in the array of the line, and
what the network does to the connection and to each exchange. -/
structure Surroundings where
  link : Link
  line : List UInt8
  connect : Network
  networks : Nat → Network

/-- The process of a child: what it has counted and the lines it has read; `none` where it exits
early or leaves a buffer. -/
def childProcess (discards : Bool) (around : Surroundings) (id : Nat) (file : List UInt8) :
    Option (Child × Nat) :=
  match nbSetup discards around.connect around.link with
  | .error _ => none
  | .ok child =>
      (childRun discards around.networks id around.line file child).bind fun ended =>
        match ended with
        | .error _ => none
        | .ok finished => some finished

/-- `sig_alarm`: what it prints for each child and for a second.  The lines are counted in an
`int`, there is a child that has written its number, and there is no rate before a second has
passed. -/
def sigAlarm (children : List (Child × Nat)) (elapsed : UInt64) : Option (Nat × UInt64) :=
  let total := sumOf (children.map fun child => child.1.bytesIn + child.1.bytesOut)
  let totalLines := (children.map Prod.snd).sum
  if children ≠ [] ∧ totalLines < 0x80000000 ∧ elapsed / 1000000 ≠ 0 then
    some (totalLines / children.length, total / 1000000 / (elapsed / 1000000))
  else none

/-- `start_procs`.  The handler is called once more at the end, and `elapsed` is what its timer
shows there; the signals before that come after a second. -/
def startProcs (discards : Bool) (around : Nat → Surroundings) (numChildren : Nat)
    (elapsed : UInt64) (file : List UInt8) : Option (List (Child × Nat)) :=
  ((List.range numChildren).mapM fun id => childProcess discards (around id) id file).bind
    fun children => (sigAlarm children elapsed).map fun _ => children

structure ResultStruct where
  time : UInt64
  totalBytes : UInt64
deriving DecidableEq, Repr

/-- `_tbench_start`, which prints the throughput at the time `totalTime`. -/
def tbenchStart (discards : Bool) (around : Nat → Surroundings) (numChildren : Nat)
    (elapsed totalTime : UInt64) (file : List UInt8) : Option ResultStruct :=
  (startProcs discards around numChildren elapsed file).bind fun children =>
    if totalTime / 1000000 = 0 then none
    else
      some
        { time := totalTime
          totalBytes := sumOf (children.map fun child => child.1.bytesIn + child.1.bytesOut) }

/-! ## What it is for -/

def lineOperation (cname got : List UInt8) : Option Operation :=
  match meaning (lineWords cname got) with
  | some (.run operation) => some operation
  | _ => none

/-- The operations of a file, under the name of a child. -/
def operations (cname : List UInt8) (lines : List (List UInt8)) : List Operation :=
  lines.filterMap (lineOperation cname)

/-- The same operations, each with what happens to its exchange. -/
def scheduled (cname : List UInt8) (networks : Nat → Network) :
    (line : Nat) → (lines : List (List UInt8)) → List (Operation × Network)
  | _, [] => []
  | line, got :: rest =>
      match lineOperation cname got with
      | none => scheduled cname networks (line + 1) rest
      | some operation => (operation, networks line) :: scheduled cname networks (line + 1) rest

/-- What a line comes to is that it is skipped, or an operation with a size that is not
negative. -/
def Carried : Option LineEnd → Prop
  | some .skip => True
  | some (.run operation) => operation.Plain
  | _ => False

instance : DecidablePred Carried
  | none => .isFalse id
  | some .skip => .isTrue trivial
  | some (.run operation) => inferInstanceAs (Decidable operation.Plain)
  | some .oldFile => .isFalse id
  | some .unknown => .isFalse id

/-- A line that a child carries out or skips. -/
structure GoodLine (cname got : List UInt8) : Prop where
  fits : LineFits cname got
  settled : Settled (lineWords cname got)
  carried : Carried (meaning (lineWords cname got))

instance (cname got : List UInt8) : Decidable (GoodLine cname got) :=
  decidable_of_iff (_ ∧ _ ∧ _)
    ⟨fun good => ⟨good.1, good.2.1, good.2.2⟩, fun good => ⟨good.1, good.2, good.3⟩⟩

theorem carried_cases {ending : Option LineEnd} (carried : Carried ending) :
    ending = some .skip ∨ ∃ operation, ending = some (.run operation) ∧ operation.Plain := by
  cases ending with
  | none => cases carried
  | some ending =>
      cases ending with
      | skip => exact Or.inl rfl
      | run operation => exact Or.inr ⟨operation, rfl, carried⟩
      | oldFile => cases carried
      | unknown => cases carried

/-- The bytes that the operations read and write. -/
def bytesOf (operations : List Operation) : UInt64 :=
  sumOf (operations.map fun operation => operation.counted.1) +
    sumOf (operations.map fun operation => operation.counted.2)

/-! ## A child -/

/-- How the operations end the loop over the lines. -/
def loopEnd (lines : Nat) : Except Trouble Child → Except EarlyExit (Child × Nat)
  | .error trouble => .error (.failed trouble)
  | .ok child => .ok (child, lines)

/-- Good lines are the operations, one after another. -/
theorem runLines_good (discards : Bool) (networks : Nat → Network) {cname : List UInt8}
    {lines : List (List UInt8)} (good : ∀ got ∈ lines, GoodLine cname got) (child : Child)
    (line : Nat) :
    runLines discards networks cname lines child line =
      some (loopEnd (line + lines.length)
        (operateAll discards child (scheduled cname networks line lines))) := by
  induction lines generalizing child line with
  | nil => rfl
  | cons got rest inductionHypothesis =>
      rcases List.forall_mem_cons.mp good with ⟨here, later⟩
      have count : line + (got :: rest).length = line + 1 + rest.length := by
        rw [List.length_cons]
        omega
      rw [runLines, if_pos here.fits, scheduled, lineOperation, count]
      rcases carried_cases here.carried with skips | ⟨operation, runs, _⟩
      · rw [skips]
        exact inductionHypothesis later child (line + 1)
      · rw [runs, Option.bind_some]
        dsimp only
        rw [operateAll, List.foldlM_cons]
        cases operate discards child (operation, networks line) with
        | error trouble => rfl
        | ok next => exact inductionHypothesis later next (line + 1)

theorem scheduled_operations (cname : List UInt8) (networks : Nat → Network) (line : Nat)
    (lines : List (List UInt8)) :
    (scheduled cname networks line lines).map Prod.fst = operations cname lines := by
  induction lines generalizing line with
  | nil => rfl
  | cons got rest inductionHypothesis =>
      rw [scheduled, operations, List.filterMap_cons]
      cases lineOperation cname got with
      | none => exact inductionHypothesis (line + 1)
      | some operation => exact congrArg (List.cons operation) (inductionHypothesis (line + 1))

theorem scheduled_networks {networks : Nat → Network} (sends : ∀ line, (networks line).Sends)
    (cname : List UInt8) (line : Nat) (lines : List (List UInt8)) :
    ∀ item ∈ scheduled cname networks line lines, item.2.Sends := by
  induction lines generalizing line with
  | nil => exact fun item member => absurd member List.not_mem_nil
  | cons got rest inductionHypothesis =>
      rw [scheduled]
      cases lineOperation cname got with
      | none => exact inductionHypothesis (line + 1)
      | some operation =>
          exact List.forall_mem_cons.mpr ⟨sends line, inductionHypothesis (line + 1)⟩

theorem plain_operations {cname : List UInt8} {lines : List (List UInt8)}
    (good : ∀ got ∈ lines, GoodLine cname got) :
    ∀ operation ∈ operations cname lines, operation.Plain := by
  intro operation member
  rcases List.mem_filterMap.mp member with ⟨got, among, found⟩
  rw [lineOperation] at found
  rcases carried_cases (good got among).carried with skips | ⟨other, runs, plain⟩
  · rw [skips] at found
    cases found
  · rw [runs] at found
    cases found
    exact plain

/-- The buffers have their sizes, and no `send` fails. -/
structure Surroundings.Fine (around : Surroundings) : Prop where
  link : around.link.Whole
  line : around.line.length = lineSize
  connect : around.connect.Sends
  networks : ∀ line, (around.networks line).Sends

/-- A child with good lines finishes exactly if its operations stay within the buffers. -/
theorem childProcess_spec (discards : Bool) {around : Surroundings} (fine : around.Fine) (id : Nat)
    {file : List UInt8} (good : ∀ got ∈ fileLines file, GoodLine (clientName id) got) :
    ((∀ operation ∈ operations (clientName id) (fileLines file), operation.Fits) →
      ∃ child, childProcess discards around id file = some (child, (fileLines file).length) ∧
        child.bytesIn + child.bytesOut = bytesOf (operations (clientName id) (fileLines file))) ∧
    ((¬ ∀ operation ∈ operations (clientName id) (fileLines file), operation.Fits) →
      childProcess discards around id file = none) := by
  obtain ⟨link, setup, whole⟩ :=
    (doPackets_spec discards fine.connect fine.link (Nat.le_refl 8) (Nat.le_refl 8) (by decide)).1
      ⟨by decide, by decide⟩
  let child : Child := { link := link, bytesIn := 0, bytesOut := 0, complaints := 0 }
  have connected : nbSetup discards around.connect around.link = .ok child := by
    rw [nbSetup, setup]
    rfl
  let items := scheduled (clientName id) around.networks 0 (fileLines file)
  have names : items.map Prod.fst = operations (clientName id) (fileLines file) :=
    scheduled_operations _ _ _ _
  have plain : ∀ item ∈ items, item.1.Plain := fun item member =>
    plain_operations good item.1 (names ▸ List.mem_map_of_mem member)
  have ran : childRun discards around.networks id around.line file child =
      some (loopEnd (0 + (fileLines file).length) (operateAll discards child items)) := by
    rw [childRun, childLoop_eq discards around.networks (zero_not_mem_clientName id) _
      ⟨fine.line, List.length_replicate⟩ (Nat.lt_succ_self _)
      (fun got member => (good got member).settled)]
    exact runLines_good discards around.networks good child 0
  have fitting : (∀ operation ∈ operations (clientName id) (fileLines file), operation.Fits) ↔
      ∀ item ∈ items, item.1.Fits := by
    rw [← names, List.forall_mem_map]
  have childWhole : child.link.Whole := whole
  obtain ⟨completes, stops⟩ := operateAll_spec discards childWhole plain
    (scheduled_networks fine.networks (clientName id) 0 (fileLines file))
  rw [childProcess, connected, fitting]
  dsimp only
  rw [ran]
  constructor
  · intro fits
    rcases completes fits with ⟨last, done, completed⟩
    rw [done]
    refine ⟨last, by rw [Nat.zero_add]; rfl, ?_⟩
    rw [completed.bytesIn, completed.bytesOut, bytesOf, names]
    exact congrArg₂ HAdd.hAdd (UInt64.zero_add _) (UInt64.zero_add _)
  · intro outside
    rcases stops outside with ⟨trouble, failed, _⟩
    rw [failed]
    rfl

/-! ## All children -/

section Children

variable (discards : Bool) {around : Nat → Surroundings} (fine : ∀ id, (around id).Fine)
  {file : List UInt8}

include fine

/-- The children of some numbers all finish exactly if no operation of any leaves a buffer. -/
theorem processes_spec (ids : List Nat)
    (good : ∀ id ∈ ids, ∀ got ∈ fileLines file, GoodLine (clientName id) got) :
    ((∀ id ∈ ids, ∀ operation ∈ operations (clientName id) (fileLines file), operation.Fits) →
      ∃ children, ids.mapM (fun id => childProcess discards (around id) id file) = some children ∧
        children.map (fun child => child.1.bytesIn + child.1.bytesOut) =
          ids.map (fun id => bytesOf (operations (clientName id) (fileLines file))) ∧
        ∀ child ∈ children, child.2 = (fileLines file).length) ∧
    ((¬ ∀ id ∈ ids, ∀ operation ∈ operations (clientName id) (fileLines file), operation.Fits) →
      ids.mapM (fun id => childProcess discards (around id) id file) = none) := by
  induction ids with
  | nil =>
      refine ⟨fun _ => ⟨[], rfl, rfl, ?_⟩, fun outside => absurd ?_ outside⟩
      · exact fun _ member => absurd member List.not_mem_nil
      · exact fun _ member => absurd member List.not_mem_nil
  | cons id ids inductionHypothesis =>
      rcases List.forall_mem_cons.mp good with ⟨goodHere, goodLater⟩
      rcases childProcess_spec discards (fine id) id goodHere with ⟨finishes, fails⟩
      rcases inductionHypothesis goodLater with ⟨others, stops⟩
      rw [List.mapM_cons, List.forall_mem_cons]
      constructor
      · rintro ⟨here, later⟩
        rcases finishes here with ⟨child, finished, bytes⟩
        rcases others later with ⟨children, ran, counted, lines⟩
        rw [finished, ran]
        refine ⟨(child, (fileLines file).length) :: children, rfl, ?_, ?_⟩
        · rw [List.map_cons, List.map_cons, bytes, counted]
        · exact List.forall_mem_cons.mpr ⟨rfl, lines⟩
      · intro outside
        by_cases here : ∀ operation ∈ operations (clientName id) (fileLines file), operation.Fits
        · rcases finishes here with ⟨child, finished, _⟩
          rw [finished, stops fun later => outside ⟨here, later⟩]
          rfl
        · rw [fails here]
          rfl

end Children

/-! ## Main result -/

/-- The handler has a rate for some children as soon as a second has passed. -/
theorem sigAlarm_isSome {children : List (Child × Nat)} {lines : Nat}
    (read : ∀ child ∈ children, child.2 = lines)
    (few : children.length * lines < 0x80000000) (elapsed : UInt64) :
    (sigAlarm children elapsed).isSome = true ↔ children ≠ [] ∧ elapsed / 1000000 ≠ 0 := by
  have all : children.map Prod.snd = List.replicate children.length lines := by
    rw [List.eq_replicate_iff]
    refine ⟨List.length_map _, fun count member => ?_⟩
    rcases List.mem_map.mp member with ⟨child, among, rfl⟩
    exact read child among
  have counted : (children.map Prod.snd).sum = children.length * lines := by
    rw [all, List.sum_replicate_nat]
  unfold sigAlarm
  dsimp only
  rw [counted]
  split
  · next shown => exact iff_of_true rfl ⟨shown.1, shown.2.2⟩
  · next hidden =>
      exact iff_of_false (by simp) fun passed => hidden ⟨passed.1, few, passed.2⟩

/-- The test ends with a total exactly if there are children, no operation of any child leaves a
buffer and both timers show a whole second, however the network cuts the streams.  The total is what the
operations of all children read and write, and each child has read every line. -/
theorem tbenchStart_total (discards : Bool) {around : Nat → Surroundings}
    (fine : ∀ id, (around id).Fine) (numChildren : Nat) (elapsed totalTime : UInt64)
    {file : List UInt8}
    (good : ∀ id < numChildren, ∀ got ∈ fileLines file, GoodLine (clientName id) got)
    (few : numChildren * (fileLines file).length < 0x80000000) :
    ((∃ result, tbenchStart discards around numChildren elapsed totalTime file = some result) ↔
      (∀ id < numChildren, ∀ operation ∈ operations (clientName id) (fileLines file),
        operation.Fits) ∧ (numChildren ≠ 0 ∧ elapsed / 1000000 ≠ 0) ∧
          totalTime / 1000000 ≠ 0) ∧
    (∀ result, tbenchStart discards around numChildren elapsed totalTime file = some result →
      result.time = totalTime ∧
      result.totalBytes = sumOf ((List.range numChildren).map fun id =>
        bytesOf (operations (clientName id) (fileLines file)))) ∧
    ∀ children, startProcs discards around numChildren elapsed file = some children →
      ∀ child ∈ children, child.2 = (fileLines file).length := by
  have goodLines : ∀ id ∈ List.range numChildren, ∀ got ∈ fileLines file,
      GoodLine (clientName id) got := fun id member => good id (List.mem_range.mp member)
  have below : (∀ id ∈ List.range numChildren,
      ∀ operation ∈ operations (clientName id) (fileLines file), operation.Fits) ↔
        ∀ id < numChildren, ∀ operation ∈ operations (clientName id) (fileLines file),
          operation.Fits :=
    forall_congr' fun id => imp_congr_left List.mem_range
  rcases processes_spec discards fine (List.range numChildren) goodLines with ⟨finish, stop⟩
  rw [← below]
  unfold tbenchStart startProcs
  by_cases fits : ∀ id ∈ List.range numChildren,
      ∀ operation ∈ operations (clientName id) (fileLines file), operation.Fits
  · rcases finish fits with ⟨children, ran, counted, lines⟩
    have number : children.length = numChildren := by
      have lengths := congrArg List.length counted
      rwa [List.length_map, List.length_map, List.length_range] at lengths
    have rate := sigAlarm_isSome lines (number ▸ few) elapsed
    rw [ne_eq, ← List.length_eq_zero_iff, number] at rate
    rw [ran, Option.bind_some]
    cases shown : sigAlarm children elapsed with
    | none =>
        have early : ¬ (numChildren ≠ 0 ∧ elapsed / 1000000 ≠ 0) := by
          rw [← rate, shown]
          simp
        refine ⟨iff_of_false ?_ fun both => early both.2.1, ?_, ?_⟩
        · rintro ⟨_, impossible⟩
          cases impossible
        · intro _ impossible
          cases impossible
        · intro _ impossible
          cases impossible
    | some line =>
        have passed : numChildren ≠ 0 ∧ elapsed / 1000000 ≠ 0 := by
          rw [← rate, shown]
          rfl
        rw [Option.map_some, Option.bind_some]
        refine ⟨?_, ?_, ?_⟩
        · by_cases late : totalTime / 1000000 = 0
          · rw [if_pos late]
            refine iff_of_false ?_ fun both => both.2.2 late
            rintro ⟨_, impossible⟩
            cases impossible
          · rw [if_neg late]
            exact iff_of_true ⟨_, rfl⟩ ⟨fits, passed, late⟩
        · intro result same
          split at same
          · cases same
          · cases same
            exact ⟨rfl, congrArg sumOf counted⟩
        · intro others same
          cases same
          exact lines
  · rw [stop fits]
    refine ⟨iff_of_false ?_ fun both => fits both.1, ?_, ?_⟩
    · rintro ⟨_, impossible⟩
      cases impossible
    · intro _ impossible
      cases impossible
    · intro _ impossible
      cases impossible

/-- Streams that are cut everywhere, and a file of three lines. -/
def roughStart : Surroundings where
  link := emptyLink
  line := List.replicate lineSize 255
  connect := rough
  networks := fun _ => rough

def shortFile : List UInt8 :=
  literal "Unlink \\client1\\a\nWriteX 1 0 9 9\nReadX 1 0 7 7\n"

/-- Two children write nine bytes and read seven each, in three seconds. -/
theorem tbenchStart_total_pair :
    tbenchStart true (fun _ => roughStart) 2 3000000 3000001 shortFile =
      some { time := 3000001, totalBytes := 32 } := by
  have roughSends : rough.Sends := ⟨by decide, by decide⟩
  have fine : roughStart.Fine :=
    ⟨⟨List.length_replicate, List.length_replicate⟩, List.length_replicate, roughSends,
      fun _ => roughSends⟩
  have good : ∀ id < 2, ∀ got ∈ fileLines shortFile, GoodLine (clientName id) got := by
    decide +kernel
  have few : 2 * (fileLines shortFile).length < 0x80000000 := by decide +kernel
  rcases tbenchStart_total true (fun _ => fine) 2 3000000 3000001 good few with
    ⟨ends, totals, _⟩
  rcases ends.mpr ⟨by decide +kernel, by decide, by decide⟩ with ⟨⟨time, totalBytes⟩, started⟩
  have sum : sumOf ((List.range 2).map fun id =>
      bytesOf (operations (clientName id) (fileLines shortFile))) = 32 := by decide +kernel
  rcases totals _ started with ⟨rfl, rfl⟩
  rw [started, sum]

end Tbench
end Ipbench
