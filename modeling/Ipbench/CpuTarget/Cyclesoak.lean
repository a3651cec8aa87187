import Ipbench.CpuTarget.Sampling
import Ipbench.Foundation.CText
import Mathlib.Data.List.FinRange

namespace Ipbench
namespace CpuTarget

open Foundation

/-!
# Soaking up cycles

One busy loop on each processor counts what it can do beside the load of the target.
With every signal of the timer `itimer` takes the count of each loop since the last
signal.  During the calibration the counts of the fourth signal are kept.  Later a
load is what is missing from these counts, and the mean over all processors is stored
as one sample.

The memory of the counters is shared with the loops and is a fresh one after the
calibration, so every signal comes with the counters that it finds.  The clock is
read in microseconds.  What is computed in `double` is a parameter.

A trace names the divisors, the indices in the array of samples and the counts of the
intervals.  A division by zero ends the process, and nothing is said about what
follows it.
-/

/-- The operations on `double`, and printing a load as a percentage. -/
structure LoadOps (Double : Type) where
  zero : Double
  one : Double
  ofCount : UInt64 → Double
  ofInt : Int → Double
  add : Double → Double → Double
  sub : Double → Double → Double
  div : Double → Double → Double
  negative : Double → Bool
  percent : Double → List UInt8

/-- Exact arithmetic in the place of `double`, and percentages rounded to tenths. -/
def exactLoadOps : LoadOps Rat where
  zero := 0
  one := 1
  ofCount count := count.toNat
  ofInt number := number
  add := (· + ·)
  sub := (· - ·)
  div := (· / ·)
  negative load := load < 0
  percent load :=
    let tenths := (load * 1000 + 1 / 2).floor
    decimal (tenths / 10) ++ literal "." ++ decimal (tenths % 10)

inductive CycleEvent where
  /-- A sum of the type `int`. -/
  | sum (value : Int)
  /-- `blp[i]` before it is scaled. -/
  | counted (cpu : Nat) (blp : UInt64)
  | divide (divisor : Int)
  | loadIndex (i : Int)
deriving DecidableEq, Repr

/-- A signal of the timer, with the clock and the counters of the loops. -/
structure Tick (nrCpus : Nat) where
  now : Int
  busyloopProgress : Fin nrCpus → UInt64

structure Cyclesoak (nrCpus : Nat) (Double : Type) where
  doCalibrate : Bool
  calibrateState : Nat
  calibratedLoopsPerSec : Fin nrCpus → UInt64
  calibrationComplete : Bool
  alarmTime : Int
  oldBlp : Fin nrCpus → UInt64
  countsPerSec : Fin nrCpus → UInt64
  target : Target Double

/-- `delta`: the milliseconds since the last signal. -/
def interval (alarmTime now : Int) : UInt64 :=
  UInt64.ofInt (now - alarmTime) / 1000

variable {Double : Type} {nrCpus : Nat} (ops : LoadOps Double) (options : Options)

/-- `this_cpu_load[i]`. -/
def thisCpuLoad (blp counts : UInt64) : Double :=
  let load := ops.sub ops.one (ops.div (ops.ofCount blp) (ops.ofCount counts))
  if ops.negative load then ops.zero else load

def totalCpuLoad (blp counts : Fin nrCpus → UInt64) : Double :=
  (List.finRange nrCpus).foldl
    (fun total i =>
      ops.add total (ops.div (thisCpuLoad ops (blp i) (counts i)) (ops.ofInt nrCpus)))
    ops.zero

def storeEvents (target : Target Double) (load : Double) : List CycleEvent :=
  (itimer options target load).2.flatMap fun _ =>
    [.divide (nSamples options), .loadIndex ((target.cpuSamples : Int).tmod (nSamples options))]

def Cyclesoak.itimer (state : Cyclesoak nrCpus Double) (tick : Tick nrCpus) :
    Cyclesoak nrCpus Double × List CycleEvent :=
  let delta := interval state.alarmTime tick.now
  let difference := fun i => tick.busyloopProgress i - state.oldBlp i
  let blp := fun i => difference i * 1000 / delta
  let counted := (List.finRange nrCpus).flatMap fun (i : Fin nrCpus) =>
    [.counted i.val (difference i), .divide (delta.toNat : Int)]
  let next := { state with oldBlp := tick.busyloopProgress, alarmTime := tick.now }
  if state.doCalibrate then
    let fourth := state.calibrateState = 3
    ({ next with
        calibrateState := state.calibrateState + 1
        calibratedLoopsPerSec := if fourth then blp else state.calibratedLoopsPerSec
        calibrationComplete := if fourth then true else state.calibrationComplete },
      counted)
  else
    let load := totalCpuLoad ops blp state.countsPerSec
    ({ next with target := (CpuTarget.itimer options state.target load).1 },
      counted ++
        ((List.finRange nrCpus).flatMap fun (i : Fin nrCpus) =>
          [.divide ((state.countsPerSec i).toNat : Int), .divide (nrCpus : Int)]) ++
        storeEvents options state.target load)

def cyclesoakMachine :
    Machine (Cyclesoak nrCpus Double) (Tick nrCpus) CycleEvent where
  step := Cyclesoak.itimer ops options

/-- The static variables at the beginning, with the array of samples. -/
def cyclesoakStart (nrCpus : Nat) (Double : Type) (options : Options) :
    Cyclesoak nrCpus Double where
  doCalibrate := false
  calibrateState := 0
  calibratedLoopsPerSec := fun _ => 0
  calibrationComplete := false
  alarmTime := 0
  oldBlp := fun _ => 0
  countsPerSec := fun _ => 0
  target := cpuTargetSetup Double options

/-- `prep_cyclesoak`.  Outside the calibration it reads the counts that the calibration
has left in a file, and it ends the process when one of them is zero. -/
def Cyclesoak.prepCyclesoak (state : Cyclesoak nrCpus Double) (now : Int) :
    Option (Cyclesoak nrCpus Double) :=
  if state.doCalibrate then some { state with alarmTime := now }
  else if ∃ i, state.calibratedLoopsPerSec i = 0 then none
  else some { state with countsPerSec := state.calibratedLoopsPerSec, alarmTime := now }

/-- The signals of a session.  Some may come between the end of the calibration and the
moment when the timer is stopped. -/
structure Session (nrCpus : Nat) where
  calibrateAt : Int
  calibration : List (Tick nrCpus)
  stopping : List (Tick nrCpus)
  startAt : Int
  measurement : List (Tick nrCpus)

/-- The sizing of the array in `cpu_target_setup`. -/
def sizeEvents (options : Options) : List CycleEvent :=
  if options.cooldownTime ≠ 0 then
    [.sum (options.cooldownTime + 1), .divide options.periodSecs]
  else []

/-- The static variables when the timer is started for the calibration. -/
def Session.calibrationStart (session : Session nrCpus) : Cyclesoak nrCpus Double :=
  { cyclesoakStart nrCpus Double options with
    doCalibrate := true, alarmTime := session.calibrateAt }

def Session.calibrate (session : Session nrCpus) : Cyclesoak nrCpus Double × List CycleEvent :=
  (cyclesoakMachine ops options).run (session.calibrationStart options) session.calibration

def Cyclesoak.calibrated (state : Cyclesoak nrCpus Double) : Cyclesoak nrCpus Double :=
  { state with doCalibrate := false }

/-- The rest of `cpu_target_setup`, which stops the timer and clears the number of
samples. -/
def Session.stop (session : Session nrCpus) (state : Cyclesoak nrCpus Double) :
    Cyclesoak nrCpus Double × List CycleEvent :=
  let stopped := (cyclesoakMachine ops options).run state.calibrated session.stopping
  ({ stopped.1 with target := { stopped.1.target with cpuSamples := 0 } }, stopped.2)

/-- A whole session up to its end: `cpu_target_setup`, in which `calibrate` only returns
after the fourth signal, and `cpu_target_start`. -/
def Session.run (session : Session nrCpus) :
    Option (Cyclesoak nrCpus Double) × List CycleEvent :=
  let calibrated := session.calibrate ops options
  if calibrated.1.calibrationComplete then
    let stopped := session.stop ops options calibrated.1
    match stopped.1.prepCyclesoak session.startAt with
    | none => (none, sizeEvents options ++ calibrated.2 ++ stopped.2)
    | some ready =>
        let measured := (cyclesoakMachine ops options).run ready session.measurement
        (some measured.1, sizeEvents options ++ calibrated.2 ++ stopped.2 ++ measured.2)
  else (none, sizeEvents options ++ calibrated.2)

/-- The numbers in the message of the target.  A number that is computed from outside
the array, or from a cell that has never been written, is `none`: what lies there is
printed. -/
structure Marshalled where
  average : Option (List UInt8)
  figures : List (Option (List UInt8))
deriving DecidableEq, Repr

/-- `cpu_target_marshall` with `average_cpu`. -/
def cpuTargetMarshall (nrCpus : Nat) (target : Target Double) : Marshalled × List CycleEvent :=
  let added := (tosum options target.cpuSamples).toNat
  ({ average := (averageCpu ops.zero ops.add (fun sum i => ops.div sum (ops.ofInt i)) options
        target).map ops.percent
     figures :=
       (List.range nrCpus).map fun (i : Nat) => ((target.cpuLoad[i]?).join).map ops.percent },
    (List.range added).map (fun (i : Nat) => .loadIndex (i : Int)) ++ [.divide (added : Int)] ++
      (List.range nrCpus).map fun (i : Nat) => .loadIndex (i : Int))

/-- The clock shows a later millisecond with every signal. -/
def Advances : (alarmTime : Int) → (times : List Int) → Prop
  | _, [] => True
  | alarmTime, now :: rest => interval alarmTime now ≠ 0 ∧ Advances now rest

instance decidableAdvances : (alarmTime : Int) → (times : List Int) →
    Decidable (Advances alarmTime times)
  | _, [] => .isTrue trivial
  | _, now :: rest =>
      have := decidableAdvances now rest
      inferInstanceAs (Decidable (_ ∧ _))

/-! ## One signal -/

section Signal

variable (state : Cyclesoak nrCpus Double) (tick : Tick nrCpus)

@[simp] theorem Cyclesoak.itimer_doCalibrate :
    (state.itimer ops options tick).1.doCalibrate = state.doCalibrate := by
  unfold Cyclesoak.itimer
  dsimp only
  split <;> rfl

@[simp] theorem Cyclesoak.itimer_alarmTime :
    (state.itimer ops options tick).1.alarmTime = tick.now := by
  unfold Cyclesoak.itimer
  dsimp only
  split <;> rfl

@[simp] theorem Cyclesoak.itimer_oldBlp :
    (state.itimer ops options tick).1.oldBlp = tick.busyloopProgress := by
  unfold Cyclesoak.itimer
  dsimp only
  split <;> rfl

@[simp] theorem Cyclesoak.itimer_countsPerSec :
    (state.itimer ops options tick).1.countsPerSec = state.countsPerSec := by
  unfold Cyclesoak.itimer
  dsimp only
  split <;> rfl

theorem Cyclesoak.itimer_target_calibrating (calibrating : state.doCalibrate = true) :
    (state.itimer ops options tick).1.target = state.target := by
  unfold Cyclesoak.itimer
  dsimp only
  rw [if_pos calibrating]

theorem Cyclesoak.itimer_target_measuring (measuring : state.doCalibrate = false) :
    ∃ load, (state.itimer ops options tick).1.target =
      (CpuTarget.itimer options state.target load).1 := by
  unfold Cyclesoak.itimer
  dsimp only
  rw [if_neg (by rw [measuring]; exact Bool.false_ne_true)]
  exact ⟨_, rfl⟩

theorem Cyclesoak.itimer_calibratedLoops_measuring (measuring : state.doCalibrate = false) :
    (state.itimer ops options tick).1.calibratedLoopsPerSec = state.calibratedLoopsPerSec := by
  unfold Cyclesoak.itimer
  dsimp only
  rw [if_neg (by rw [measuring]; exact Bool.false_ne_true)]

end Signal

/-! ## Many signals -/

section Signals

variable {ops options} {state : Cyclesoak nrCpus Double} (ticks : List (Tick nrCpus))

theorem run_doCalibrate :
    ((cyclesoakMachine ops options).run state ticks).1.doCalibrate = state.doCalibrate :=
  (cyclesoakMachine ops options).run_state_invariant
    (fun reached => reached.doCalibrate = state.doCalibrate)
    (fun reached _ tick same _ => (reached.itimer_doCalibrate ops options tick).trans same) rfl
    ((cyclesoakMachine ops options).along_true _ [] ticks)

theorem run_countsPerSec :
    ((cyclesoakMachine ops options).run state ticks).1.countsPerSec = state.countsPerSec :=
  (cyclesoakMachine ops options).run_state_invariant
    (fun reached => reached.countsPerSec = state.countsPerSec)
    (fun reached _ tick same _ => (reached.itimer_countsPerSec ops options tick).trans same) rfl
    ((cyclesoakMachine ops options).along_true _ [] ticks)

theorem run_target_calibrating (calibrating : state.doCalibrate = true) :
    ((cyclesoakMachine ops options).run state ticks).1.target = state.target := by
  have unchanged := (cyclesoakMachine ops options).run_state_invariant
    (fun reached => reached.doCalibrate = true ∧ reached.target = state.target)
    (fun reached _ tick same _ => ⟨(reached.itimer_doCalibrate ops options tick).trans same.1,
      (reached.itimer_target_calibrating ops options tick same.1).trans same.2⟩)
    ⟨calibrating, rfl⟩ ((cyclesoakMachine ops options).along_true _ [] ticks)
  exact unchanged.2

theorem run_calibratedLoops_measuring (measuring : state.doCalibrate = false) :
    ((cyclesoakMachine ops options).run state ticks).1.calibratedLoopsPerSec =
      state.calibratedLoopsPerSec := by
  have unchanged := (cyclesoakMachine ops options).run_state_invariant
    (fun reached => reached.doCalibrate = false ∧
      reached.calibratedLoopsPerSec = state.calibratedLoopsPerSec)
    (fun reached _ tick same _ => ⟨(reached.itimer_doCalibrate ops options tick).trans same.1,
      (reached.itimer_calibratedLoops_measuring ops options tick same.1).trans same.2⟩)
    ⟨measuring, rfl⟩ ((cyclesoakMachine ops options).along_true _ [] ticks)
  exact unchanged.2

end Signals

/-! ## The warmup -/

/-- The number of signals during the warmup. -/
def warmupTicks (options : Options) : Nat :=
  ((options.warmupTime + options.periodSecs - 1) / options.periodSecs).toNat

theorem lt_warmupTicks_iff {options : Options} (period : 1 ≤ options.periodSecs) (count : Nat) :
    count < warmupTicks options ↔ count * options.periodSecs < options.warmupTime := by
  rw [warmupTicks, Int.lt_toNat, Int.lt_iff_add_one_le, Int.le_ediv_iff_mul_le (by omega),
    Int.add_mul, Int.one_mul]
  omega

/-- So many signals of the warmup are over. -/
def Warmed (options : Options) (target : Target Double) (count : Nat) : Prop :=
  target.warmupSamples = count ∧ count ≤ warmupTicks options

section Warmup

variable {options} {target : Target Double} {count : Nat} (period : 1 ≤ options.periodSecs)
  (warmed : Warmed options target count)
include period warmed

theorem Warmed.itimer_early (early : count < warmupTicks options) (load : Double) :
    itimer options target load = ({ target with warmupSamples := (count + 1 : Nat) }, []) := by
  unfold itimer
  rw [warmed.1, if_pos ((lt_warmupTicks_iff period count).mp early)]
  rfl

/-- Behind the warmup every signal stores its load. -/
theorem Warmed.itimer_late (late : warmupTicks options ≤ count) (load : Double) :
    itimer options target load =
      ({ target with
          cpuLoad := target.cpuLoad.set (target.cpuSamples % (nSamples options).toNat) (some load)
          cpuSamples := target.cpuSamples + 1 },
        [load]) := by
  unfold itimer
  rw [warmed.1,
    if_neg fun early => Nat.not_lt.mpr late ((lt_warmupTicks_iff period count).mpr early)]

theorem Warmed.next (load : Double) :
    Warmed options (itimer options target load).1 (min (count + 1) (warmupTicks options)) := by
  by_cases early : count < warmupTicks options
  · rw [warmed.itimer_early period early, Nat.min_eq_left early]
    exact ⟨rfl, early⟩
  · have late := Nat.le_antisymm warmed.2 (Nat.le_of_not_lt early)
    rw [warmed.itimer_late period late.ge, Nat.min_eq_right (by omega)]
    exact ⟨warmed.1.trans (congrArg _ late), Nat.le_refl _⟩

end Warmup

/-- The samples of a measurement are taken behind its warmup. -/
theorem run_taken (ops : LoadOps Double) {options : Options} (period : 1 ≤ options.periodSecs)
    {state : Cyclesoak nrCpus Double} (measuring : state.doCalibrate = false) {count : Nat}
    (warmed : Warmed options state.target count) (ticks : List (Tick nrCpus)) :
    Warmed options ((cyclesoakMachine ops options).run state ticks).1.target
        (min (count + ticks.length) (warmupTicks options)) ∧
      ((cyclesoakMachine ops options).run state ticks).1.target.cpuSamples =
        state.target.cpuSamples + (count + ticks.length - warmupTicks options) := by
  induction ticks generalizing state count with
  | nil =>
      have within := warmed.2
      constructor
      · rw [List.length_nil, Nat.add_zero, Nat.min_eq_left within]
        exact warmed
      · rw [List.length_nil, Nat.add_zero, Nat.sub_eq_zero_of_le within]
        rfl
  | cons tick rest inductionHypothesis =>
      rcases state.itimer_target_measuring ops options tick measuring with
        ⟨load, same⟩
      have within := warmed.2
      have next := warmed.next period load
      rw [← same] at next
      have later := inductionHypothesis
        ((state.itimer_doCalibrate ops options tick).trans measuring) next
      have samples : (state.itimer ops options tick).1.target.cpuSamples =
          state.target.cpuSamples + (count + 1 - warmupTicks options) := by
        rw [same]
        by_cases early : count < warmupTicks options
        · rw [warmed.itimer_early period early, Nat.sub_eq_zero_of_le early]
          rfl
        · have late := Nat.le_of_not_lt early
          rw [warmed.itimer_late period late, Nat.le_antisymm within late, Nat.add_sub_cancel_left]
      have reach : min (min (count + 1) (warmupTicks options) + rest.length) (warmupTicks options) =
          min (count + (rest.length + 1)) (warmupTicks options) := by omega
      rw [List.length_cons, Machine.run]
      refine ⟨reach ▸ later.1, later.2.trans ?_⟩
      rw [samples]
      omega

/-! ## A session -/

section Session

variable {ops options} {session : Session nrCpus} {final : Cyclesoak nrCpus Double}

theorem Cyclesoak.of_prepCyclesoak {state ready : Cyclesoak nrCpus Double} {now : Int}
    (measuring : state.doCalibrate = false) (prepared : state.prepCyclesoak now = some ready) :
    (∀ i, state.calibratedLoopsPerSec i ≠ 0) ∧
      ready = { state with countsPerSec := state.calibratedLoopsPerSec, alarmTime := now } := by
  unfold Cyclesoak.prepCyclesoak at prepared
  rw [if_neg (by rw [measuring]; exact Bool.false_ne_true)] at prepared
  split at prepared
  · cases prepared
  · rename_i counts
    cases prepared
    exact ⟨fun i zero => counts ⟨i, zero⟩, rfl⟩

/-- With counts for all processors the loops are started again. -/
theorem Cyclesoak.prepCyclesoak_counted {state : Cyclesoak nrCpus Double}
    (measuring : state.doCalibrate = false) (counted : ∀ i, state.calibratedLoopsPerSec i ≠ 0)
    (now : Int) :
    state.prepCyclesoak now =
      some { state with countsPerSec := state.calibratedLoopsPerSec, alarmTime := now } := by
  unfold Cyclesoak.prepCyclesoak
  rw [if_neg (by rw [measuring]; exact Bool.false_ne_true), if_neg]
  rintro ⟨i, zero⟩
  exact counted i zero

theorem Session.of_run (reached : (session.run ops options).1 = some final) :
    (session.calibrate ops options).1.calibrationComplete = true ∧
      ∃ ready, (session.stop ops options (session.calibrate ops options).1).1.prepCyclesoak
          session.startAt = some ready ∧
        final = ((cyclesoakMachine ops options).run ready session.measurement).1 ∧
        (session.run ops options).2 = sizeEvents options ++ (session.calibrate ops options).2 ++
          (session.stop ops options (session.calibrate ops options).1).2 ++
          ((cyclesoakMachine ops options).run ready session.measurement).2 := by
  unfold Session.run at reached ⊢
  dsimp only at reached ⊢
  by_cases complete : (session.calibrate ops options).1.calibrationComplete = true
  · rw [if_pos complete] at reached ⊢
    refine ⟨complete, ?_⟩
    generalize (session.stop ops options (session.calibrate ops options).1).1.prepCyclesoak
      session.startAt = prepared at reached
    cases prepared with
    | none => cases reached
    | some ready => exact ⟨ready, rfl, (Option.some.inj reached).symm, rfl⟩
  · rw [if_neg complete] at reached
    cases reached

theorem Session.calibrate_target :
    (session.calibrate ops options).1.target = cpuTargetSetup Double options :=
  run_target_calibrating session.calibration rfl

/-- A session whose calibration is complete and has left counts comes to its end. -/
theorem Session.run_of_prepared {ready : Cyclesoak nrCpus Double}
    (complete : (session.calibrate ops options).1.calibrationComplete = true)
    (prepared : (session.stop ops options (session.calibrate ops options).1).1.prepCyclesoak
      session.startAt = some ready) :
    (session.run ops options).1 =
      some ((cyclesoakMachine ops options).run ready session.measurement).1 := by
  unfold Session.run
  dsimp only
  rw [if_pos complete, prepared]

variable (ops options session) in
theorem Session.calibrated_warmed :
    Warmed options (session.calibrate ops options).1.calibrated.target 0 := by
  unfold Cyclesoak.calibrated
  rw [Session.calibrate_target]
  exact ⟨rfl, Nat.zero_le _⟩

variable (ops session) in
/-- A measurement begins behind the warmup of the signals before it, without samples. -/
theorem Session.stop_warmed (period : 1 ≤ options.periodSecs) :
    Warmed options (session.stop ops options (session.calibrate ops options).1).1.target
      (min session.stopping.length (warmupTicks options)) := by
  have taken := run_taken ops period rfl (session.calibrated_warmed ops options) session.stopping
  rw [Nat.zero_add] at taken
  exact taken.1

theorem Session.cpuSamples_of_run (period : 1 ≤ options.periodSecs)
    (reached : (session.run ops options).1 = some final) :
    final.target.cpuSamples = session.measurement.length -
      (warmupTicks options - session.stopping.length) := by
  rcases Session.of_run reached with ⟨_, ready, prepared, ended, _⟩
  obtain ⟨_, begun⟩ := Cyclesoak.of_prepCyclesoak (run_doCalibrate session.stopping) prepared
  have start : ready.doCalibrate = false := by
    rw [begun]
    exact run_doCalibrate session.stopping
  have warmed : Warmed options ready.target
      (min session.stopping.length (warmupTicks options)) := by
    rw [begun]
    exact session.stop_warmed ops period
  have none_ : ready.target.cpuSamples = 0 := by
    rw [begun]
    rfl
  rw [ended, (run_taken ops period start warmed session.measurement).2, none_]
  omega

end Session

/-- A clock that shows one second more with every signal, and loops that make the same
progress in each of them. -/
def secondTicks (nrCpus count : Nat) : List (Tick nrCpus) :=
  (List.range count).map fun (second : Nat) =>
    { now := (second + 1) * 1000000
      busyloopProgress := fun _ => UInt64.ofNat ((second + 1) * 1000) }

/-- Four signals for the calibration and as many as are asked for later. -/
def secondSession (nrCpus count : Nat) : Session nrCpus where
  calibrateAt := 0
  calibration := secondTicks nrCpus 4
  stopping := []
  startAt := 0
  measurement := secondTicks nrCpus count

end CpuTarget
end Ipbench
