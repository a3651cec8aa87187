import Ipbench.CpuTarget.Cyclesoak

namespace Ipbench
namespace CpuTarget

open Foundation

/-!
# The counts of the intervals

`itimer` keeps the counters of the last signal in a static array.  After the
calibration the counters are new ones that begin at zero, but the array is not.  So
the first signal of the measurement counts from the last counters of the calibration.
-/

variable {Double : Type} {nrCpus : Nat}

/-- The counts of all processors that have been computed, in their order. -/
def intervalCounts (events : List CycleEvent) : List (Nat × Nat) :=
  events.filterMap fun event =>
    match event with
    | .counted cpu blp => some (cpu, blp.toNat)
    | _ => none

/-- The progress of all processors since the last signal, or since the beginning. -/
def progressCounts : (last : Fin nrCpus → Nat) → List (Tick nrCpus) → List (Nat × Nat)
  | _, [] => []
  | last, tick :: rest =>
      (List.finRange nrCpus).map (fun i => (i.val, (tick.busyloopProgress i).toNat - last i)) ++
        progressCounts (fun i => (tick.busyloopProgress i).toNat) rest

def Grows : (last : Fin nrCpus → Nat) → List (Tick nrCpus) → Prop
  | _, [] => True
  | last, tick :: rest =>
      (∀ i, last i ≤ (tick.busyloopProgress i).toNat) ∧
        Grows (fun i => (tick.busyloopProgress i).toNat) rest

instance decidableGrows : (last : Fin nrCpus → Nat) → (ticks : List (Tick nrCpus)) →
    Decidable (Grows last ticks)
  | _, [] => .isTrue trivial
  | _, tick :: rest =>
      have := decidableGrows (fun i => (tick.busyloopProgress i).toNat) rest
      inferInstanceAs (Decidable (_ ∧ _))

/-- The counters begin at zero in each phase and only grow. -/
structure Session.Grows (session : Session nrCpus) : Prop where
  calibrating : CpuTarget.Grows (fun _ => 0) (session.calibration ++ session.stopping)
  measuring : CpuTarget.Grows (fun _ => 0) session.measurement

/-- All counts are the progress of their processor within the phase. -/
def ExactCounts (ops : LoadOps Double) (options : Options) (session : Session nrCpus) : Prop :=
  intervalCounts (session.run ops options).2 =
    progressCounts (fun _ => 0) (session.calibration ++ session.stopping) ++
      progressCounts (fun _ => 0) session.measurement

/-! ## Events without counts -/

@[simp] theorem intervalCounts_append (first second : List CycleEvent) :
    intervalCounts (first ++ second) = intervalCounts first ++ intervalCounts second :=
  List.filterMap_append

theorem intervalCounts_sizeEvents (options : Options) :
    intervalCounts (sizeEvents options) = [] := by
  unfold sizeEvents
  split <;> rfl

theorem intervalCounts_flatMap {Index : Type} (indices : List Index)
    (events : Index → List CycleEvent) :
    intervalCounts (indices.flatMap events) =
      indices.flatMap fun index => intervalCounts (events index) := by
  induction indices with
  | nil => rfl
  | cons index rest inductionHypothesis =>
      rw [List.flatMap_cons, List.flatMap_cons, intervalCounts_append, inductionHypothesis]

theorem intervalCounts_storeEvents (options : Options) (target : Target Double) (load : Double) :
    intervalCounts (storeEvents options target load) = [] := by
  rw [storeEvents, intervalCounts_flatMap]
  exact List.flatMap_eq_nil_iff.mpr fun _ _ => rfl

/-! ## One signal -/

variable {ops : LoadOps Double} {options : Options}

theorem intervalCounts_itimer (state : Cyclesoak nrCpus Double) (tick : Tick nrCpus) :
    intervalCounts (state.itimer ops options tick).2 =
      (List.finRange nrCpus).map fun i =>
        (i.val, (tick.busyloopProgress i - state.oldBlp i).toNat) := by
  have counted : ∀ delta : UInt64, intervalCounts ((List.finRange nrCpus).flatMap fun i =>
      [.counted i.val (tick.busyloopProgress i - state.oldBlp i), .divide (delta.toNat : Int)]) =
      (List.finRange nrCpus).map fun i =>
        (i.val, (tick.busyloopProgress i - state.oldBlp i).toNat) := by
    intro delta
    rw [intervalCounts_flatMap]
    exact List.map_eq_flatMap.symm
  unfold Cyclesoak.itimer
  dsimp only
  split
  · exact counted _
  · rw [intervalCounts_append, intervalCounts_append, counted, intervalCounts_storeEvents,
      List.append_nil]
    have divisors : intervalCounts ((List.finRange nrCpus).flatMap fun (i : Fin nrCpus) =>
        [.divide ((state.countsPerSec i).toNat : Int), .divide (nrCpus : Int)]) = [] := by
      rw [intervalCounts_flatMap]
      exact List.flatMap_eq_nil_iff.mpr fun _ _ => rfl
    rw [divisors, List.append_nil]

/-- Counters that have grown since the last signal are counted exactly. -/
theorem toNat_sub_of_grown {progress old : UInt64} (grown : old.toNat ≤ progress.toNat) :
    (progress - old).toNat = progress.toNat - old.toNat :=
  UInt64.toNat_sub_of_le _ _ (UInt64.le_iff_toNat_le.mpr grown)

/-! ## Many signals -/

/-- The counters at the last signal. -/
def lastProgress : (last : Fin nrCpus → Nat) → List (Tick nrCpus) → Fin nrCpus → Nat
  | last, [] => last
  | _, tick :: rest => lastProgress (fun i => (tick.busyloopProgress i).toNat) rest

theorem grows_append (last : Fin nrCpus → Nat) (first second : List (Tick nrCpus)) :
    Grows last (first ++ second) ↔ Grows last first ∧ Grows (lastProgress last first) second := by
  induction first generalizing last with
  | nil => exact (and_iff_right trivial).symm
  | cons tick rest inductionHypothesis =>
      rw [List.cons_append, Grows, inductionHypothesis, Grows, lastProgress, and_assoc]

theorem progressCounts_append (last : Fin nrCpus → Nat) (first second : List (Tick nrCpus)) :
    progressCounts last (first ++ second) =
      progressCounts last first ++ progressCounts (lastProgress last first) second := by
  induction first generalizing last with
  | nil => rfl
  | cons tick rest inductionHypothesis =>
      rw [List.cons_append, progressCounts, inductionHypothesis, progressCounts, lastProgress,
        List.append_assoc]

def Cyclesoak.last (state : Cyclesoak nrCpus Double) (i : Fin nrCpus) : Nat :=
  (state.oldBlp i).toNat

variable (ops options) in
theorem itimer_last (state : Cyclesoak nrCpus Double) (tick : Tick nrCpus) :
    (state.itimer ops options tick).1.last = fun i => (tick.busyloopProgress i).toNat := by
  funext i
  rw [Cyclesoak.last, Cyclesoak.itimer_oldBlp]

theorem run_last (state : Cyclesoak nrCpus Double) (ticks : List (Tick nrCpus)) :
    ((cyclesoakMachine ops options).run state ticks).1.last = lastProgress state.last ticks := by
  induction ticks generalizing state with
  | nil => rfl
  | cons tick rest inductionHypothesis =>
      rw [lastProgress, ← itimer_last ops options state tick]
      exact inductionHypothesis _

/-- Counters that grow from those of the static array on are counted exactly. -/
theorem run_counts {state : Cyclesoak nrCpus Double} {ticks : List (Tick nrCpus)}
    (grows : Grows state.last ticks) :
    intervalCounts ((cyclesoakMachine ops options).run state ticks).2 =
      progressCounts state.last ticks := by
  induction ticks generalizing state with
  | nil => rfl
  | cons tick rest inductionHypothesis =>
      have step := itimer_last ops options state tick
      have later := inductionHypothesis (step.symm ▸ grows.2)
      rw [Machine.run, intervalCounts_append, progressCounts, ← step, ← later]
      congr 1
      refine (intervalCounts_itimer state tick).trans ?_
      apply List.map_congr_left
      intro i _
      rw [toNat_sub_of_grown (grows.1 i)]
      rfl

/-- A processor with a calibrated count has made progress. -/
def Calibrated (state : Cyclesoak nrCpus Double) : Prop :=
  ∀ i, state.calibratedLoopsPerSec i ≠ 0 → state.last i ≠ 0

theorem Calibrated.itimer {state : Cyclesoak nrCpus Double} (calibrated : Calibrated state)
    {tick : Tick nrCpus} (grown : ∀ i, state.last i ≤ (tick.busyloopProgress i).toNat) :
    Calibrated (state.itimer ops options tick).1 := by
  intro i counted
  rw [Cyclesoak.last, Cyclesoak.itimer_oldBlp]
  have more := grown i
  have earlier : state.calibratedLoopsPerSec i ≠ 0 →
      (tick.busyloopProgress i).toNat ≠ 0 := fun counted => by
    have before := calibrated i counted
    omega
  unfold Cyclesoak.itimer at counted
  dsimp only at counted
  split at counted
  · dsimp only at counted
    split at counted
    · -- The count of the fourth signal is zero without progress.
      rintro none_
      have still : tick.busyloopProgress i - state.oldBlp i = 0 := by
        have old : (state.oldBlp i).toNat = 0 := Nat.eq_zero_of_le_zero (none_ ▸ more)
        rw [← UInt64.toNat_inj, toNat_sub_of_grown more, none_, old, UInt64.toNat_zero]
      apply counted
      dsimp only
      rw [still, UInt64.zero_mul, UInt64.zero_div]
    · exact earlier counted
  · exact earlier counted

theorem Calibrated.run {state : Cyclesoak nrCpus Double} (calibrated : Calibrated state)
    {ticks : List (Tick nrCpus)} (grows : Grows state.last ticks) :
    Calibrated ((cyclesoakMachine ops options).run state ticks).1 := by
  induction ticks generalizing state with
  | nil => exact calibrated
  | cons tick rest inductionHypothesis =>
      have step := itimer_last ops options state tick
      exact inductionHypothesis (calibrated.itimer grows.1) (step.symm ▸ grows.2)

/-! ## A session -/

section Session

variable {session : Session nrCpus}

theorem calibrate_last : (session.calibrate ops options).1.last =
    lastProgress (fun _ => 0) session.calibration :=
  run_last _ session.calibration

variable (grows : session.Grows)
include grows

variable (ops options) in
/-- Behind the calibration the counters grow from the last ones on. -/
theorem Session.Grows.stopped :
    CpuTarget.Grows (session.calibrate ops options).1.last session.stopping := by
  rw [calibrate_last]
  exact ((grows_append _ _ _).mp grows.calibrating).2

theorem calibrationCounts :
    intervalCounts ((session.calibrate ops options).2 ++
        (session.stop ops options (session.calibrate ops options).1).2) =
      progressCounts (fun _ => 0) (session.calibration ++ session.stopping) := by
  have calibrated : intervalCounts (session.calibrate ops options).2 =
      progressCounts (fun _ => 0) session.calibration :=
    run_counts ((grows_append _ _ _).mp grows.calibrating).1
  have stopped : intervalCounts (session.stop ops options (session.calibrate ops options).1).2 =
      progressCounts (session.calibrate ops options).1.last session.stopping :=
    run_counts (grows.stopped ops options)
  rw [intervalCounts_append, calibrated, stopped, calibrate_last, progressCounts_append]

/-- A measurement begins with counters in the static array that are not zero. -/
theorem last_ne_zero {final : Cyclesoak nrCpus Double}
    (reached : (session.run ops options).1 = some final) :
    ∃ ready : Cyclesoak nrCpus Double, (∀ i, ready.last i ≠ 0) ∧
      (session.run ops options).2 = sizeEvents options ++ (session.calibrate ops options).2 ++
        (session.stop ops options (session.calibrate ops options).1).2 ++
        ((cyclesoakMachine ops options).run ready session.measurement).2 := by
  rcases Session.of_run reached with ⟨_, ready, prepared, _, events⟩
  obtain ⟨counted, begun⟩ := Cyclesoak.of_prepCyclesoak (run_doCalibrate session.stopping) prepared
  have start : Calibrated (session.calibrationStart options : Cyclesoak nrCpus Double) :=
    fun i counted => absurd rfl counted
  have calibrated : Calibrated (session.calibrate ops options).1 :=
    start.run ((grows_append _ _ _).mp grows.calibrating).1
  have prepared : Calibrated (session.calibrate ops options).1.calibrated := calibrated
  have stopped : Calibrated (session.stop ops options (session.calibrate ops options).1).1 :=
    prepared.run (grows.stopped ops options)
  refine ⟨ready, ?_, events⟩
  intro i
  rw [begun]
  exact stopped i (counted i)

/-- For every session that comes to its end, whose counters begin at zero and grow in
each phase: all counts are exact if and only if the measurement has no signal. -/
theorem exactCounts_iff (processors : 0 < nrCpus) {final : Cyclesoak nrCpus Double}
    (reached : (session.run ops options).1 = some final) :
    ExactCounts ops options session ↔ session.measurement = [] := by
  rcases last_ne_zero grows reached with ⟨ready, old, events⟩
  unfold ExactCounts
  rw [events, List.append_assoc (sizeEvents options), intervalCounts_append,
    intervalCounts_append, intervalCounts_sizeEvents, List.nil_append, calibrationCounts grows,
    List.append_cancel_left_eq]
  constructor
  · intro exact_
    cases measurement : session.measurement with
    | nil => rfl
    | cons tick rest =>
        rw [measurement, Machine.run, intervalCounts_append, progressCounts] at exact_
        have first : intervalCounts (ready.itimer ops options tick).2 =
            (List.finRange nrCpus).map fun i =>
              (i.val, (tick.busyloopProgress i).toNat - 0) := by
          apply List.append_inj_left exact_
          rw [List.length_map]
          exact (congrArg List.length (intervalCounts_itimer ready tick)).trans
            (List.length_map _)
        rw [intervalCounts_itimer, List.map_inj_left] at first
        have same := congrArg Prod.snd (first ⟨0, processors⟩ (List.mem_finRange _))
        have kept := old ⟨0, processors⟩
        have small := (ready.oldBlp ⟨0, processors⟩).toNat_lt
        have counter := (tick.busyloopProgress ⟨0, processors⟩).toNat_lt
        unfold Cyclesoak.last at kept
        dsimp only at same
        rw [UInt64.toNat_sub] at same
        omega
  · intro none_
    rw [none_]
    rfl

end Session

theorem exactCounts_iff_none :
    ExactCounts exactLoadOps { warmupTime := 0, cooldownTime := 1, periodSecs := 1 }
        (secondSession 2 0) ↔ (secondSession 2 0).measurement = [] := by
  rcases Option.isSome_iff_exists.mp (show ((secondSession 2 0).run exactLoadOps
    { warmupTime := 0, cooldownTime := 1, periodSecs := 1 }).1.isSome = true by decide) with
    ⟨final, reached⟩
  exact exactCounts_iff ⟨by decide, by decide⟩ (by decide) reached

/-- The first count of the measurement is 1000 - 4000. -/
theorem staleCounters_subtracted :
    (secondSession 2 3).Grows ∧
      ((secondSession 2 3).run exactLoadOps
        { warmupTime := 0, cooldownTime := 1, periodSecs := 1 }).1.isSome = true ∧
      ¬ ExactCounts exactLoadOps { warmupTime := 0, cooldownTime := 1, periodSecs := 1 }
        (secondSession 2 3) := by
  have ends : ((secondSession 2 3).run exactLoadOps
      { warmupTime := 0, cooldownTime := 1, periodSecs := 1 }).1.isSome = true := by decide
  refine ⟨⟨by decide, by decide⟩, ends, ?_⟩
  unfold ExactCounts
  decide

end CpuTarget
end Ipbench
