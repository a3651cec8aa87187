import Ipbench.CpuTarget.Cooldown
import Ipbench.CpuTarget.Cyclesoak
import Mathlib.Algebra.Order.Field.Rat

namespace Ipbench
namespace CpuTarget

open Foundation

/-!
# The figures of the processors

`cpu_target_marshall` prints one figure for each processor, and takes it from the cell
with the number of the processor.  The cells are those of the samples, and a sample is
the mean over all processors.  So a figure is that of its processor only when there
are no others.  Outside the array and in a cell that has never been written lies
anything, which no processor determines.

Two sessions with the same clock are compared that agree about one processor.  The
floating-point operations are a parameter, with what they compute for a loop that
makes its calibrated progress and for one that makes none.
-/

variable {Double : Type} {nrCpus : Nat} (ops : LoadOps Double) (options : Options)

/-! ## Two sessions -/

structure Schedule where
  calibrateAt : Int
  calibration : List Int
  stopping : List Int
  startAt : Int
  measurement : List Int
deriving DecidableEq, Repr

def Session.schedule (session : Session nrCpus) : Schedule where
  calibrateAt := session.calibrateAt
  calibration := session.calibration.map Tick.now
  stopping := session.stopping.map Tick.now
  startAt := session.startAt
  measurement := session.measurement.map Tick.now

/-- A signal as one processor sees it. -/
def Tick.own (i : Fin nrCpus) (tick : Tick nrCpus) : Tick 1 where
  now := tick.now
  busyloopProgress := fun _ => tick.busyloopProgress i

/-- A session as one processor sees it, with its own calibration and progress. -/
def Session.own (i : Fin nrCpus) (session : Session nrCpus) : Session 1 where
  calibrateAt := session.calibrateAt
  calibration := session.calibration.map (Tick.own i)
  stopping := session.stopping.map (Tick.own i)
  startAt := session.startAt
  measurement := session.measurement.map (Tick.own i)

/-- The figure of a processor at the end of a session, if its cell has been written. -/
def Session.figure (session : Session nrCpus) (i : Fin nrCpus) :
    Option (Option (List UInt8)) := do
  let final ← (session.run ops options).1
  (cpuTargetMarshall ops options nrCpus final.target).1.figures[i.val]?

/-- In all sessions with this clock that come to their end, the processor has a figure,
which depends on nothing but this processor. -/
def OwnFigure (schedule : Schedule) (i : Fin nrCpus) : Prop :=
  ∀ first second : Session nrCpus, first.schedule = schedule → second.schedule = schedule →
    (session_ends : (first.run ops options).1.isSome ∧ (second.run ops options).1.isSome) →
      first.own i = second.own i →
        ∃ figure, first.figure ops options i = some (some figure) ∧
          second.figure ops options i = some (some figure)

/-- The cell of the processor is written, after the calibration or later. -/
def Written (schedule : Schedule) (i : Nat) : Prop :=
  i < cells options ∧
    (i < schedule.stopping.length - warmupTicks options ∨
      i < schedule.measurement.length - (warmupTicks options - schedule.stopping.length))

instance decidableWritten (options : Options) (schedule : Schedule) (i : Nat) :
    Decidable (Written options schedule i) :=
  inferInstanceAs (Decidable (_ ∧ (_ ∨ _)))

/-! ## The cells that are written -/

def Target.Filled (target : Target Double) (i : Nat) : Prop :=
  (target.cpuLoad[i]?).join.isSome = true

/-- All loads in the array are of one kind. -/
def Target.Holds (kind : Double → Prop) (target : Target Double) : Prop :=
  ∀ (i : Nat) (load : Double), (target.cpuLoad[i]?).join = some load → kind load

/-- The cells that have been filled before, and those of the samples. -/
structure FilledFrom (before : Nat → Prop) (target : Target Double) : Prop where
  size : target.cpuLoad.length = cells options
  filled : ∀ i, target.Filled i ↔ before i ∨ (i < cells options ∧ i < target.cpuSamples)

variable {ops options} {before : Nat → Prop} {target : Target Double}

theorem join_set (cpuLoad : List (Option Double)) (place i : Nat) (load : Double) :
    ((cpuLoad.set place (some load))[i]?).join =
      if place = i ∧ i < cpuLoad.length then some load else (cpuLoad[i]?).join := by
  rw [List.getElem?_set]
  by_cases here : place = i
  · by_cases inside : i < cpuLoad.length
    · rw [if_pos here, if_pos (here ▸ inside), if_pos ⟨here, inside⟩]
      rfl
    · rw [if_pos here, if_neg (here ▸ inside), if_neg fun both => inside both.2,
        List.getElem?_eq_none (Nat.le_of_not_lt inside)]
  · rw [if_neg here, if_neg fun both => here both.1]

theorem FilledFrom.itimer (filled : FilledFrom options before target) (load : Double) :
    FilledFrom options before (itimer options target load).1 := by
  unfold CpuTarget.itimer
  split
  · exact ⟨filled.size, filled.filled⟩
  · constructor
    · exact List.length_set.trans filled.size
    · intro i
      have earlier := filled.filled i
      unfold Target.Filled at earlier ⊢
      dsimp only
      rw [join_set, filled.size]
      have place : target.cpuSamples % cells options = i → i < cells options →
          i < target.cpuSamples + 1 := by
        rintro rfl _
        exact Nat.lt_succ_of_le (Nat.mod_le _ _)
      by_cases here : target.cpuSamples % cells options = i ∧ i < cells options
      · have inside := place here.1 here.2
        rw [show (nSamples options).toNat = cells options from rfl, if_pos here]
        exact iff_of_true rfl (Or.inr ⟨here.2, inside⟩)
      · rw [show (nSamples options).toNat = cells options from rfl, if_neg here, earlier]
        have newest : i < cells options → i ≠ target.cpuSamples := by
          rintro inside rfl
          exact here ⟨Nat.mod_eq_of_lt inside, inside⟩
        constructor
        · rintro (old | ⟨inside, taken⟩)
          · exact Or.inl old
          · exact Or.inr ⟨inside, Nat.lt_succ_of_lt taken⟩
        · rintro (old | ⟨inside, taken⟩)
          · exact Or.inl old
          · have other := newest inside
            exact Or.inr ⟨inside, by omega⟩

theorem Target.Holds.itimer {kind : Double → Prop} (holds : target.Holds kind) {load : Double}
    (good : kind load) : (CpuTarget.itimer options target load).1.Holds kind := by
  unfold CpuTarget.itimer
  split
  · exact holds
  · intro i other found
    dsimp only at found
    rw [join_set] at found
    split at found
    · exact Option.some.inj found ▸ good
    · exact holds i other found

variable (ops) in
theorem run_filled {state : Cyclesoak nrCpus Double} (measuring : state.doCalibrate = false)
    (filled : FilledFrom options before state.target) (ticks : List (Tick nrCpus)) :
    FilledFrom options before ((cyclesoakMachine ops options).run state ticks).1.target := by
  have kept := (cyclesoakMachine ops options).run_state_invariant
    (fun reached => reached.doCalibrate = false ∧ FilledFrom options before reached.target)
    (fun reached _ tick both _ => by
      refine ⟨(reached.itimer_doCalibrate ops options tick).trans both.1, ?_⟩
      rcases reached.itimer_target_measuring ops options tick both.1 with ⟨load, same⟩
      exact same ▸ both.2.itimer load)
    ⟨measuring, filled⟩ ((cyclesoakMachine ops options).along_true _ [] ticks)
  exact kept.2

theorem filledFrom_setup :
    FilledFrom options (fun _ => False) (cpuTargetSetup Double options) := by
  refine ⟨List.length_replicate, ?_⟩
  intro i
  constructor
  · intro filled
    unfold Target.Filled cpuTargetSetup at filled
    dsimp only at filled
    rw [List.getElem?_replicate] at filled
    split at filled <;> cases filled
  · rintro (impossible | ⟨_, impossible⟩)
    · exact impossible.elim
    · exact absurd impossible (Nat.not_lt_zero i)

/-- After a session exactly the cells that its clock says have been filled. -/
theorem filled_final {session : Session nrCpus} {final : Cyclesoak nrCpus Double}
    (period : 1 ≤ options.periodSecs) (reached : (session.run ops options).1 = some final)
    (i : Nat) : final.target.Filled i ↔ Written options session.schedule i := by
  rcases Session.of_run reached with ⟨_, ready, prepared, ended, _⟩
  have measuring : (session.stop ops options (session.calibrate ops options).1).1.doCalibrate =
      false := run_doCalibrate session.stopping
  obtain ⟨_, begun⟩ := Cyclesoak.of_prepCyclesoak measuring prepared
  have setup : FilledFrom options (fun _ => False)
      (session.calibrate ops options).1.calibrated.target := by
    unfold Cyclesoak.calibrated
    rw [Session.calibrate_target]
    exact filledFrom_setup
  have stopped := run_filled ops rfl setup session.stopping
  have between := (run_taken ops period rfl (session.calibrated_warmed ops options)
    session.stopping).2
  have start : ready.doCalibrate = false := by rw [begun]; exact measuring
  have cleared : FilledFrom options
      (fun i => i < cells options ∧ i < session.stopping.length - warmupTicks options)
      ready.target := by
    rw [begun]
    refine ⟨stopped.size, fun i => (stopped.filled i).trans ?_⟩
    have none_ : (session.calibrate ops options).1.calibrated.target.cpuSamples = 0 := by
      unfold Cyclesoak.calibrated
      rw [Session.calibrate_target]
      rfl
    rw [between, none_, Nat.zero_add, Nat.zero_add]
    constructor
    · rintro (impossible | inside)
      · exact impossible.elim
      · exact Or.inl inside
    · rintro (inside | ⟨_, impossible⟩)
      · exact Or.inr inside
      · exact absurd impossible (Nat.not_lt_zero i)
  have filled := (run_filled ops start cleared session.measurement).filled i
  rw [← ended, Session.cpuSamples_of_run period reached, ← and_or_left] at filled
  exact filled.trans (by simp [Written, Session.schedule])

/-- The figure of a processor is what its cell shows. -/
theorem figure_of_run {session : Session nrCpus} {final : Cyclesoak nrCpus Double}
    (reached : (session.run ops options).1 = some final) (i : Fin nrCpus) :
    session.figure ops options i =
      some (((final.target.cpuLoad[i.val]?).join).map ops.percent) := by
  unfold Session.figure cpuTargetMarshall
  rw [reached, Option.bind_eq_bind, Option.bind_some, List.getElem?_map,
    List.getElem?_range i.isLt]
  rfl

/-! ## Figures that depend on nothing else -/

/-- A cell that has not been written has no figure. -/
theorem figure_of_unwritten (period : 1 ≤ options.periodSecs) {session : Session nrCpus}
    {final : Cyclesoak nrCpus Double} (reached : (session.run ops options).1 = some final)
    {i : Fin nrCpus} (unwritten : ¬ Written options session.schedule i) :
    session.figure ops options i = some none := by
  have empty := mt (filled_final period reached i).mp unwritten
  rw [figure_of_run reached, Option.not_isSome_iff_eq_none.mp empty]
  rfl

theorem figure_of_written (period : 1 ≤ options.periodSecs) {session : Session nrCpus}
    {final : Cyclesoak nrCpus Double} (reached : (session.run ops options).1 = some final)
    {i : Fin nrCpus} (written : Written options session.schedule i) :
    ∃ figure, session.figure ops options i = some (some figure) := by
  have filled := (filled_final period reached i).mpr written
  rcases Option.isSome_iff_exists.mp filled with ⟨load, found⟩
  refine ⟨ops.percent load, ?_⟩
  rw [figure_of_run reached, found]
  rfl

theorem own_single (i : Fin 1) (session : Session 1) : session.own i = session := by
  have each : ∀ tick : Tick 1, tick.own i = tick := by
    intro tick
    unfold Tick.own
    congr 1
    funext other
    rw [Subsingleton.elim i other]
  have whole : Tick.own i = id := funext each
  unfold Session.own
  rw [whole, List.map_id, List.map_id, List.map_id]

theorem ownFigure_of_single (period : 1 ≤ options.periodSecs) {schedule : Schedule} {i : Fin 1}
    (written : Written options schedule i) : OwnFigure ops options schedule i := by
  rintro first second rfl _ ends same
  rw [own_single, own_single] at same
  rcases Option.isSome_iff_exists.mp ends.1 with ⟨final, reached⟩
  rcases figure_of_written period reached written with ⟨figure, shown⟩
  exact ⟨figure, shown, same ▸ shown⟩

/-! ## Loops that work and loops that do not -/

/-- The load of a processor without progress, as a part of the mean. -/
def idleShare (ops : LoadOps Double) (nrCpus : Nat) (counts : UInt64) : Double :=
  ops.div (thisCpuLoad ops 0 counts) (ops.ofInt nrCpus)

/-- What is computed for loops that make their calibrated progress or none.  With a
count of zero the load is infinite or no number. -/
structure SoakLaws (ops : LoadOps Double) (nrCpus : Nat) (counts : UInt64) : Prop where
  busy : ∀ blp, counts ≤ blp → 0 < blp → thisCpuLoad ops blp counts = ops.zero
  share : ops.div ops.zero (ops.ofInt nrCpus) = ops.zero
  zero_add_zero : ops.add ops.zero ops.zero = ops.zero
  zero_add : ops.add ops.zero (idleShare ops nrCpus counts) = idleShare ops nrCpus counts
  add_zero : ops.add (idleShare ops nrCpus counts) ops.zero = idleShare ops nrCpus counts
  shown : ops.percent (idleShare ops nrCpus counts) ≠ ops.percent ops.zero

/-- The counts of an interval in which some loops do not work. -/
def soakBlp (idle : Bool) : UInt64 :=
  if idle then 0 else 1000

section Totals

variable {counts : UInt64} (laws : SoakLaws ops nrCpus counts) (small : counts ≤ 1000)
include laws small

theorem foldl_busy {idle : Fin nrCpus → Bool} {processors : List (Fin nrCpus)}
    (busy : ∀ i ∈ processors, idle i = false) {start : Double}
    (neutral : ops.add start ops.zero = start) :
    processors.foldl (fun total i => ops.add total
      (ops.div (thisCpuLoad ops (soakBlp (idle i)) counts) (ops.ofInt nrCpus))) start = start := by
  induction processors with
  | nil => rfl
  | cons i rest inductionHypothesis =>
      have load : thisCpuLoad ops (soakBlp (idle i)) counts = ops.zero := by
        rw [busy i List.mem_cons_self]
        exact laws.busy 1000 small (by decide)
      rw [List.foldl_cons, load, laws.share, neutral]
      exact inductionHypothesis fun other member => busy other (List.mem_cons_of_mem _ member)

theorem total_busy :
    totalCpuLoad ops (fun _ : Fin nrCpus => soakBlp false) (fun _ => counts) = ops.zero :=
  foldl_busy laws small (fun _ _ => rfl) laws.zero_add_zero

theorem total_idle (j : Fin nrCpus) :
    totalCpuLoad ops (fun i => soakBlp (decide (i = j))) (fun _ => counts) =
      idleShare ops nrCpus counts := by
  rcases List.append_of_mem (List.mem_finRange j) with ⟨before, after, split⟩
  have distinct := List.nodup_finRange nrCpus
  rw [split, List.nodup_append, List.nodup_cons] at distinct
  have earlier : ∀ i ∈ before, decide (i = j) = false := fun i member =>
    decide_eq_false (distinct.2.2 i member j List.mem_cons_self)
  have later : ∀ i ∈ after, decide (i = j) = false := fun i member =>
    decide_eq_false fun same => distinct.2.1.1 (same ▸ member)
  have here : ops.add ops.zero (ops.div (thisCpuLoad ops (soakBlp (decide (j = j))) counts)
      (ops.ofInt nrCpus)) = idleShare ops nrCpus counts := by
    rw [decide_eq_true rfl]
    exact laws.zero_add
  unfold totalCpuLoad
  rw [split, List.foldl_append, foldl_busy laws small earlier laws.zero_add_zero, List.foldl_cons,
    here]
  exact foldl_busy laws small later laws.add_zero

end Totals

/-! ## Sessions of working loops -/

/-- The counters of a working loop and of an idle one after a signal. -/
def nextCount (alarmTime now : Int) (last : Bool → UInt64) (idle : Bool) : UInt64 :=
  if idle then last idle else last idle + interval alarmTime now

/-- A signal after which the working loops have counted the milliseconds. -/
def soakTick (idle : Fin nrCpus → Bool) (alarmTime : Int) (last : Bool → UInt64) (now : Int) :
    Tick nrCpus where
  now := now
  busyloopProgress := fun i => nextCount alarmTime now last (idle i)

/-- The signals of a clock when working loops count the milliseconds. -/
def soakTicks (idle : Fin nrCpus → Bool) :
    (alarmTime : Int) → (last : Bool → UInt64) → List Int → List (Tick nrCpus)
  | _, _, [] => []
  | alarmTime, last, now :: rest =>
      soakTick idle alarmTime last now ::
        soakTicks idle now (nextCount alarmTime now last) rest

/-- The counters after these signals. -/
def soakLast : (alarmTime : Int) → (last : Bool → UInt64) → List Int → Bool → UInt64
  | _, last, [] => last
  | alarmTime, last, now :: rest => soakLast now (nextCount alarmTime now last) rest

def lastTime : Int → List Int → Int
  | alarmTime, [] => alarmTime
  | _, now :: rest => lastTime now rest

/-- A session with a given clock in which some loops do not work after the calibration. -/
def soakSession (schedule : Schedule) (idle : Fin nrCpus → Bool) : Session nrCpus :=
  let alarmTime := lastTime schedule.calibrateAt schedule.calibration
  let last := fun _ => soakLast schedule.calibrateAt (fun _ => 0) schedule.calibration false
  { calibrateAt := schedule.calibrateAt
    calibration := soakTicks (fun _ => false) schedule.calibrateAt (fun _ => 0)
      schedule.calibration
    stopping := soakTicks idle alarmTime last schedule.stopping
    startAt := schedule.startAt
    measurement := soakTicks idle schedule.startAt (soakLast alarmTime last schedule.stopping)
      schedule.measurement }

theorem map_now_soakTicks (idle : Fin nrCpus → Bool) (alarmTime : Int) (last : Bool → UInt64)
    (times : List Int) : (soakTicks idle alarmTime last times).map Tick.now = times := by
  induction times generalizing alarmTime last with
  | nil => rfl
  | cons now rest inductionHypothesis =>
      rw [soakTicks, List.map_cons, inductionHypothesis]
      rfl

theorem map_own_soakTicks (idle : Fin nrCpus → Bool) (i : Fin nrCpus) (alarmTime : Int)
    (last : Bool → UInt64) (times : List Int) :
    (soakTicks idle alarmTime last times).map (Tick.own i) =
      soakTicks (fun _ => idle i) alarmTime last times := by
  induction times generalizing alarmTime last with
  | nil => rfl
  | cons now rest inductionHypothesis =>
      rw [soakTicks, List.map_cons, inductionHypothesis]
      rfl

theorem soakSession_schedule (schedule : Schedule) (idle : Fin nrCpus → Bool) :
    (soakSession schedule idle).schedule = schedule := by
  unfold Session.schedule soakSession
  rw [map_now_soakTicks, map_now_soakTicks, map_now_soakTicks]

theorem soakSession_own (schedule : Schedule) {first second : Fin nrCpus → Bool} {i : Fin nrCpus}
    (same : first i = second i) :
    (soakSession schedule first).own i = (soakSession schedule second).own i := by
  unfold Session.own soakSession
  simp only [map_own_soakTicks, same]

/-- The static array holds the counters of these loops. -/
structure Soaks (idle : Fin nrCpus → Bool) (alarmTime : Int) (last : Bool → UInt64)
    (state : Cyclesoak nrCpus Double) : Prop where
  alarmTime : state.alarmTime = alarmTime
  oldBlp : state.oldBlp = fun i => last (idle i)

theorem interval_le (alarmTime now : Int) :
    (interval alarmTime now).toNat * 1000 < 0x10000000000000000 := by
  have bound := (UInt64.ofInt (now - alarmTime)).toNat_lt
  unfold interval
  rw [UInt64.toNat_div]
  change (UInt64.ofInt (now - alarmTime)).toNat / 1000 * 1000 < _
  omega

/-- A count of milliseconds in as many milliseconds is one thousand a second. -/
theorem soak_blp {alarmTime now : Int} (later : interval alarmTime now ≠ 0)
    (last : Bool → UInt64) (idle : Bool) :
    (nextCount alarmTime now last idle - last idle) * 1000 / interval alarmTime now =
      soakBlp idle := by
  unfold nextCount soakBlp
  cases idle with
  | true =>
      rw [if_pos rfl, if_pos rfl, UInt64.sub_self, UInt64.zero_mul, UInt64.zero_div]
  | false =>
      rw [if_neg Bool.false_ne_true, if_neg Bool.false_ne_true, UInt64.add_comm,
        UInt64.add_sub_cancel]
      have bound := interval_le alarmTime now
      have positive : (interval alarmTime now).toNat ≠ 0 := fun zero =>
        later (UInt64.toNat_inj.mp zero)
      rw [← UInt64.toNat_inj, UInt64.toNat_div, UInt64.toNat_mul]
      change (interval alarmTime now).toNat * 1000 % 2 ^ 64 / _ = 1000
      rw [Nat.mod_eq_of_lt bound, Nat.mul_div_cancel_left _ (Nat.pos_of_ne_zero positive)]

theorem advances_append (alarmTime : Int) (first second : List Int) :
    Advances alarmTime (first ++ second) ↔
      Advances alarmTime first ∧ Advances (lastTime alarmTime first) second := by
  induction first generalizing alarmTime with
  | nil => exact (and_iff_right trivial).symm
  | cons now rest inductionHypothesis =>
      rw [List.cons_append, Advances, inductionHypothesis, Advances, lastTime, and_assoc]

variable {idle : Fin nrCpus → Bool} {alarmTime : Int} {last : Bool → UInt64}
  {state : Cyclesoak nrCpus Double}

theorem Soaks.itimer (now : Int) :
    Soaks idle now (nextCount alarmTime now last)
      (state.itimer ops options (soakTick idle alarmTime last now)).1 :=
  ⟨state.itimer_alarmTime ops options _, state.itimer_oldBlp ops options _⟩

variable (ops options) in
theorem Soaks.run (soaks : Soaks idle alarmTime last state) (times : List Int) :
    Soaks idle (lastTime alarmTime times) (soakLast alarmTime last times)
      ((cyclesoakMachine ops options).run state (soakTicks idle alarmTime last times)).1 := by
  induction times generalizing state alarmTime last with
  | nil => exact soaks
  | cons now rest inductionHypothesis => exact inductionHypothesis (Soaks.itimer now)

theorem Soaks.blp (soaks : Soaks idle alarmTime last state) {now : Int}
    (later : interval alarmTime now ≠ 0) (i : Fin nrCpus) :
    (nextCount alarmTime now last (idle i) - state.oldBlp i) * 1000 /
        interval state.alarmTime now = soakBlp (idle i) := by
  rw [soaks.alarmTime, soaks.oldBlp]
  exact soak_blp later last (idle i)

/-- All loads of a measurement are of the kind that its total is of. -/
theorem Soaks.holds {kind : Double → Prop} (soaks : Soaks idle alarmTime last state)
    (measuring : state.doCalibrate = false) {times : List Int} (clock : Advances alarmTime times)
    (total : kind (totalCpuLoad ops (fun i => soakBlp (idle i)) state.countsPerSec))
    (holds : state.target.Holds kind) :
    ((cyclesoakMachine ops options).run state
      (soakTicks idle alarmTime last times)).1.target.Holds kind := by
  induction times generalizing state alarmTime last with
  | nil => exact holds
  | cons now rest inductionHypothesis =>
      apply inductionHypothesis (Soaks.itimer now)
        ((state.itimer_doCalibrate ops options _).trans measuring) clock.2
      · rw [state.itimer_countsPerSec]
        exact total
      · unfold Cyclesoak.itimer
        dsimp only
        rw [if_neg (by rw [measuring]; exact Bool.false_ne_true)]
        apply holds.itimer
        have blp : (fun i => ((soakTick idle alarmTime last now).busyloopProgress i -
            state.oldBlp i) * 1000 /
              interval state.alarmTime (soakTick idle alarmTime last now).now) =
            fun i => soakBlp (idle i) := funext (soaks.blp clock.1)
        rw [blp]
        exact total

/-- After the fourth signal there is a count of one thousand for each processor. -/
def CalibratedTo (state : Cyclesoak nrCpus Double) : Prop :=
  3 < state.calibrateState →
    state.calibrationComplete = true ∧ state.calibratedLoopsPerSec = fun _ => 1000

variable (ops options) in
theorem Soaks.calibrated (soaks : Soaks (fun _ => false) alarmTime last state)
    (calibrating : state.doCalibrate = true) {times : List Int} (clock : Advances alarmTime times)
    (calibrated : CalibratedTo state) :
    let final := ((cyclesoakMachine ops options).run state
      (soakTicks (fun _ => false) alarmTime last times)).1
    final.calibrateState = state.calibrateState + times.length ∧ CalibratedTo final := by
  induction times generalizing state alarmTime last with
  | nil => exact ⟨rfl, calibrated⟩
  | cons now rest inductionHypothesis =>
      have blp : (fun i : Fin nrCpus => (nextCount alarmTime now last false - state.oldBlp i) *
          1000 / interval state.alarmTime now) = fun _ => 1000 :=
        funext fun i => soaks.blp clock.1 i
      have step : (state.itimer ops options
            (soakTick (fun _ => false) alarmTime last now)).1.calibrateState =
          state.calibrateState + 1 ∧
          CalibratedTo (state.itimer ops options
            (soakTick (fun _ => false) alarmTime last now)).1 := by
        unfold Cyclesoak.itimer CalibratedTo
        dsimp only
        rw [if_pos calibrating]
        refine ⟨rfl, fun fourth => ?_⟩
        dsimp only at fourth ⊢
        by_cases here : state.calibrateState = 3
        · rw [if_pos here, if_pos here]
          exact ⟨rfl, blp⟩
        · rw [if_neg here, if_neg here]
          exact calibrated (by omega)
      have later := inductionHypothesis (Soaks.itimer now)
        ((state.itimer_doCalibrate ops options _).trans calibrating) clock.2 step.2
      refine ⟨later.1.trans ?_, later.2⟩
      rw [List.length_cons]
      exact (congrArg (· + rest.length) step.1).trans (by omega)

/-! ## The condition -/

/-- The clock of a session moves on with every signal, and the calibration comes to its
fourth. -/
structure Schedule.Steady (schedule : Schedule) : Prop where
  calibrating : Advances schedule.calibrateAt (schedule.calibration ++ schedule.stopping)
  measuring : Advances schedule.startAt schedule.measurement
  fourth : 4 ≤ schedule.calibration.length

theorem holds_setup {kind : Double → Prop} : (cpuTargetSetup Double options).Holds kind := by
  intro i load found
  have filled := (filledFrom_setup.filled i).mp (by unfold Target.Filled; rw [found]; rfl)
  rcases filled with impossible | ⟨_, impossible⟩
  · exact impossible.elim
  · exact absurd impossible (Nat.not_lt_zero i)

section SoakSession

variable {schedule : Schedule} (steady : schedule.Steady)

variable (ops options) in
include steady in
/-- The calibration of working loops comes to its end. -/
theorem soakSession_calibrated (idle : Fin nrCpus → Bool) :
    ((soakSession schedule idle).calibrate ops options).1.calibrationComplete = true ∧
      ((soakSession schedule idle).calibrate ops options).1.calibratedLoopsPerSec =
        fun _ => 1000 := by
  have start : Soaks (fun _ => false) schedule.calibrateAt (fun _ => 0)
      ((soakSession schedule idle).calibrationStart options : Cyclesoak nrCpus Double) :=
    ⟨rfl, rfl⟩
  obtain ⟨signals, counted⟩ := start.calibrated ops options rfl
    ((advances_append _ _ _).mp steady.calibrating).1
    (fun impossible => absurd impossible (Nat.not_lt_zero 3))
  have fourth := steady.fourth
  apply counted
  rw [signals]
  change 3 < 0 + _
  omega

variable (ops options) in
/-- The loops that do not work stop after the calibration. -/
theorem soakSession_between (schedule : Schedule) (idle : Fin nrCpus → Bool) :
    Soaks idle (lastTime schedule.calibrateAt schedule.calibration)
      (fun _ => soakLast schedule.calibrateAt (fun _ => 0) schedule.calibration false)
      ((soakSession schedule idle).calibrate ops options).1.calibrated := by
  have start : Soaks (fun _ => false) schedule.calibrateAt (fun _ => 0)
      ((soakSession schedule idle).calibrationStart options : Cyclesoak nrCpus Double) :=
    ⟨rfl, rfl⟩
  have soaked := start.run ops options schedule.calibration
  exact ⟨soaked.alarmTime, soaked.oldBlp⟩

include steady in
theorem soakSession_stop_holds (idle : Fin nrCpus → Bool) {kind : Double → Prop}
    (total : schedule.stopping ≠ [] →
      kind (totalCpuLoad ops (fun i => soakBlp (idle i)) fun _ => 0)) :
    ((soakSession schedule idle).stop ops options
      ((soakSession schedule idle).calibrate ops options).1).1.target.Holds kind := by
  have setup : ((soakSession schedule idle).calibrate ops options).1.calibrated.target.Holds
      kind := by
    unfold Cyclesoak.calibrated
    rw [Session.calibrate_target]
    exact holds_setup
  by_cases none_ : schedule.stopping = []
  · unfold Session.stop soakSession
    dsimp only
    rw [none_]
    exact setup
  · apply (soakSession_between ops options schedule idle).holds rfl
      ((advances_append _ _ _).mp steady.calibrating).2 _ setup
    rw [show ((soakSession schedule idle).calibrate ops options).1.calibrated.countsPerSec = _
      from run_countsPerSec _]
    exact total none_

variable (ops options) in
include steady in
/-- A session of working loops comes to its end, with the loads of these loops. -/
theorem soakSession_run (idle : Fin nrCpus → Bool) (kind : Double → Prop)
    (total : ∀ counts : UInt64, counts = 1000 ∨ (counts = 0 ∧ schedule.stopping ≠ []) →
      kind (totalCpuLoad ops (fun i => soakBlp (idle i)) fun _ => counts)) :
    ∃ final, ((soakSession schedule idle).run ops options).1 = some final ∧
      final.target.Holds kind := by
  have loops := soakSession_calibrated ops options steady idle
  have kept : ((soakSession schedule idle).stop ops options
      ((soakSession schedule idle).calibrate ops options).1).1.calibratedLoopsPerSec =
      fun _ => 1000 := (run_calibratedLoops_measuring _ rfl).trans loops.2
  have one_thousand : (1000 : UInt64) ≠ 0 := by decide
  have prepared := Cyclesoak.prepCyclesoak_counted
    (run_doCalibrate (soakSession schedule idle).stopping)
    (fun i => by rw [kept]; exact one_thousand) (soakSession schedule idle).startAt
  refine ⟨_, Session.run_of_prepared loops.1 prepared, ?_⟩
  have again := (soakSession_between ops options schedule idle).run ops options schedule.stopping
  have restarted : Soaks idle schedule.startAt
      (soakLast (lastTime schedule.calibrateAt schedule.calibration)
        (fun _ => soakLast schedule.calibrateAt (fun _ => 0) schedule.calibration false)
        schedule.stopping)
      ({ ((soakSession schedule idle).stop ops options
          ((soakSession schedule idle).calibrate ops options).1).1 with
        countsPerSec := ((soakSession schedule idle).stop ops options
          ((soakSession schedule idle).calibrate ops options).1).1.calibratedLoopsPerSec
        alarmTime := (soakSession schedule idle).startAt } : Cyclesoak nrCpus Double) :=
    ⟨rfl, again.oldBlp⟩
  apply restarted.holds (run_doCalibrate (soakSession schedule idle).stopping) steady.measuring _
    (soakSession_stop_holds steady idle fun some_ => total 0 (Or.inr ⟨rfl, some_⟩))
  dsimp only
  rw [kept]
  exact total 1000 (Or.inl rfl)

end SoakSession

section Figures

variable {schedule : Schedule}
  (laws : ∀ counts : UInt64, counts ≠ 0 ∨ schedule.stopping ≠ [] → SoakLaws ops nrCpus counts)
include laws

theorem laws_of_counts {counts : UInt64}
    (used : counts = 1000 ∨ (counts = 0 ∧ schedule.stopping ≠ [])) :
    SoakLaws ops nrCpus counts ∧ counts ≤ 1000 := by
  rcases used with rfl | ⟨rfl, some_⟩
  · exact ⟨laws 1000 (Or.inl (by decide)), UInt64.le_refl _⟩
  · exact ⟨laws 0 (Or.inr some_), by decide⟩

variable (steady : schedule.Steady) (period : 1 ≤ options.periodSecs)
include steady period

/-- A figure that is written shows a load of the kind of all loads. -/
theorem soakSession_figure (idle : Fin nrCpus → Bool) (kind : Double → Prop)
    (total : ∀ counts : UInt64, SoakLaws ops nrCpus counts → counts ≤ 1000 →
      kind (totalCpuLoad ops (fun i => soakBlp (idle i)) fun _ => counts))
    {i : Fin nrCpus} (written : Written options schedule i) :
    ((soakSession schedule idle).run ops options).1.isSome = true ∧
      ∃ load, (soakSession schedule idle).figure ops options i = some (some (ops.percent load)) ∧
        kind load := by
  rcases soakSession_run ops options steady idle kind
    (fun counts used => total counts (laws_of_counts laws used).1 (laws_of_counts laws used).2)
    with ⟨final, reached, holds⟩
  have filled : final.target.Filled i := by
    rw [filled_final period reached, soakSession_schedule]
    exact written
  rcases Option.isSome_iff_exists.mp filled with ⟨load, found⟩
  refine ⟨by rw [reached]; rfl, load, ?_, holds i load found⟩
  rw [figure_of_run reached, found]
  rfl

/-- Another processor that does not work changes a figure that is written. -/
theorem not_ownFigure {i j : Fin nrCpus} (other : i ≠ j) (written : Written options schedule i) :
    ¬ OwnFigure ops options schedule i := by
  intro own
  rcases soakSession_figure laws steady period (fun _ => false) (· = ops.zero)
    (fun counts law small => total_busy law small) written with ⟨busyEnds, _, busy, rfl⟩
  rcases soakSession_figure laws steady period (fun i => decide (i = j))
    (fun load => ∃ counts, SoakLaws ops nrCpus counts ∧ load = idleShare ops nrCpus counts)
    (fun counts law small => ⟨counts, law, total_idle law small j⟩) written with
    ⟨idleEnds, _, idle, counts, law, rfl⟩
  rcases own _ _ (soakSession_schedule schedule _) (soakSession_schedule schedule _)
    ⟨idleEnds, busyEnds⟩ (soakSession_own schedule (decide_eq_false other)) with
    ⟨figure, first, second⟩
  rw [idle] at first
  rw [busy] at second
  exact law.shown (Option.some.inj (Option.some.inj (first.trans second.symm)))

omit laws in
theorem written_of_ownFigure {i : Fin nrCpus} (own : OwnFigure ops options schedule i) :
    Written options schedule i := by
  by_contra unwritten
  rcases soakSession_run ops options steady (fun _ : Fin nrCpus => false) (fun _ => True)
    (fun _ _ => trivial) with ⟨final, reached, _⟩
  have ends : ((soakSession schedule fun _ : Fin nrCpus => false).run ops options).1.isSome =
      true := by
    rw [reached]
    rfl
  have clock := soakSession_schedule schedule fun _ : Fin nrCpus => false
  rcases own _ _ clock clock ⟨ends, ends⟩ rfl with ⟨figure, shown, _⟩
  rw [figure_of_unwritten period reached (by rw [clock]; exact unwritten)] at shown
  cases shown

/-- For every clock that moves on and every processor: in all sessions the figure of the
processor depends on it alone if and only if there are no others, and the cell of the
figure is written. -/
theorem ownFigure_iff (i : Fin nrCpus) :
    OwnFigure ops options schedule i ↔ nrCpus = 1 ∧ Written options schedule i := by
  constructor
  · intro own
    have written := written_of_ownFigure steady period own
    refine ⟨?_, written⟩
    by_contra several
    have nontrivial : Nontrivial (Fin nrCpus) := by
      rw [Fin.nontrivial_iff_two_le]
      have some_ := i.pos
      omega
    rcases exists_ne i with ⟨j, other⟩
    exact not_ownFigure laws steady period other.symm written own
  · rintro ⟨single, written⟩
    subst single
    exact ownFigure_of_single period written

end Figures

/-! ## Exact arithmetic -/

theorem exact_idle (counts : UInt64) : thisCpuLoad exactLoadOps 0 counts = 1 := by
  have whole : exactLoadOps.sub exactLoadOps.one
      (exactLoadOps.div (exactLoadOps.ofCount 0) (exactLoadOps.ofCount counts)) = 1 := by
    change (1 : Rat) - ((0 : UInt64).toNat : Rat) / counts.toNat = 1
    rw [UInt64.toNat_zero, Nat.cast_zero, zero_div, sub_zero]
  unfold thisCpuLoad
  rw [whole]
  rfl

/-- Exact numbers are as the loops need them, as long as they are not divided by zero. -/
theorem exact_laws {counts : UInt64} (counted : counts ≠ 0) : SoakLaws exactLoadOps 2 counts := by
  have share : idleShare exactLoadOps 2 counts = 1 / 2 := by
    rw [idleShare, exact_idle]
    rfl
  constructor
  · intro blp most _
    have positive : (0 : Rat) < counts.toNat := by
      rw [Nat.cast_pos, Nat.pos_iff_ne_zero]
      exact fun zero => counted (UInt64.toNat_inj.mp zero)
    have quotient : (1 : Rat) ≤ blp.toNat / counts.toNat := by
      rw [le_div_iff₀ positive, one_mul]
      exact Nat.cast_le.mpr (UInt64.le_iff_toNat_le.mp most)
    unfold thisCpuLoad exactLoadOps
    dsimp only
    split
    · rfl
    · rename_i nonnegative
      rw [decide_eq_true_eq, not_lt] at nonnegative
      exact le_antisymm (sub_nonpos.mpr quotient) nonnegative
  · exact zero_div _
  · exact add_zero 0
  · rw [share]
    exact zero_add _
  · rw [share]
    exact add_zero _
  · rw [share]
    decide +kernel

theorem ownFigure_iff_two :
    OwnFigure exactLoadOps { warmupTime := 0, cooldownTime := 1, periodSecs := 1 }
        (secondSession 2 3).schedule (0 : Fin 2) ↔
      2 = 1 ∧ Written { warmupTime := 0, cooldownTime := 1, periodSecs := 1 }
        (secondSession 2 3).schedule (0 : Fin 2) :=
  ownFigure_iff (fun _ used => exact_laws (used.resolve_right (fun some_ => some_ rfl)))
    ⟨by decide, by decide, by decide⟩ (by decide) 0

/-- The figure of the first of two processors shows half of the load of the second. -/
theorem otherProcessor_shown :
    ¬ OwnFigure exactLoadOps { warmupTime := 0, cooldownTime := 1, periodSecs := 1 }
      (secondSession 2 3).schedule (0 : Fin 2) :=
  not_ownFigure (fun _ used => exact_laws (used.resolve_right (fun some_ => some_ rfl)))
    ⟨by decide, by decide, by decide⟩ (by decide) (show (0 : Fin 2) ≠ 1 by decide) (by decide)

end CpuTarget
end Ipbench
