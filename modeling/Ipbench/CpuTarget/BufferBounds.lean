import Ipbench.CpuTarget.Cooldown
import Ipbench.CpuTarget.Cyclesoak

namespace Ipbench
namespace CpuTarget

open Foundation

/-!
# The bounds of the array of samples

The number of cells comes from the options, but it is also the bound of the indices of
the processors, and without a cooldown the number of signals is another one.  A
session in which every operation is defined is one whose clock moves on with every
signal, and whose numbers of processors and of samples fit the array.
-/

variable {Double : Type} {nrCpus : Nat} (ops : LoadOps Double) (options : Options)

/-- An index is inside the array, a divisor is not zero, and a sum has the type of its
operands. -/
def CycleEvent.Defined : CycleEvent → Prop
  | .sum value => value < 0x80000000
  | .counted _ _ => True
  | .divide divisor => divisor ≠ 0
  | .loadIndex i => 0 ≤ i ∧ i < nSamples options

def AllDefined (events : List CycleEvent) : Prop :=
  ∀ event ∈ events, event.Defined options

/-- Everything that is done in a session and by `cpu_target_marshall` after it. -/
def Session.events (session : Session nrCpus) : List CycleEvent :=
  let ran := session.run ops options
  match ran.1 with
  | none => ran.2
  | some final => ran.2 ++ (cpuTargetMarshall ops options nrCpus final.target).2

structure BufferFits (session : Session nrCpus) : Prop where
  clock : Advances session.calibrateAt (session.calibration.map Tick.now)
  restarted : Advances session.startAt (session.measurement.map Tick.now)
  stopped : session.stopping = []
  cooldown : options.cooldownTime + 1 < 0x80000000
  processors : nrCpus ≤ nSamples options
  sampled : warmupTicks options < session.measurement.length
  hour : options.cooldownTime = 0 →
    0 < asInt ((session.measurement.length - warmupTicks options : Nat) : Int) ∧
      asInt ((session.measurement.length - warmupTicks options : Nat) : Int) ≤ 3600

/-! ## Lists of events -/

variable {ops options}

@[simp] theorem allDefined_nil : AllDefined options [] := fun _ impossible => by cases impossible

@[simp] theorem allDefined_cons (event : CycleEvent) (rest : List CycleEvent) :
    AllDefined options (event :: rest) ↔ event.Defined options ∧ AllDefined options rest :=
  List.forall_mem_cons

@[simp] theorem allDefined_append (first second : List CycleEvent) :
    AllDefined options (first ++ second) ↔
      AllDefined options first ∧ AllDefined options second :=
  List.forall_mem_append

theorem allDefined_flatMap {Index : Type} (indices : List Index)
    (events : Index → List CycleEvent) :
    AllDefined options (indices.flatMap events) ↔
      ∀ index ∈ indices, AllDefined options (events index) :=
  List.forall_mem_flatMap

theorem divide_defined (word : UInt64) :
    (CycleEvent.divide (word.toNat : Int)).Defined options ↔ word ≠ 0 := by
  rw [CycleEvent.Defined, ne_eq, Int.natCast_eq_zero, ← UInt64.toNat_zero, UInt64.toNat_inj]

/-- The indices below a bound are inside when the bound is. -/
theorem allDefined_indices (bound : Nat) :
    AllDefined options ((List.range bound).map fun (i : Nat) => .loadIndex (i : Int)) ↔
      bound = 0 ∨ bound ≤ nSamples options := by
  constructor
  · intro defined
    cases bound with
    | zero => exact Or.inl rfl
    | succ last =>
        refine Or.inr ?_
        have inside := defined _ (List.mem_map_of_mem (List.mem_range.mpr (Nat.lt_succ_self last)))
        exact Int.add_one_le_of_lt inside.2
  · intro fits event member
    rcases List.mem_map.mp member with ⟨i, below, rfl⟩
    rw [List.mem_range] at below
    exact ⟨Int.natCast_nonneg i, by omega⟩

/-! ## One signal -/

section Signal

variable (processors : 0 < nrCpus)
include processors

/-- What is done for each processor with the clock. -/
theorem allDefined_counted (delta : UInt64) (difference : Fin nrCpus → UInt64) :
    AllDefined options ((List.finRange nrCpus).flatMap fun (i : Fin nrCpus) =>
      [.counted i.val (difference i), .divide (delta.toNat : Int)]) ↔ delta ≠ 0 := by
  rw [allDefined_flatMap]
  constructor
  · intro defined
    have first := defined ⟨0, processors⟩ (List.mem_finRange _)
    exact (divide_defined delta).mp (first _ (List.mem_cons_of_mem _ List.mem_cons_self))
  · intro later i _
    rw [allDefined_cons, allDefined_cons]
    exact ⟨trivial, (divide_defined delta).mpr later, allDefined_nil⟩

/-- What is done for each processor with its calibrated count. -/
theorem allDefined_loads (counts : Fin nrCpus → UInt64) :
    AllDefined options ((List.finRange nrCpus).flatMap fun (i : Fin nrCpus) =>
      [.divide ((counts i).toNat : Int), .divide (nrCpus : Int)]) ↔ ∀ i, counts i ≠ 0 := by
  rw [allDefined_flatMap]
  have divisor : (CycleEvent.divide (nrCpus : Int)).Defined options :=
    Int.natCast_ne_zero.mpr (Nat.ne_of_gt processors)
  constructor
  · intro defined i
    exact (divide_defined (counts i)).mp (defined i (List.mem_finRange i) _ List.mem_cons_self)
  · intro counted i _
    rw [allDefined_cons, allDefined_cons]
    exact ⟨(divide_defined (counts i)).mpr (counted i), divisor, allDefined_nil⟩

theorem itimer_defined_calibrating {state : Cyclesoak nrCpus Double}
    (calibrating : state.doCalibrate = true) (tick : Tick nrCpus) :
    AllDefined options (state.itimer ops options tick).2 ↔
      interval state.alarmTime tick.now ≠ 0 := by
  unfold Cyclesoak.itimer
  dsimp only
  rw [if_pos calibrating]
  exact allDefined_counted processors _ _

variable (ops options) in
theorem itimer_defined_measuring {state : Cyclesoak nrCpus Double}
    (measuring : state.doCalibrate = false) (tick : Tick nrCpus) :
    ∃ load, (state.itimer ops options tick).1.target =
        (itimer options state.target load).1 ∧
      (AllDefined options (state.itimer ops options tick).2 ↔
        interval state.alarmTime tick.now ≠ 0 ∧ (∀ i, state.countsPerSec i ≠ 0) ∧
          AllDefined options (storeEvents options state.target load)) := by
  unfold Cyclesoak.itimer
  dsimp only
  rw [if_neg (by rw [measuring]; exact Bool.false_ne_true)]
  refine ⟨_, rfl, ?_⟩
  rw [allDefined_append, allDefined_append, allDefined_counted processors,
    allDefined_loads processors, and_assoc]

end Signal

/-- Nothing is stored during the warmup, and later the array needs cells. -/
theorem storeEvents_defined (period : 1 ≤ options.periodSecs) {target : Target Double}
    {count : Nat} (warmed : Warmed options target count) (load : Double) :
    AllDefined options (storeEvents options target load) ↔
      (warmupTicks options ≤ count → 0 < nSamples options) := by
  unfold storeEvents
  by_cases early : count < warmupTicks options
  · rw [warmed.itimer_early period early]
    exact iff_of_true allDefined_nil fun late => absurd early (Nat.not_lt.mpr late)
  · have late := Nat.le_of_not_lt early
    rw [warmed.itimer_late period late, List.flatMap_singleton, allDefined_cons, allDefined_cons]
    constructor
    · intro defined _
      exact Int.lt_of_le_of_lt defined.2.1.1 defined.2.1.2
    · intro cells
      have positive := cells late
      have place := Int.tmod_eq_emod_of_nonneg (b := nSamples options)
        (Int.natCast_nonneg target.cpuSamples)
      refine ⟨Int.ne_of_gt positive, ⟨?_, ?_⟩, allDefined_nil⟩
      · rw [place]
        exact Int.emod_nonneg _ (Int.ne_of_gt positive)
      · rw [place]
        exact Int.emod_lt_of_pos _ positive

/-! ## Many signals -/

section Signals

variable (processors : 0 < nrCpus)
include processors

theorem run_defined_calibrating {state : Cyclesoak nrCpus Double}
    (calibrating : state.doCalibrate = true) (ticks : List (Tick nrCpus)) :
    AllDefined options ((cyclesoakMachine ops options).run state ticks).2 ↔
      Advances state.alarmTime (ticks.map Tick.now) := by
  induction ticks generalizing state with
  | nil => exact iff_of_true allDefined_nil trivial
  | cons tick rest inductionHypothesis =>
      have later := inductionHypothesis ((state.itimer_doCalibrate ops options tick).trans
        calibrating)
      rw [state.itimer_alarmTime] at later
      rw [Machine.run, allDefined_append]
      exact and_congr (itimer_defined_calibrating processors calibrating tick) later

variable (ops) in
/-- Behind the calibration the processors need counts, and the array needs cells as soon
as the warmup is over. -/
theorem run_defined_measuring (period : 1 ≤ options.periodSecs) {state : Cyclesoak nrCpus Double}
    (measuring : state.doCalibrate = false) {count : Nat}
    (warmed : Warmed options state.target count) (ticks : List (Tick nrCpus)) :
    AllDefined options ((cyclesoakMachine ops options).run state ticks).2 ↔
      Advances state.alarmTime (ticks.map Tick.now) ∧
        (ticks ≠ [] → ∀ i, state.countsPerSec i ≠ 0) ∧
        (warmupTicks options < count + ticks.length → 0 < nSamples options) := by
  induction ticks generalizing state count with
  | nil =>
      have within := warmed.2
      refine iff_of_true allDefined_nil ⟨trivial, fun impossible => absurd rfl impossible, ?_⟩
      intro late
      rw [List.length_nil] at late
      omega
  | cons tick rest inductionHypothesis =>
      rcases itimer_defined_measuring ops options processors measuring tick
        with ⟨load, same, here⟩
      have within := warmed.2
      have next := warmed.next period load
      rw [← same] at next
      have later := inductionHypothesis
        ((state.itimer_doCalibrate ops options tick).trans measuring) next
      rw [state.itimer_alarmTime, state.itimer_countsPerSec] at later
      rw [storeEvents_defined period warmed load] at here
      rw [Machine.run, allDefined_append]
      refine (and_congr here later).trans ?_
      rw [List.length_cons, List.map_cons, Advances]
      constructor
      · rintro ⟨⟨first, counts, cell⟩, rest_, _, cells⟩
        refine ⟨⟨first, rest_⟩, fun _ => counts, fun late => ?_⟩
        by_cases here : warmupTicks options ≤ count
        · exact cell here
        · exact cells (by omega)
      · rintro ⟨⟨first, rest_⟩, counts, cells⟩
        refine ⟨⟨first, counts (List.cons_ne_nil _ _), fun late => cells (by omega)⟩, rest_,
          fun _ => counts (List.cons_ne_nil _ _), fun late => cells (by omega)⟩

end Signals

/-! ## The average and the figures -/

theorem asInt_lt (value : Int) : asInt value < 0x80000000 := by
  rw [asInt, Int.bmod_def]
  split
  · assumption
  · have below := Int.emod_lt_of_pos value (show (0 : Int) < 0x100000000 by decide)
    omega

theorem asInt_of_lt {count : Nat} (small : (count : Int) < 0x80000000) :
    asInt count = count := by
  rw [asInt, Int.bmod_def, Int.emod_eq_of_lt (Int.natCast_nonneg count) (by omega),
    if_pos (by omega)]

theorem marshall_defined (processors : 0 < nrCpus) (target : Target Double) :
    AllDefined options (cpuTargetMarshall ops options nrCpus target).2 ↔
      0 < tosum options target.cpuSamples ∧
        tosum options target.cpuSamples ≤ nSamples options ∧ nrCpus ≤ nSamples options := by
  unfold cpuTargetMarshall
  dsimp only
  rw [allDefined_append, allDefined_append, allDefined_indices, allDefined_indices,
    allDefined_cons, CycleEvent.Defined]
  have nothing : AllDefined options [] := allDefined_nil
  constructor
  · rintro ⟨⟨first, some_, _⟩, second⟩
    omega
  · rintro ⟨some_, inside, figures⟩
    exact ⟨⟨Or.inr (by omega), by omega, nothing⟩, Or.inr figures⟩

/-- The cells that are averaged are inside an array for some processors exactly if there
are samples, and without a cooldown no more of them than cells. -/
theorem tosum_inside (cells : 0 < nSamples options) (taken : Nat) :
    (0 < tosum options taken ∧ tosum options taken ≤ nSamples options) ↔
      0 < taken ∧ (options.cooldownTime = 0 → 0 < asInt taken ∧ asInt taken ≤ 3600) := by
  unfold tosum
  by_cases cooldown : options.cooldownTime = 0
  · have none_ : asInt ((0 : Nat) : Int) = 0 := rfl
    rw [if_neg (not_not_intro cooldown), nSamples, if_neg (not_not_intro cooldown)]
    constructor
    · intro inside
      refine ⟨Nat.pos_of_ne_zero ?_, fun _ => inside⟩
      rintro rfl
      omega
    · exact fun inside => inside.2 cooldown
  · have even := nSamples_even cooldown
    have half : (nSamples options).tdiv 2 = nSamples options / 2 :=
      Int.tdiv_eq_ediv_of_nonneg (Int.le_of_lt cells)
    have bound : nSamples options < 0x80000000 := by
      rw [nSamples, if_pos cooldown]
      exact asInt_lt _
    rw [if_pos cooldown, half]
    by_cases few : (taken : Int) < nSamples options / 2
    · rw [if_pos few, asInt_of_lt (by omega)]
      constructor
      · exact fun inside => ⟨by omega, fun zero => absurd zero cooldown⟩
      · exact fun some_ => ⟨by omega, by omega⟩
    · rw [if_neg few]
      constructor
      · exact fun inside => ⟨by omega, fun zero => absurd zero cooldown⟩
      · exact fun some_ => ⟨by omega, by omega⟩

/-! ## A session -/

section Session

variable {session : Session nrCpus} (processors : 0 < nrCpus) (period : 1 ≤ options.periodSecs)

theorem sizeEvents_defined (period : 1 ≤ options.periodSecs) :
    AllDefined options (sizeEvents options) ↔ options.cooldownTime + 1 < 0x80000000 := by
  unfold sizeEvents
  by_cases cooldown : options.cooldownTime = 0
  · rw [if_neg (not_not_intro cooldown), cooldown]
    exact iff_of_true allDefined_nil (by decide)
  · rw [if_pos cooldown, allDefined_cons, allDefined_cons]
    exact and_iff_left ⟨show options.periodSecs ≠ 0 by omega, allDefined_nil⟩

theorem Session.events_of_run {final : Cyclesoak nrCpus Double}
    (reached : (session.run ops options).1 = some final) :
    session.events ops options = (session.run ops options).2 ++
      (cpuTargetMarshall ops options nrCpus final.target).2 := by
  unfold Session.events
  dsimp only
  rw [reached]

include processors period

/-- No count of the calibration is there before the timer is stopped. -/
theorem stop_defined :
    AllDefined options (session.stop ops options (session.calibrate ops options).1).2 ↔
      session.stopping = [] := by
  have warmed := session.calibrated_warmed ops options
  have counts : (session.calibrate ops options).1.calibrated.countsPerSec = fun _ => 0 :=
    run_countsPerSec session.calibration
  have defined := run_defined_measuring ops processors period rfl warmed session.stopping
  unfold Session.stop
  rw [defined, counts]
  constructor
  · rintro ⟨_, counted, _⟩
    by_contra some_
    exact counted some_ ⟨0, processors⟩ rfl
  · intro none_
    rw [none_]
    refine ⟨trivial, fun impossible => absurd rfl impossible, fun late => ?_⟩
    exact absurd late (Nat.not_lt_zero _)

/-- For every session that comes to its end: every operation is defined if and only if
the session fits the array. -/
theorem events_defined_iff {final : Cyclesoak nrCpus Double}
    (reached : (session.run ops options).1 = some final) :
    AllDefined options (session.events ops options) ↔ BufferFits options session := by
  rcases Session.of_run reached with ⟨_, ready, prepared, ended, events⟩
  have measuring : (session.stop ops options (session.calibrate ops options).1).1.doCalibrate =
      false := run_doCalibrate session.stopping
  obtain ⟨counted, begun⟩ := Cyclesoak.of_prepCyclesoak measuring prepared
  have calibrating : AllDefined options (session.calibrate ops options).2 ↔
      Advances session.calibrateAt (session.calibration.map Tick.now) :=
    run_defined_calibrating processors rfl session.calibration
  rw [Session.events_of_run reached, events, allDefined_append, allDefined_append,
    allDefined_append, allDefined_append, sizeEvents_defined period, calibrating,
    stop_defined processors period, marshall_defined processors]
  by_cases stopped : session.stopping = []
  · -- Without a signal in between, the measurement begins with the array of the setup.
    have warmed : Warmed options ready.target 0 := by
      have behind := session.stop_warmed ops period
      rw [stopped, List.length_nil, Nat.zero_min] at behind
      rw [begun]
      exact behind
    have start : ready.doCalibrate = false := by rw [begun]; exact measuring
    have alarm : ready.alarmTime = session.startAt := by rw [begun]
    have counts : ∀ i, ready.countsPerSec i ≠ 0 := by rw [begun]; exact counted
    have taken := Session.cpuSamples_of_run period reached
    rw [stopped, List.length_nil, Nat.sub_zero] at taken
    rw [run_defined_measuring ops processors period start warmed, alarm, Nat.zero_add, taken]
    constructor
    · rintro ⟨⟨⟨⟨cooldown, clock⟩, _⟩, restarted, _, _⟩, some_, inside, cells⟩
      have fits := (tosum_inside (by omega) _).mp ⟨some_, inside⟩
      exact ⟨clock, restarted, stopped, cooldown, cells, by omega, fits.2⟩
    · intro fits
      have cells : 0 < nSamples options :=
        Int.lt_of_lt_of_le (Int.natCast_pos.mpr processors) fits.processors
      have inside := (tosum_inside cells _).mpr
        ⟨Nat.sub_pos_of_lt fits.sampled, fits.hour⟩
      exact ⟨⟨⟨⟨fits.cooldown, fits.clock⟩, stopped⟩, fits.restarted, fun _ => counts,
        fun _ => cells⟩, inside.1, inside.2, fits.processors⟩
  · constructor
    · exact fun defined => absurd defined.1.1.2 stopped
    · exact fun fits => absurd fits.stopped stopped

end Session

/-- Two processors, an array of four cells and three samples. -/
theorem events_defined_iff_two :
    AllDefined { warmupTime := 0, cooldownTime := 1, periodSecs := 1 }
        ((secondSession 2 3).events exactLoadOps
          { warmupTime := 0, cooldownTime := 1, periodSecs := 1 }) ↔
      BufferFits { warmupTime := 0, cooldownTime := 1, periodSecs := 1 } (secondSession 2 3) := by
  rcases Option.isSome_iff_exists.mp (show ((secondSession 2 3).run exactLoadOps
    { warmupTime := 0, cooldownTime := 1, periodSecs := 1 }).1.isSome = true by decide) with
    ⟨final, reached⟩
  exact events_defined_iff (by decide) (by decide) reached

/-- Eight processors have more figures than the array has cells. -/
theorem eightProcessors_outside :
    ((secondSession 8 4).run exactLoadOps
        { warmupTime := 0, cooldownTime := 1, periodSecs := 1 }).1.isSome = true ∧
      ¬ AllDefined { warmupTime := 0, cooldownTime := 1, periodSecs := 1 }
        ((secondSession 8 4).events exactLoadOps
          { warmupTime := 0, cooldownTime := 1, periodSecs := 1 }) := by
  have ends : ((secondSession 8 4).run exactLoadOps
      { warmupTime := 0, cooldownTime := 1, periodSecs := 1 }).1.isSome = true := by decide
  refine ⟨ends, ?_⟩
  intro defined
  rcases Option.isSome_iff_exists.mp ends with ⟨final, reached⟩
  rw [Session.events_of_run reached, allDefined_append] at defined
  have outside := ((marshall_defined (by decide) final.target).mp defined.2).2.2
  revert outside
  decide

end CpuTarget
end Ipbench
