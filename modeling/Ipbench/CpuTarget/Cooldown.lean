import Ipbench.CpuTarget.Sampling
import Mathlib.Data.List.Nodup
import Mathlib.Data.List.Range
import Mathlib.Data.Nat.ModEq

namespace Ipbench
namespace CpuTarget

open Foundation

/-!
# Which loads the average leaves out

The array is a ring whose oldest load moves on with every sample, and
`average_cpu` adds up a fixed range of cells.  The cells from the first one on
hold consecutive loads, up to the newest load, which is in the cell
`(cpu_samples - 1) % n_samples`; behind it the older loads begin.  The first half
of the array is therefore the older half of the loads only when the newest load
is in the last cell.

The control of a run does not look at the loads.  So the positions of the loads
that are averaged are the same for all loads, and they can be read off a run
whose loads are distinct.
-/

variable {Load Other : Type}

/-- The number of cells of the array. -/
def cells (options : Options) : Nat :=
  (nSamples options).toNat

/-! ## The array as a ring -/

/-- The array holds the newest loads, each in the cell of its position. -/
structure Recorded (options : Options) (target : Target Load) (samples : List Load) : Prop where
  counted : target.cpuSamples = samples.length
  size : target.cpuLoad.length = cells options
  newest : ∀ position, position < samples.length → samples.length ≤ position + cells options →
    target.cpuLoad[position % cells options]? = some samples[position]?

/-- Two positions less than a turn apart have different cells. -/
theorem mod_ne_of_lt {length first second : Nat} (before : first < second)
    (near : second < first + length) : first % length ≠ second % length := by
  intro same
  have apart : length ∣ second - first :=
    (Nat.modEq_iff_dvd' (Nat.le_of_lt before)).mp same
  have far := Nat.le_of_dvd (Nat.sub_pos_of_lt before) apart
  omega

theorem Recorded.itimer {options : Options} {target : Target Load} {samples : List Load}
    (positive : 0 < cells options) (recorded : Recorded options target samples) (load : Load) :
    Recorded options (itimer options target load).1
      (samples ++ (CpuTarget.itimer options target load).2) := by
  unfold CpuTarget.itimer
  split
  · rw [List.append_nil]
    exact ⟨recorded.counted, recorded.size, recorded.newest⟩
  · constructor
    · rw [List.length_append, recorded.counted]
      rfl
    · dsimp only
      rw [List.length_set, recorded.size]
    · intro position taken recent
      rw [List.length_append, List.length_singleton] at taken recent
      dsimp only
      rw [recorded.counted]
      by_cases newest : position = samples.length
      · have inside : samples.length % cells options < target.cpuLoad.length := by
          rw [recorded.size]
          exact Nat.mod_lt _ positive
        rw [newest, List.getElem?_concat_length]
        exact List.getElem?_set_self inside
      · have older : position < samples.length := by omega
        have other : samples.length % cells options ≠ position % cells options :=
          (mod_ne_of_lt older (by omega)).symm
        rw [List.getElem?_append_left older, ← recorded.newest position older (by omega)]
        exact List.getElem?_set_ne other

theorem recorded_run (options : Options) (positive : 0 < cells options) (loads : List Load) :
    Recorded options (cpuTargetRun options loads).1 (cpuTargetRun options loads).2 := by
  have start : Recorded options (cpuTargetSetup Load options) [] := by
    constructor
    · rfl
    · exact List.length_replicate
    · intro position impossible
      exact absurd impossible (Nat.not_lt_zero _)
  exact (cpuTargetMachine Load options).run_invariant
    (fun target samples load recorded _ => recorded.itimer positive load) start
    ((cpuTargetMachine Load options).along_true _ [] loads)

/-- Where the loads begin that reach up to the newest one and start in the first
cell. -/
def turnStart (options : Options) (taken : Nat) : Nat :=
  taken - 1 - (taken - 1) % cells options

/-- The cells up to that of the newest load hold consecutive loads. -/
theorem Recorded.cell {options : Options} {target : Target Load} {samples : List Load}
    (recorded : Recorded options target samples) (positive : 0 < cells options)
    (full : cells options ≤ samples.length) {i : Nat}
    (upTo : i ≤ (samples.length - 1) % cells options) :
    target.cpuLoad[i]? = some samples[turnStart options samples.length + i]? := by
  have turns := Nat.div_add_mod (samples.length - 1) (cells options)
  have below := Nat.mod_lt (samples.length - 1) positive
  have start : turnStart options samples.length =
      cells options * ((samples.length - 1) / cells options) := by
    rw [turnStart]
    omega
  have place : (turnStart options samples.length + i) % cells options = i := by
    rw [start, Nat.mul_add_mod]
    exact Nat.mod_eq_of_lt (Nat.lt_of_le_of_lt upTo below)
  have held := recorded.newest (turnStart options samples.length + i)
    (by rw [start]; omega) (by rw [start]; omega)
  rwa [place] at held

/-! ## The loads of a run -/

def Target.map (relabel : Load → Other) (target : Target Load) : Target Other where
  warmupSamples := target.warmupSamples
  cpuSamples := target.cpuSamples
  cpuLoad := target.cpuLoad.map (Option.map relabel)

theorem itimer_map (options : Options) (relabel : Load → Other) (target : Target Load)
    (load : Load) :
    itimer options (target.map relabel) (relabel load) =
      ((itimer options target load).1.map relabel,
        (itimer options target load).2.map relabel) := by
  unfold itimer
  by_cases warm : target.warmupSamples * options.periodSecs < options.warmupTime
  · rw [if_pos warm]
    exact if_pos warm
  · rw [if_neg warm]
    refine (if_neg warm).trans ?_
    simp [Target.map, List.map_set]

theorem cpuTargetRun_map (options : Options) (relabel : Load → Other) (loads : List Load) :
    cpuTargetRun options (loads.map relabel) =
      ((cpuTargetRun options loads).1.map relabel,
        (cpuTargetRun options loads).2.map relabel) := by
  have started : cpuTargetSetup Other options = (cpuTargetSetup Load options).map relabel := by
    simp [cpuTargetSetup, Target.map]
  unfold cpuTargetRun
  rw [started]
  generalize cpuTargetSetup Load options = target
  induction loads generalizing target with
  | nil => rfl
  | cons load rest inductionHypothesis =>
      have step : (cpuTargetMachine Other options).step (target.map relabel) (relabel load) =
          (((cpuTargetMachine Load options).step target load).1.map relabel,
            ((cpuTargetMachine Load options).step target load).2.map relabel) :=
        itimer_map options relabel target load
      simp only [List.map_cons, Machine.run, step, inductionHypothesis, List.map_append]

/-- The number of loads that are stored in a run of so many signals. -/
def samplesTaken (options : Options) (signals : Nat) : Nat :=
  (cpuTargetRun options (List.replicate signals ())).2.length

theorem length_samples (options : Options) (loads : List Load) :
    (cpuTargetRun options loads).2.length = samplesTaken options loads.length := by
  have units : loads.map (fun _ => ()) = List.replicate loads.length () := List.map_const' ..
  rw [samplesTaken, ← units, cpuTargetRun_map, List.length_map]

theorem samples_sublist (options : Options) (loads : List Load) :
    (cpuTargetRun options loads).2.Sublist loads := by
  unfold cpuTargetRun
  generalize cpuTargetSetup Load options = target
  induction loads generalizing target with
  | nil => exact List.Sublist.refl _
  | cons load rest inductionHypothesis =>
      rw [Machine.run]
      have later := inductionHypothesis ((cpuTargetMachine Load options).step target load).1
      change ((itimer options target load).2 ++ _).Sublist _
      unfold itimer
      split
      · exact later.cons load
      · exact later.cons_cons load

/-! ## The loads of the average -/

theorem readLoads_eq_some {cpuLoad : List (Option Load)} {count : Nat} {loads : List Load} :
    readLoads cpuLoad count = some loads ↔
      loads.length = count ∧ ∀ i < count, cpuLoad[i]? = some loads[i]? := by
  induction count generalizing loads with
  | zero =>
      constructor
      · intro read
        cases read
        exact ⟨rfl, fun i impossible => absurd impossible (Nat.not_lt_zero i)⟩
      · rintro ⟨empty, _⟩
        rw [List.length_eq_zero_iff.mp empty]
        rfl
  | succ count inductionHypothesis =>
      constructor
      · intro read
        rcases Option.bind_eq_some_iff.mp read with ⟨earlier, first, rest⟩
        rcases Option.bind_eq_some_iff.mp rest with ⟨load, last, same⟩
        cases same
        obtain ⟨length, held⟩ := inductionHypothesis.mp first
        refine ⟨by rw [List.length_append, length]; rfl, ?_⟩
        intro i below
        by_cases newest : i = count
        · rw [newest, ← length, List.getElem?_concat_length, length]
          exact Option.join_eq_some_iff.mp last
        · have older : i < count := by omega
          rw [held i older, List.getElem?_append_left (by rw [length]; exact older)]
      · rintro ⟨length, held⟩
        rcases List.eq_nil_or_concat loads with empty | ⟨earlier, load, split⟩
        · rw [empty] at length
          cases length
        · rw [List.concat_eq_append] at split
          subst split
          rw [List.length_append, List.length_singleton] at length
          have whole : earlier.length = count := by omega
          have first : readLoads cpuLoad count = some earlier := by
            refine inductionHypothesis.mpr ⟨whole, ?_⟩
            intro i below
            rw [held i (Nat.lt_succ_of_lt below),
              List.getElem?_append_left (by rw [whole]; exact below)]
          have last : (cpuLoad[count]?).join = some load := by
            rw [held count (Nat.lt_succ_self count), ← whole, List.getElem?_concat_length]
            rfl
          rw [readLoads, first, Option.bind_eq_bind, Option.bind_some, last]
          rfl

/-! ## The purpose -/

/-- After a run of so many signals the average is that of loads at certain
positions, whatever the loads are, and each of them is at least half the array
older than the newest. -/
def ExcludesCooldown (options : Options) (signals : Nat) : Prop :=
  ∃ positions : List Nat,
    (∀ position ∈ positions, position + cells options / 2 < samplesTaken options signals) ∧
    ∀ (Load : Type) (loads : List Load), loads.length = signals →
      ∃ averaged, averagedLoads options (cpuTargetRun options loads).1 = some averaged ∧
        averaged.map some = positions.map fun position =>
          (cpuTargetRun options loads).2[position]?

section Average

variable {options : Options} {signals : Nat}
  (positive : 0 < cells options) (full : cells options ≤ samplesTaken options signals)
include positive full

/-- If the cells that are added up end half an array before the newest load,
they hold old loads only. -/
theorem excludesCooldown_of_le
    (older : (tosum options (samplesTaken options signals)).toNat = 0 ∨
      (tosum options (samplesTaken options signals)).toNat + cells options / 2 ≤
        (samplesTaken options signals - 1) % cells options + 1) :
    ExcludesCooldown options signals := by
  generalize count : (tosum options (samplesTaken options signals)).toNat = tosum at older
  have reach : (samplesTaken options signals - 1) % cells options + 1 +
      turnStart options (samplesTaken options signals) = samplesTaken options signals := by
    have below := Nat.mod_le (samplesTaken options signals - 1) (cells options)
    rw [turnStart]
    omega
  refine ⟨(List.range tosum).map (turnStart options (samplesTaken options signals) + ·), ?_, ?_⟩
  · intro position member
    rcases List.mem_map.mp member with ⟨i, inRange, rfl⟩
    rw [List.mem_range] at inRange
    omega
  · rintro Load loads rfl
    have recorded := recorded_run options positive loads
    have length := length_samples options loads
    refine ⟨((cpuTargetRun options loads).2.drop
      (turnStart options (samplesTaken options loads.length))).take tosum, ?_, ?_⟩
    · rw [averagedLoads, recorded.counted, length, count, readLoads_eq_some]
      constructor
      · rw [List.length_take, List.length_drop, length]
        omega
      · intro i below
        rw [recorded.cell positive (by rw [length]; exact full) (by rw [length]; omega), length,
          List.getElem?_take_of_lt below, List.getElem?_drop]
    · apply List.ext_getElem?
      intro i
      rw [List.getElem?_map, List.getElem?_map, List.getElem?_map]
      by_cases below : i < tosum
      · have inside : turnStart options (samplesTaken options loads.length) + i <
            (cpuTargetRun options loads).2.length := by
          rw [length]
          omega
        rw [List.getElem?_take_of_lt below, List.getElem?_drop, List.getElem?_range below]
        rw [List.getElem?_eq_getElem inside]
        exact congrArg some (List.getElem?_eq_getElem inside).symm
      · have beyond : (List.range tosum)[i]? = none := by
          rw [List.getElem?_eq_none_iff, List.length_range]
          omega
        rw [List.getElem?_take_eq_none (Nat.le_of_not_lt below), beyond]
        rfl

/-- Distinct loads show where the cells that are added up must end. -/
theorem le_of_excludesCooldown (half : 0 < cells options / 2)
    (excludes : ExcludesCooldown options signals) :
    (tosum options (samplesTaken options signals)).toNat = 0 ∨
      (tosum options (samplesTaken options signals)).toNat + cells options / 2 ≤
        (samplesTaken options signals - 1) % cells options + 1 := by
  rcases excludes with ⟨positions, older, each⟩
  have ticks : (List.range signals).length = signals := List.length_range
  have length := length_samples options (List.range signals)
  have recorded := recorded_run options positive (List.range signals)
  have distinct := List.nodup_range.sublist (samples_sublist options (List.range signals))
  rcases each Nat (List.range signals) ticks with ⟨averaged, read, found⟩
  rw [ticks] at length
  rw [averagedLoads, recorded.counted, length, readLoads_eq_some] at read
  generalize (tosum options (samplesTaken options signals)).toNat = tosum at read ⊢
  generalize (cpuTargetRun options (List.range signals)).2 = samples at *
  by_cases nothing : tosum = 0
  · exact Or.inl nothing
  · refine Or.inr ?_
    have below := Nat.mod_lt (samplesTaken options signals - 1) positive
    have less := Nat.mod_le (samplesTaken options signals - 1) (cells options)
    -- The last cell that is added up, or that of the newest load if this comes first.
    obtain ⟨i, inSum, upTo, final⟩ : ∃ i, i < tosum ∧
        i ≤ (samplesTaken options signals - 1) % cells options ∧
        (i + 1 = tosum ∨ i = (samplesTaken options signals - 1) % cells options) := by
      by_cases short : tosum ≤ (samplesTaken options signals - 1) % cells options
      · exact ⟨tosum - 1, by omega, by omega, Or.inl (by omega)⟩
      · exact ⟨(samplesTaken options signals - 1) % cells options, by omega, Nat.le_refl _,
          Or.inr rfl⟩
    have cell : (cpuTargetRun options (List.range signals)).1.cpuLoad[i]? =
        some samples[turnStart options samples.length + i]? :=
      recorded.cell positive (by rw [length]; exact full) (by rw [length]; exact upTo)
    rw [length, read.2 i inSum] at cell
    have same := Option.some.inj cell
    have inside : turnStart options (samplesTaken options signals) + i < samples.length := by
      rw [length, turnStart]
      omega
    have here := congrArg (·[i]?) found
    simp only [List.getElem?_map, same, List.getElem?_eq_getElem inside, Option.map_some] at here
    rcases Option.map_eq_some_iff.mp here.symm with ⟨position, among, at_⟩
    have equal : position = turnStart options (samplesTaken options signals) + i := by
      rcases List.getElem?_eq_some_iff.mp at_ with ⟨within, value⟩
      exact distinct.getElem_inj_iff.mp value
    have far := older position (List.mem_of_getElem? among)
    rw [equal, turnStart] at far
    omega

end Average

/-! ## The condition -/

/-- The newest load is in the last cell; or there is no cooldown, and the number
of loads overflows an `int`, so that hardly any of them is averaged. -/
def OlderHalf (options : Options) (taken : Nat) : Prop :=
  (options.cooldownTime ≠ 0 ∧ nSamples options ∣ taken) ∨
    (options.cooldownTime = 0 ∧
      (asInt taken ≤ 0 ∨ asInt taken + nSamples options / 2 ≤ (taken - 1) % nSamples options + 1))

/-- With a cooldown the array has an even number of cells. -/
theorem nSamples_even {options : Options} (cooldown : options.cooldownTime ≠ 0) :
    2 ∣ nSamples options := by
  rw [nSamples, if_pos cooldown, asInt, Int.bmod_def]
  split
  · omega
  · omega

theorem dvd_iff_newest_last {length taken : Nat} (positive : 0 < length) (some_ : 0 < taken) :
    length ∣ taken ↔ (taken - 1) % length + 1 = length := by
  have turns := Nat.div_add_mod (taken - 1) length
  have below := Nat.mod_lt (taken - 1) positive
  have split : taken = length * ((taken - 1) / length) + ((taken - 1) % length + 1) := by omega
  constructor
  · intro divides
    by_contra early
    have rest := Nat.mod_eq_zero_of_dvd divides
    rw [split, Nat.mul_add_mod, Nat.mod_eq_of_lt (by omega)] at rest
    cases rest
  · intro last
    rw [last] at split
    exact ⟨(taken - 1) / length + 1, split⟩

/-- The average leaves out the newer half of the array exactly if the newest
load is in the last cell of it. -/
theorem excludesCooldown_iff (options : Options) (signals : Nat)
    (two : 2 ≤ nSamples options) (full : nSamples options ≤ samplesTaken options signals) :
    ExcludesCooldown options signals ↔ OlderHalf options (samplesTaken options signals) := by
  have number : nSamples options = cells options :=
    (Int.toNat_of_nonneg (Int.le_trans (by decide) two)).symm
  rw [number] at two full
  have positive : 0 < cells options := by omega
  have whole : cells options ≤ samplesTaken options signals := by omega
  have exact_ : ExcludesCooldown options signals ↔
      (tosum options (samplesTaken options signals)).toNat = 0 ∨
        (tosum options (samplesTaken options signals)).toNat + cells options / 2 ≤
          (samplesTaken options signals - 1) % cells options + 1 :=
    ⟨le_of_excludesCooldown positive whole (by omega), excludesCooldown_of_le positive whole⟩
  rw [exact_, OlderHalf, tosum, number]
  by_cases cooldown : options.cooldownTime = 0
  · rw [if_neg (not_not_intro cooldown)]
    simp only [cooldown, ne_eq, not_true_eq_false, false_and, true_and, false_or]
    have cast : ((samplesTaken options signals : Int) - 1) % cells options =
        ((samplesTaken options signals - 1) % cells options : Nat) := by
      rw [Int.natCast_emod, Int.ofNat_sub (by omega)]
      rfl
    rw [cast]
    omega
  · have even := nSamples_even cooldown
    rw [number] at even
    have half : ((cells options : Int)).tdiv 2 = (cells options / 2 : Nat) := by
      rw [Int.tdiv_eq_ediv_of_nonneg (Int.natCast_nonneg _)]
      rfl
    have enough : ¬ (samplesTaken options signals : Int) < (cells options / 2 : Nat) := by omega
    rw [if_pos cooldown, half, if_neg enough]
    simp only [cooldown, ne_eq, not_false_eq_true, false_and, true_and, or_false]
    rw [Int.natCast_dvd_natCast, dvd_iff_newest_last positive (by omega)]
    have below := Nat.mod_lt (samplesTaken options signals - 1) positive
    omega

theorem excludesCooldown_iff_twoTurns :
    ExcludesCooldown { warmupTime := 0, cooldownTime := 1, periodSecs := 1 } 8 ↔
      OlderHalf { warmupTime := 0, cooldownTime := 1, periodSecs := 1 } 8 :=
  excludesCooldown_iff { warmupTime := 0, cooldownTime := 1, periodSecs := 1 } 8 (by decide)
    (by decide)

/-- With five loads the newest one is in the first cell and is averaged. -/
theorem newestLoad_averaged :
    nSamples { warmupTime := 0, cooldownTime := 1, periodSecs := 1 } = 4 ∧
      samplesTaken { warmupTime := 0, cooldownTime := 1, periodSecs := 1 } 5 = 5 ∧
      ¬ ExcludesCooldown { warmupTime := 0, cooldownTime := 1, periodSecs := 1 } 5 := by
  refine ⟨by decide, by decide, ?_⟩
  intro excludes
  have impossible := le_of_excludesCooldown (by decide) (by decide) (by decide) excludes
  revert impossible
  decide

end CpuTarget
end Ipbench
