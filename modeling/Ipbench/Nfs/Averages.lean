import Ipbench.Foundation.Machine
import Ipbench.Foundation.Word
import Ipbench.Latency.Statistics
import Mathlib.Algebra.Field.Rat
import Mathlib.Algebra.Order.BigOperators.Group.Multiset
import Mathlib.Tactic.FieldSimp
import Mathlib.Tactic.Ring

namespace Ipbench
namespace Nfs

open Foundation Latency

/-!
# Averages and spread

`average_uint64` adds up the samples and their squares.  An assertion stops it when
the total wraps around.  The squares are 64-bit products that nothing checks, and so
is the square of the total, although these grow faster than the total does.

The floating-point operations are parameters.  With exact arithmetic in their place,
and no root, the second result is the value under the root.
-/

/-! ## The code -/

structure DoubleOps (Double : Type) where
  zero : Double
  ofUInt64 : UInt64 → Double
  ofInt64 : Int → Double
  add : Double → Double → Double
  sub : Double → Double → Double
  div : Double → Double → Double
  sqrt : Double → Double

/-- The 64-bit numbers that `average_uint64` computes. -/
inductive AverageEvent (Number : Type) where
  | newTotal (value : Number)
  | square (value : Number)
  | squaredTotal (value : Number)
deriving DecidableEq, Repr

def AverageEvent.map {Number Other : Type} (change : Number → Other) :
    AverageEvent Number → AverageEvent Other
  | newTotal value => newTotal (change value)
  | square value => square (change value)
  | squaredTotal value => squaredTotal (change value)

variable {Double : Type} (ops : DoubleOps Double)

/-- One turn of the loop, with `total` and `sumsqr`.  After a failed assertion there
is no state. -/
def averageTurn (state : Option (UInt64 × Double)) (x : UInt64) :
    Option (UInt64 × Double) × List (AverageEvent UInt64) :=
  match state with
  | none => (none, [])
  | some (total, sumsqr) =>
      (if total + x < total then none
        else some (total + x, ops.add sumsqr (ops.ofUInt64 (x * x))),
        [.newTotal (total + x), .square (x * x)])

def averageMachine : Machine (Option (UInt64 × Double)) UInt64 (AverageEvent UInt64) where
  step := averageTurn ops

/-- `average_uint64`: the average and the deviation, and what has been computed.
A failed assertion and reading outside the array are `none`. -/
def averageUint64 (x : List UInt64) (n : Nat) :
    Option (UInt64 × Double) × List (AverageEvent UInt64) :=
  if n ≤ 1 ∨ x.length < n then (none, [])
  else
    match (averageMachine ops).run (some (0, ops.zero)) (x.take n) with
    | (none, events) => (none, events)
    | (some (total, sumsqr), events) =>
        let variance := ops.div
          (ops.sub sumsqr (ops.div (ops.ofUInt64 (total * total)) (ops.ofUInt64 (UInt64.ofNat n))))
          (ops.ofUInt64 (UInt64.ofNat (n - 1)))
        (some (total / UInt64.ofNat n, ops.sqrt variance), events ++ [.squaredTotal (total * total)])

/-! ## The exact numbers -/

/-- The same numbers without a bound. -/
def exactEvents : (total : Nat) → List Nat → List (AverageEvent Nat)
  | total, [] => [.squaredTotal (total * total)]
  | total, x :: rest => .newTotal (total + x) :: .square (x * x) :: exactEvents (total + x) rest

/-- Exact arithmetic, without the root. -/
def exactOps : DoubleOps Rat where
  zero := 0
  ofUInt64 word := word.toNat
  ofInt64 number := number
  add := (· + ·)
  sub := (· - ·)
  div := (· / ·)
  sqrt := id

def sampleVariance (values : List Rat) : Rat :=
  (values.map fun value => (value - values.sum / values.length) ^ 2).sum / (values.length - 1)

/-- All numbers of the computation are exact, and so is the value under the root. -/
structure ExactSpread (x : List UInt64) : Prop where
  events : (averageUint64 ops x x.length).2.map (AverageEvent.map UInt64.toNat) =
    exactEvents 0 (x.map UInt64.toNat)
  variance : ∃ average, (averageUint64 exactOps x x.length).1 =
    some (average, sampleVariance (x.map fun sample => (sample.toNat : Rat)))

/-! ## The loop -/

@[simp] theorem averageMachine_none (x : List UInt64) :
    (averageMachine ops).run none x = (none, []) :=
  Machine.run_of_still (fun _ => rfl) x

theorem averageMachine_cons {state next : Option (UInt64 × Double)} {x : UInt64}
    {events : List (AverageEvent UInt64)} (step : averageTurn ops state x = (next, events))
    (rest : List UInt64) :
    (averageMachine ops).run state (x :: rest) =
      (((averageMachine ops).run next rest).1, events ++ ((averageMachine ops).run next rest).2) :=
  Machine.run_cons_of_step step rest

theorem toNat_add_of_fits {total x : UInt64}
    (fits : total.toNat + x.toNat < 0x10000000000000000) :
    (total + x).toNat = total.toNat + x.toNat := by
  rw [UInt64.toNat_add]
  exact Nat.mod_eq_of_lt fits

theorem averageTurn_fits {total x : UInt64} (sumsqr : Double)
    (fits : total.toNat + x.toNat < 0x10000000000000000) :
    averageTurn ops (some (total, sumsqr)) x =
      (some (total + x, ops.add sumsqr (ops.ofUInt64 (x * x))),
        [.newTotal (total + x), .square (x * x)]) := by
  have larger : ¬ total + x < total := by
    rw [UInt64.lt_iff_toNat_lt, toNat_add_of_fits fits]
    omega
  rw [averageTurn, if_neg larger]

/-- A total that wraps around is smaller than before. -/
theorem averageTurn_wraps {total x : UInt64} (sumsqr : Double)
    (wraps : 0x10000000000000000 ≤ total.toNat + x.toNat) :
    (averageTurn ops (some (total, sumsqr)) x).1 = none := by
  have smaller : total + x < total := by
    have first := total.toNat_lt
    have second := x.toNat_lt
    rw [UInt64.lt_iff_toNat_lt, UInt64.toNat_add]
    omega
  rw [averageTurn, if_pos smaller]

/-- A loop whose total fits comes to its end with the total and the squares. -/
theorem averageMachine_run {x : List UInt64} {total : UInt64} (sumsqr : Double)
    (fits : total.toNat + (rttValues x).sum < 0x10000000000000000) :
    ∃ final, ((averageMachine ops).run (some (total, sumsqr)) x).1 =
        some (final, x.foldl (fun sumsqr x => ops.add sumsqr (ops.ofUInt64 (x * x))) sumsqr) ∧
      final.toNat = total.toNat + (rttValues x).sum := by
  induction x generalizing total sumsqr with
  | nil => exact ⟨total, rfl, rfl⟩
  | cons x rest inductionHypothesis =>
      rw [sum_rttValues_cons] at fits ⊢
      have here : total.toNat + x.toNat < 0x10000000000000000 := by omega
      have sum := toNat_add_of_fits here
      rcases inductionHypothesis (ops.add sumsqr (ops.ofUInt64 (x * x)))
        (by rw [sum]; omega) with ⟨final, reached, number⟩
      refine ⟨final, ?_, by rw [number, sum, Nat.add_assoc]⟩
      rw [averageMachine_cons ops (averageTurn_fits ops sumsqr here)]
      exact reached

/-- A loop whose total does not fit is stopped by the assertion. -/
theorem averageMachine_stops {x : List UInt64} {total : UInt64} (sumsqr : Double)
    (wraps : 0x10000000000000000 ≤ total.toNat + (rttValues x).sum) :
    ((averageMachine ops).run (some (total, sumsqr)) x).1 = none := by
  induction x generalizing total sumsqr with
  | nil =>
      have bound := total.toNat_lt
      have empty : (rttValues []).sum = 0 := rfl
      omega
  | cons x rest inductionHypothesis =>
      rw [sum_rttValues_cons] at wraps
      by_cases here : total.toNat + x.toNat < 0x10000000000000000
      · rw [averageMachine_cons ops (averageTurn_fits ops sumsqr here)]
        apply inductionHypothesis
        rw [toNat_add_of_fits here]
        omega
      · have stopped := averageTurn_wraps ops sumsqr (Nat.le_of_not_lt here)
        rw [averageMachine_cons ops (Prod.ext stopped rfl), averageMachine_none]

theorem averageUint64_fits {x : List UInt64} {n : Nat} (several : 1 < n) (inside : n ≤ x.length)
    (fits : (rttValues (x.take n)).sum < 0x10000000000000000) :
    ∃ total deviation, (averageUint64 ops x n).1 = some (total / UInt64.ofNat n, deviation) ∧
      total.toNat = (rttValues (x.take n)).sum := by
  have start : (0 : UInt64).toNat + (rttValues (x.take n)).sum < 0x10000000000000000 := by
    rw [UInt64.toNat_zero, Nat.zero_add]
    exact fits
  rcases averageMachine_run ops ops.zero start with ⟨total, reached, number⟩
  rw [UInt64.toNat_zero, Nat.zero_add] at number
  have guarded : ¬ (n ≤ 1 ∨ x.length < n) := by omega
  unfold averageUint64
  rw [if_neg guarded]
  generalize (averageMachine ops).run (some (0, ops.zero)) (x.take n) = ran at reached
  rcases ran with ⟨state, events⟩
  cases reached
  exact ⟨total, _, rfl, number⟩

/-- Only an array of at least two numbers whose total fits has an average. -/
theorem of_averageUint64 {x : List UInt64} {n : Nat} {result : UInt64 × Double}
    (averaged : (averageUint64 ops x n).1 = some result) :
    1 < n ∧ n ≤ x.length ∧ (rttValues (x.take n)).sum < 0x10000000000000000 := by
  unfold averageUint64 at averaged
  split at averaged
  · cases averaged
  · rename_i guarded
    refine ⟨by omega, by omega, ?_⟩
    by_contra wraps
    have start : 0x10000000000000000 ≤ (0 : UInt64).toNat + (rttValues (x.take n)).sum := by
      rw [UInt64.toNat_zero, Nat.zero_add]
      exact Nat.le_of_not_lt wraps
    have stopped := averageMachine_stops ops ops.zero start
    generalize (averageMachine ops).run (some (0, ops.zero)) (x.take n) = ran at averaged stopped
    rcases ran with ⟨state, events⟩
    cases stopped
    cases averaged

/-! ## Exact numbers -/

/-- The last number is the square of the whole total. -/
theorem exactEvents_concat (total : Nat) (values : List Nat) :
    ∃ numbers, exactEvents total values =
      numbers ++ [.squaredTotal ((total + values.sum) * (total + values.sum))] := by
  induction values generalizing total with
  | nil => exact ⟨[], rfl⟩
  | cons value rest inductionHypothesis =>
      rcases inductionHypothesis (total + value) with ⟨numbers, same⟩
      refine ⟨.newTotal (total + value) :: .square (value * value) :: numbers, ?_⟩
      rw [exactEvents, same, List.sum_cons, Nat.add_assoc]
      rfl

theorem toNat_square_of_lt {word : UInt64} (small : word.toNat < 0x100000000) :
    (word * word).toNat = word.toNat * word.toNat := by
  have square := Nat.mul_lt_mul'' small small
  rw [UInt64.toNat_mul]
  exact Nat.mod_eq_of_lt square

/-- A square that is exact is the square of a number below 2^32. -/
theorem lt_of_toNat_square {word : UInt64} (same : (word * word).toNat = word.toNat * word.toNat) :
    word.toNat < 0x100000000 := by
  have bound := (word * word).toNat_lt
  by_contra large
  have square := Nat.mul_le_mul (Nat.le_of_not_lt large) (Nat.le_of_not_lt large)
  omega

theorem sum_rttValues (x : List UInt64) : (rttValues x).sum = (x.map UInt64.toNat).sum :=
  Multiset.sum_coe _

/-- Below 2^32 the numbers of the loop are exact.  The induction is on the array. -/
theorem averageMachine_events {x : List UInt64} {total final : UInt64} {sumsqr squares : Double}
    (small : total.toNat + (rttValues x).sum < 0x100000000)
    (reached : ((averageMachine ops).run (some (total, sumsqr)) x).1 = some (final, squares)) :
    (((averageMachine ops).run (some (total, sumsqr)) x).2 ++
        [AverageEvent.squaredTotal (final * final)]).map (AverageEvent.map UInt64.toNat) =
      exactEvents total.toNat (x.map UInt64.toNat) := by
  induction x generalizing total sumsqr with
  | nil =>
      cases reached
      have lone := Nat.lt_of_le_of_lt (Nat.le_add_right _ _) small
      exact congrArg (fun square => [AverageEvent.squaredTotal square]) (toNat_square_of_lt lone)
  | cons x rest inductionHypothesis =>
      rw [sum_rttValues_cons] at small
      have here : total.toNat + x.toNat < 0x10000000000000000 := by omega
      have sum := toNat_add_of_fits here
      have step := averageMachine_cons ops (averageTurn_fits ops sumsqr here) rest
      rw [step] at reached ⊢
      have later := inductionHypothesis (by rw [sum]; omega) reached
      have spelled : exactEvents total.toNat ((x :: rest).map UInt64.toNat) =
          .newTotal (total.toNat + x.toNat) :: .square (x.toNat * x.toNat) ::
            exactEvents (total.toNat + x.toNat) (rest.map UInt64.toNat) := rfl
      rw [List.append_assoc, List.map_append, later, spelled,
        ← toNat_square_of_lt (show x.toNat < 0x100000000 by omega), ← sum]
      rfl

/-- The whole result for an array whose total fits. -/
theorem averageUint64_run {x : List UInt64} (several : 1 < x.length) {total : UInt64}
    {sumsqr : Double}
    (reached : ((averageMachine ops).run (some (0, ops.zero)) x).1 = some (total, sumsqr)) :
    averageUint64 ops x x.length =
      (some (total / UInt64.ofNat x.length,
          ops.sqrt (ops.div
            (ops.sub sumsqr
              (ops.div (ops.ofUInt64 (total * total)) (ops.ofUInt64 (UInt64.ofNat x.length))))
            (ops.ofUInt64 (UInt64.ofNat (x.length - 1))))),
        ((averageMachine ops).run (some (0, ops.zero)) x).2 ++
          [.squaredTotal (total * total)]) := by
  have guarded : ¬ (x.length ≤ 1 ∨ x.length < x.length) := by omega
  unfold averageUint64
  rw [if_neg guarded, List.take_length]
  generalize (averageMachine ops).run (some (0, ops.zero)) x = ran at reached ⊢
  rcases ran with ⟨state, events⟩
  cases reached
  rfl

/-! ## The variance -/

theorem sum_sq_sub (values : List Rat) (center : Rat) :
    (values.map fun value => (value - center) ^ 2).sum =
      (values.map (· ^ 2)).sum - 2 * center * values.sum + values.length * center ^ 2 := by
  induction values with
  | nil => simp
  | cons value rest inductionHypothesis =>
      simp only [List.map_cons, List.sum_cons, List.length_cons, inductionHypothesis]
      push_cast
      ring

/-- The form of the variance that needs one pass only. -/
theorem sampleVariance_eq {values : List Rat} (nonempty : values ≠ []) :
    sampleVariance values =
      ((values.map (· ^ 2)).sum - values.sum * values.sum / values.length) /
        (values.length - 1) := by
  have positive : (values.length : Rat) ≠ 0 :=
    Nat.cast_ne_zero.mpr (mt List.length_eq_zero_iff.mp nonempty)
  have squares : (values.map (· ^ 2)).sum - 2 * (values.sum / values.length) * values.sum +
      values.length * (values.sum / values.length) ^ 2 =
        (values.map (· ^ 2)).sum - values.sum * values.sum / values.length := by
    field_simp
    ring
  rw [sampleVariance, sum_sq_sub, squares]

/-! ## When the spread is exact -/

theorem foldl_exact_squares {x : List UInt64} (start : Rat)
    (small : ∀ sample ∈ x, sample.toNat < 0x100000000) :
    x.foldl (fun sumsqr x => exactOps.add sumsqr (exactOps.ofUInt64 (x * x))) start =
      start + ((x.map fun sample => (sample.toNat : Rat)).map (· ^ 2)).sum := by
  induction x generalizing start with
  | nil => exact (add_zero start).symm
  | cons x rest inductionHypothesis =>
      have square := toNat_square_of_lt (small x List.mem_cons_self)
      have here : exactOps.add start (exactOps.ofUInt64 (x * x)) = start + (x.toNat : Rat) ^ 2 := by
        change start + (((x * x).toNat : Nat) : Rat) = _
        rw [square]
        push_cast
        ring
      rw [List.foldl_cons, here,
        inductionHypothesis _ fun sample member => small sample (List.mem_cons_of_mem _ member)]
      simp only [List.map_cons, List.sum_cons, add_assoc]

theorem sum_cast (x : List UInt64) :
    (x.map fun sample => (sample.toNat : Rat)).sum = ((rttValues x).sum : Nat) := by
  rw [sum_rttValues]
  induction x with
  | nil => rfl
  | cons x rest inductionHypothesis =>
      rw [List.map_cons, List.sum_cons, inductionHypothesis, List.map_cons, List.sum_cons]
      push_cast
      rfl

/-- Without the root and without rounding the result is the sample variance. -/
theorem averageUint64_variance {x : List UInt64} (several : 1 < x.length)
    (bounded : x.length < 0x100000000) (small : (rttValues x).sum < 0x100000000) :
    ∃ average, (averageUint64 exactOps x x.length).1 =
      some (average, sampleVariance (x.map fun sample => (sample.toNat : Rat))) := by
  have start : (0 : UInt64).toNat + (rttValues x).sum < 0x10000000000000000 := by
    rw [UInt64.toNat_zero]
    omega
  rcases averageMachine_run exactOps exactOps.zero start with ⟨total, reached, number⟩
  rw [UInt64.toNat_zero, Nat.zero_add] at number
  have each : ∀ sample ∈ x, sample.toNat < 0x100000000 := by
    intro sample member
    have least := Multiset.single_le_sum (fun _ _ => Nat.zero_le _) sample.toNat
      (mem_rttValues.mpr ⟨sample, member, rfl⟩)
    omega
  refine ⟨total / UInt64.ofNat x.length, ?_⟩
  rw [averageUint64_run exactOps several reached]
  have nonempty : (x.map fun sample => (sample.toNat : Rat)) ≠ [] := by
    intro empty
    rw [List.map_eq_nil_iff.mp empty] at several
    cases several
  have count : (UInt64.ofNat x.length).toNat = x.length := by
    rw [UInt64.toNat_ofNat', Nat.mod_eq_of_lt (by omega)]
  have less : (UInt64.ofNat (x.length - 1)).toNat = x.length - 1 := by
    rw [UInt64.toNat_ofNat', Nat.mod_eq_of_lt (by omega)]
  rw [sampleVariance_eq nonempty, sum_cast, List.length_map]
  have square : (total * total).toNat = (rttValues x).sum * (rttValues x).sum := by
    rw [toNat_square_of_lt (by rw [number]; exact small), number]
  rw [foldl_exact_squares _ each]
  change some (total / UInt64.ofNat x.length,
    ((0 : Rat) + _ - ((total * total).toNat : Rat) / ((UInt64.ofNat x.length).toNat : Rat)) /
      ((UInt64.ofNat (x.length - 1)).toNat : Rat)) = _
  rw [square, count, less, zero_add, Nat.cast_mul, Nat.cast_sub (Nat.le_of_lt several)]
  rfl

/-- The square of the total shows whether the numbers are exact. -/
theorem sum_lt_of_exactSpread {x : List UInt64} {result : UInt64 × Double}
    (passed : (averageUint64 ops x x.length).1 = some result) (spread : ExactSpread ops x) :
    (rttValues x).sum < 0x100000000 := by
  rcases of_averageUint64 ops passed with ⟨several, _, fits⟩
  rw [List.take_length] at fits
  have start : (0 : UInt64).toNat + (rttValues x).sum < 0x10000000000000000 := by
    rw [UInt64.toNat_zero, Nat.zero_add]
    exact fits
  rcases averageMachine_run ops ops.zero start with ⟨total, reached, number⟩
  rw [UInt64.toNat_zero, Nat.zero_add] at number
  have events := spread.events
  rcases exactEvents_concat 0 (x.map UInt64.toNat) with ⟨numbers, exactly⟩
  rw [averageUint64_run ops several reached, exactly, List.map_append, ← sum_rttValues,
    Nat.zero_add] at events
  have last := List.cons.inj (List.append_inj' events rfl).2
  have square : (total * total).toNat = total.toNat * total.toNat := by
    rw [number]
    exact AverageEvent.squaredTotal.inj last.1
  rw [← number]
  exact lt_of_toNat_square square

/-- For every array of several numbers that passes the assertion: the numbers of
`average_uint64` are exact if and only if the total is below 2^32. -/
theorem exactSpread_iff {x : List UInt64} {result : UInt64 × Double}
    (bounded : x.length < 0x100000000)
    (passed : (averageUint64 ops x x.length).1 = some result) :
    ExactSpread ops x ↔ (rttValues x).sum < 0x100000000 := by
  constructor
  · exact sum_lt_of_exactSpread ops passed
  · intro small
    have several := (of_averageUint64 ops passed).1
    have start : (0 : UInt64).toNat + (rttValues x).sum < 0x10000000000000000 := by
      rw [UInt64.toNat_zero]
      omega
    rcases averageMachine_run ops ops.zero start with ⟨total, reached, _⟩
    constructor
    · rw [averageUint64_run ops several reached]
      exact averageMachine_events ops (by rw [UInt64.toNat_zero, Nat.zero_add]; exact small)
        reached
    · exact averageUint64_variance several bounded small

theorem exactSpread_iff_three :
    ExactSpread exactOps [3, 5, 9] ↔ (rttValues [3, 5, 9]).sum < 0x100000000 := by
  rcases averageUint64_fits exactOps (x := [3, 5, 9]) (n := 3) (by decide) (by decide)
    (by decide) with ⟨total, deviation, passed, _⟩
  exact exactSpread_iff exactOps (by decide) passed

/-- Two samples of 2^31 microseconds pass the assertion, and the square of their total
is computed as zero. -/
theorem largeTotal_wraps :
    (∃ result, (averageUint64 exactOps [0x80000000, 0x80000000] 2).1 = some result) ∧
      .squaredTotal 0 ∈ (averageUint64 exactOps [0x80000000, 0x80000000] 2).2 ∧
      ¬ ExactSpread exactOps [0x80000000, 0x80000000] := by
  rcases averageUint64_fits exactOps (x := [0x80000000, 0x80000000]) (n := 2) (by decide)
    (by decide) (by decide) with ⟨total, deviation, passed, _⟩
  refine ⟨⟨_, passed⟩, ?_, ?_⟩
  · have reached : ((averageMachine exactOps).run (some (0, exactOps.zero))
        [0x80000000, 0x80000000]).1 = some (0x100000000, _) := rfl
    have ran : averageUint64 exactOps [0x80000000, 0x80000000] 2 = _ :=
      averageUint64_run exactOps (by decide) reached
    rw [ran]
    exact List.mem_append_right _ List.mem_cons_self
  · intro spread
    have small := sum_lt_of_exactSpread exactOps passed spread
    revert small
    decide

end Nfs
end Ipbench
