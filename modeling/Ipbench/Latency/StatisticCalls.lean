import Ipbench.Latency.Statistics
import Ipbench.Foundation.Machine
import Mathlib.Algebra.Order.BigOperators.Group.Multiset
import Mathlib.Algebra.Order.Ring.Int
import Mathlib.Data.Int.ModEq
import Mathlib.Tactic.Ring

namespace Ipbench
namespace Latency

open Foundation

/-!
# The statistics, called in any order

`med_rtt` sorts the array that the other functions read, so the calls share a
state.  What each of them returns is stated of the collection of the entries,
which no call changes.
-/

/-! ## The calls -/

inductive Statistic where
  | min
  | max
  | avg
  | med
  | dev
deriving DecidableEq, Repr

/-- The value returned by a call, and the array after it. -/
def callStatistic (count : Nat) (rttSample : List UInt64) :
    Statistic → Option (UInt64 × List UInt64)
  | .min => (minRtt rttSample count).map fun min => (min, rttSample)
  | .max => (maxRtt rttSample count).map fun max => (max, rttSample)
  | .avg => (avgRtt rttSample count).map fun avg => (avg, rttSample)
  | .med => medRtt rttSample count
  | .dev => (devRtt rttSample count).map fun dev => (dev, rttSample)

/-- A process that makes calls on one array.  It is gone after a fault. -/
def statisticCalls (count : Nat) :
    Machine (Option (List UInt64)) Statistic (Statistic × UInt64) where
  step
    | none, _ => (none, [])
    | some rttSample, call =>
        match callStatistic count rttSample call with
        | none => (none, [])
        | some (value, left) => (some left, [(call, value)])

/-! ## What the calls stand for -/

def squaredDifferences (values : Multiset Nat) (center : Nat) : Int :=
  (values.map fun value : Nat => ((value : Int) - center) ^ 2).sum

def mean (values : Multiset Nat) : Nat :=
  values.sum / values.card

/-- The statistics of a collection of numbers. -/
def Statistic.Of (values : Multiset Nat) (number : Nat) : Statistic → Prop
  | .min => IsLeast {value | value ∈ values} number
  | .max => IsGreatest {value | value ∈ values} number
  | .avg => number = mean values
  | .med => values.sort[values.card / 2]? = some number
  | .dev => (number : Int) = squaredDifferences values (mean values) / values.card

/-- A collection has one number of each kind at most. -/
theorem Statistic.Of.unique {values : Multiset Nat} {first second : Nat} {call : Statistic}
    (left : call.Of values first) (right : call.Of values second) : first = second := by
  cases call with
  | min => exact IsLeast.unique left right
  | max => exact IsGreatest.unique left right
  | avg => exact Eq.trans left (Eq.symm right)
  | med => exact Option.some.inj (Eq.trans (Eq.symm left) right)
  | dev => exact Int.ofNat.inj (Eq.trans left (Eq.symm right))

section Order

variable {values : Multiset Nat} {least greatest : Nat}

theorem mean_ge_least (isLeast : IsLeast {value | value ∈ values} least) :
    least ≤ mean values := by
  have positive : 0 < values.card := Multiset.card_pos_iff_exists_mem.mpr ⟨least, isLeast.1⟩
  have total : values.card • least ≤ values.sum :=
    Multiset.card_nsmul_le_sum fun value member => isLeast.2 member
  rw [mean, Nat.le_div_iff_mul_le positive, Nat.mul_comm]
  exact total

theorem mean_le_greatest (isGreatest : IsGreatest {value | value ∈ values} greatest) :
    mean values ≤ greatest := by
  have total : values.sum ≤ values.card • greatest :=
    Multiset.sum_le_card_nsmul values greatest fun value member => isGreatest.2 member
  exact Nat.div_le_of_le_mul total

/-- An element of the sorted collection is one of the collection. -/
theorem mem_of_rank {rank number : Nat} (found : values.sort[rank]? = some number) :
    number ∈ values :=
  (Multiset.mem_sort (· ≤ ·)).mp (List.mem_of_getElem? found)

end Order

/-! ## The collection of the entries -/

theorem rttValues_perm {rttSample reordered : List UInt64} (permuted : reordered.Perm rttSample) :
    rttValues reordered = rttValues rttSample :=
  Multiset.coe_eq_coe.mpr (permuted.map _)

theorem squaredDifferences_cons (rtt : UInt64) (rest : List UInt64) (center : Nat) :
    squaredDifferences (rttValues (rtt :: rest)) center =
      ((rtt.toNat : Int) - center) ^ 2 + squaredDifferences (rttValues rest) center := by
  simp [squaredDifferences, rttValues]

theorem squaredDifferences_nonneg (values : Multiset Nat) (center : Nat) :
    0 ≤ squaredDifferences values center := by
  apply Multiset.sum_nonneg
  intro square member
  rcases Multiset.mem_map.mp member with ⟨value, _, rfl⟩
  exact sq_nonneg _

/-- A difference that wraps around has the right square, up to 2^64. -/
theorem toNat_square_sub (avg rtt : UInt64) :
    (((avg - rtt) * (avg - rtt)).toNat : Int) ≡
      ((rtt.toNat : Int) - avg.toNat) ^ 2 [ZMOD 0x10000000000000000] := by
  have bound := rtt.toNat_lt
  have wrapped : ((avg - rtt).toNat : Int) ≡ (avg.toNat : Int) - rtt.toNat
      [ZMOD 0x10000000000000000] := by
    rw [UInt64.toNat_sub, Int.ModEq]
    omega
  have product : (((avg - rtt) * (avg - rtt)).toNat : Int) ≡
      ((avg - rtt).toNat : Int) * (avg - rtt).toNat [ZMOD 0x10000000000000000] := by
    rw [UInt64.toNat_mul, Int.natCast_emod, Int.natCast_mul]
    exact Int.mod_modEq _ _
  have square := product.trans (wrapped.mul wrapped)
  have same : ((avg.toNat : Int) - rtt.toNat) * (avg.toNat - rtt.toNat) =
      ((rtt.toNat : Int) - avg.toNat) ^ 2 := by
    ring
  rwa [same] at square

/-- The loop of `dev_rtt` adds the squared differences, up to 2^64. -/
theorem foldl_squares (rest : List UInt64) (avg start : UInt64) :
    ((rest.foldl (fun sum rtt => sum + (avg - rtt) * (avg - rtt)) start).toNat : Int) ≡
      start.toNat + squaredDifferences (rttValues rest) avg.toNat
      [ZMOD 0x10000000000000000] := by
  induction rest generalizing start with
  | nil => simp [rttValues, squaredDifferences]
  | cons rtt rest inductionHypothesis =>
      have added : ((start + (avg - rtt) * (avg - rtt)).toNat : Int) ≡
          start.toNat + ((avg - rtt) * (avg - rtt)).toNat [ZMOD 0x10000000000000000] := by
        rw [UInt64.toNat_add, Int.natCast_emod, Int.natCast_add]
        exact Int.mod_modEq _ _
      have here := added.trans ((Int.ModEq.refl _).add (toNat_square_sub avg rtt))
      have later := (inductionHypothesis (start + (avg - rtt) * (avg - rtt))).trans
        (here.add_right _)
      rw [squaredDifferences_cons, ← Int.add_assoc]
      exact later

/-! ## What a call returns -/

section Array

variable {rttSample : List UInt64} (nonempty : rttSample ≠ [])
  (small : rttSample.length < 0x80000000)

include nonempty small

theorem avgRtt_mean (sum : (rttValues rttSample).sum < 0x10000000000000000) :
    ∃ avg, avgRtt rttSample rttSample.length = some avg ∧
      avg.toNat = mean (rttValues rttSample) := by
  rcases avgRtt_value nonempty small with ⟨avg, returned, value⟩
  refine ⟨avg, returned, ?_⟩
  rw [value, Nat.mod_eq_of_lt sum, mean, card_rttValues]

theorem devRtt_value (sum : (rttValues rttSample).sum < 0x10000000000000000)
    (squares : squaredDifferences (rttValues rttSample) (mean (rttValues rttSample)) <
      0x10000000000000000) :
    ∃ dev, devRtt rttSample rttSample.length = some dev ∧
      Statistic.dev.Of (rttValues rttSample) dev.toNat := by
  have positive : rttSample.length ≠ 0 := fun empty =>
    nonempty (List.eq_nil_of_length_eq_zero empty)
  rcases avgRtt_mean nonempty small sum with ⟨avg, returned, value⟩
  have congruent := foldl_squares rttSample avg 0
  generalize total : rttSample.foldl (fun sum rtt => sum + (avg - rtt) * (avg - rtt)) 0 = squared
    at congruent
  have exactly : (squared.toNat : Int) =
      squaredDifferences (rttValues rttSample) (mean (rttValues rttSample)) := by
    have nonneg := squaredDifferences_nonneg (rttValues rttSample) (mean (rttValues rttSample))
    have bound := squared.toNat_lt
    rw [value, UInt64.toNat_zero, Int.ModEq] at congruent
    omega
  have count : (UInt64.ofNat rttSample.length).toNat = rttSample.length := by
    rw [UInt64.toNat_ofNat', Nat.mod_eq_of_lt (by omega)]
  refine ⟨squared / UInt64.ofNat rttSample.length, ?_, ?_⟩
  · rw [devRtt, returned, Option.bind_eq_bind, Option.bind_some,
      forEachRtt_whole rttSample 0 0 small, Option.bind_some, if_neg positive, List.drop_zero,
      total]
  · change ((squared / UInt64.ofNat rttSample.length).toNat : Int) = _
    rw [UInt64.toNat_div, count, Int.natCast_ediv, exactly, card_rttValues]

/-- A call returns its statistic and leaves the entries in some order. -/
theorem callStatistic_of (sum : (rttValues rttSample).sum < 0x10000000000000000)
    (squares : squaredDifferences (rttValues rttSample) (mean (rttValues rttSample)) <
      0x10000000000000000) (call : Statistic) :
    ∃ value left, callStatistic rttSample.length rttSample call = some (value, left) ∧
      call.Of (rttValues rttSample) value.toNat ∧ left.Perm rttSample := by
  cases call with
  | min =>
      rcases minRtt_isLeast nonempty small with ⟨min, returned, isLeast⟩
      exact ⟨min, rttSample, by rw [callStatistic, returned]; rfl, isLeast, .refl _⟩
  | max =>
      rcases maxRtt_isGreatest nonempty small with ⟨max, returned, isGreatest⟩
      exact ⟨max, rttSample, by rw [callStatistic, returned]; rfl, isGreatest, .refl _⟩
  | avg =>
      rcases avgRtt_mean nonempty small sum with ⟨avg, returned, value⟩
      exact ⟨avg, rttSample, by rw [callStatistic, returned]; rfl, value, .refl _⟩
  | med =>
      rcases medRtt_rank nonempty with ⟨med, sorted, returned, permuted, rank⟩
      refine ⟨med, sorted, returned, ?_, permuted⟩
      rw [Statistic.Of, card_rttValues]
      exact rank
  | dev =>
      rcases devRtt_value nonempty small sum squares with ⟨dev, returned, value⟩
      exact ⟨dev, rttSample, by rw [callStatistic, returned]; rfl, value, .refl _⟩

end Array

/-- The figures that `latency_output` keeps are what five calls return, the
last one on the sorted array. -/
theorem rttResults_of_calls {rttSample sorted : List UInt64} {count : Nat}
    {value : Statistic → UInt64}
    (first : ∀ call, ∃ left, callStatistic count rttSample call = some (value call, left))
    (sorts : medRtt rttSample count = some (value .med, sorted))
    (last : ∃ left, callStatistic count sorted .dev = some (value .dev, left)) :
    rttResults rttSample count =
      some { rttMin := value .min, rttAv := value .avg, rttMax := value .max,
             rttStd := value .dev, rttMed := value .med } := by
  rcases first .min with ⟨_, returnedMin⟩
  rcases first .avg with ⟨_, returnedAvg⟩
  rcases first .max with ⟨_, returnedMax⟩
  rcases last with ⟨_, returnedDev⟩
  rcases Option.map_eq_some_iff.mp returnedMin with ⟨min, someMin, sameMin⟩
  rcases Option.map_eq_some_iff.mp returnedAvg with ⟨avg, someAvg, sameAvg⟩
  rcases Option.map_eq_some_iff.mp returnedMax with ⟨max, someMax, sameMax⟩
  rcases Option.map_eq_some_iff.mp returnedDev with ⟨dev, someDev, sameDev⟩
  rw [← (Prod.mk.inj sameMin).1, ← (Prod.mk.inj sameAvg).1, ← (Prod.mk.inj sameMax).1,
    ← (Prod.mk.inj sameDev).1]
  simp only [rttResults, someMin, someAvg, someMax, sorts, someDev, Option.bind_eq_bind,
    Option.bind_some]

/-- When a call on the entries in any order returns its value and reorders them,
every sequence of calls does.  The induction is on the calls. -/
theorem statisticCalls_run {entries : List UInt64} {count : Nat} {value : Statistic → UInt64}
    (returned : ∀ reordered : List UInt64, reordered.Perm entries → ∀ call,
      ∃ left, callStatistic count reordered call = some (value call, left) ∧ left.Perm entries)
    {reordered : List UInt64} (permuted : reordered.Perm entries) (calls : List Statistic) :
    ((statisticCalls count).run (some reordered) calls).2 =
      calls.map fun call => (call, value call) := by
  induction calls generalizing reordered with
  | nil => rfl
  | cons call rest inductionHypothesis =>
      rcases returned reordered permuted call with ⟨left, computed, kept⟩
      have step : (statisticCalls count).step (some reordered) call =
          (some left, [(call, value call)]) := by
        simp only [statisticCalls, computed]
      rw [Machine.run_cons_of_step step]
      exact congrArg (List.cons _) (inductionHypothesis kept)

/-- For every collection of at least one and less than 2^31 entries whose sums
fit: all arrays with these entries have the same statistics, whatever is
called on them and in which order. -/
theorem statistics_in_any_order {rttSample : List UInt64} (nonempty : rttSample ≠ [])
    (small : rttSample.length < 0x80000000)
    (sum : (rttValues rttSample).sum < 0x10000000000000000)
    (squares : squaredDifferences (rttValues rttSample) (mean (rttValues rttSample)) <
      0x10000000000000000) :
    ∃ value : Statistic → UInt64,
      (∀ call : Statistic, call.Of (rttValues rttSample) (value call).toNat) ∧
      (∀ reordered : List UInt64, reordered.Perm rttSample →
        (∀ calls, ((statisticCalls rttSample.length).run (some reordered) calls).2 =
          calls.map fun call => (call, value call)) ∧
        rttResults reordered rttSample.length =
          some { rttMin := value .min, rttAv := value .avg, rttMax := value .max,
                 rttStd := value .dev, rttMed := value .med }) ∧
      value .min ≤ value .med ∧ value .med ≤ value .max ∧
      value .min ≤ value .avg ∧ value .avg ≤ value .max := by
  have each : ∀ call : Statistic, ∃ value : UInt64, call.Of (rttValues rttSample) value.toNat := by
    intro call
    rcases callStatistic_of nonempty small sum squares call with ⟨value, _, _, of, _⟩
    exact ⟨value, of⟩
  choose value of using each
  have returned : ∀ (reordered : List UInt64), reordered.Perm rttSample → ∀ call : Statistic,
      ∃ left, callStatistic rttSample.length reordered call = some (value call, left) ∧
        left.Perm rttSample := by
    intro reordered permuted call
    have same := rttValues_perm permuted
    have length := permuted.length_eq
    have nonempty' : reordered ≠ [] := fun empty =>
      nonempty (List.eq_nil_of_length_eq_zero (by rw [← length, empty]; rfl))
    rw [← same] at sum squares
    rcases callStatistic_of nonempty' (length ▸ small) sum squares call with
      ⟨other, left, computed, isOther, kept⟩
    rw [length] at computed
    rw [same] at isOther
    have equal : other = value call := UInt64.toNat_inj.mp (isOther.unique (of call))
    exact ⟨left, equal ▸ computed, kept.trans permuted⟩
  have inside := mem_of_rank (of .med)
  refine ⟨value, of, ?_, UInt64.le_iff_toNat_le.mpr ((of .min).2 inside),
    UInt64.le_iff_toNat_le.mpr ((of .max).2 inside), ?_, ?_⟩
  · intro reordered permuted
    constructor
    · exact statisticCalls_run returned permuted
    · rcases returned reordered permuted .med with ⟨sorted, computed, kept⟩
      rcases returned sorted kept .dev with ⟨left, last, _⟩
      refine rttResults_of_calls (fun call => ?_) computed ⟨left, last⟩
      rcases returned reordered permuted call with ⟨left, computed, _⟩
      exact ⟨left, computed⟩
  · rw [UInt64.le_iff_toNat_le, (of .avg : (value .avg).toNat = _)]
    exact mean_ge_least (of .min)
  · rw [UInt64.le_iff_toNat_le, (of .avg : (value .avg).toNat = _)]
    exact mean_le_greatest (of .max)

theorem statistics_of_three :
    ∃ value : Statistic → UInt64,
      (∀ call : Statistic, call.Of (rttValues [9, 2, 4]) (value call).toNat) ∧
      (∀ calls, ((statisticCalls 3).run (some [4, 9, 2]) calls).2 =
        calls.map fun call => (call, value call)) := by
  rcases statistics_in_any_order (show [9, 2, (4 : UInt64)] ≠ [] by decide) (by decide) (by decide)
    (by decide) with ⟨value, of, same, _⟩
  exact ⟨value, of, (same [4, 9, 2] (by decide)).1⟩

end Latency
end Ipbench
