import Mathlib.Data.Multiset.Sort
import Mathlib.Order.Bounds.Basic
import Mathlib.Algebra.BigOperators.Group.Multiset.Basic
import Mathlib.Algebra.Order.Group.Nat

namespace Ipbench
namespace Latency

/-!
# The statistics of round trip times

The functions of `latency.c` between `compare_rtt` and `max_rtt`.  They read
the array `rtt_sample` and take the number of its entries as the product of a
number of samples and the global `samples`.  The loops count with an `int`,
so a number of 2^31 and more makes the counter overflow; like a read outside
the array and a division by zero, this is `none`.
-/

/-! ## The code -/

def compareRtt (x y : UInt64) : Int :=
  if x < y then -1 else if x > y then 1 else 0

/-- A loop over the entries from `first` on. -/
def forEachRtt {State : Type} (rttSample : List UInt64) (count first : Nat)
    (body : State → UInt64 → State) (start : State) : Option State :=
  if 0x80000000 ≤ count then none
  else
    (List.range' first (count - first)).foldlM
      (fun state i => (rttSample[i]?).map (body state)) start

/-- `qsort` on the first `count` entries. -/
def sortRtt (rttSample : List UInt64) (count : Nat) : Option (List UInt64) :=
  if count ≤ rttSample.length then
    some ((rttSample.take count).mergeSort (fun x y => compareRtt x y ≤ 0) ++
      rttSample.drop count)
  else none

/-- The median, and the array that is left sorted. -/
def medRtt (rttSample : List UInt64) (count : Nat) : Option (UInt64 × List UInt64) := do
  let sorted ← sortRtt rttSample count
  let middle ← sorted[count / 2]?
  some (middle, sorted)

def avgRtt (rttSample : List UInt64) (count : Nat) : Option UInt64 := do
  let total ← forEachRtt rttSample count 0 (fun total rtt => total + rtt) 0
  if count = 0 then none else some (total / UInt64.ofNat count)

def devRtt (rttSample : List UInt64) (count : Nat) : Option UInt64 := do
  let avg ← avgRtt rttSample count
  let sum ← forEachRtt rttSample count 0 (fun sum rtt => sum + (avg - rtt) * (avg - rtt)) 0
  if count = 0 then none else some (sum / UInt64.ofNat count)

def minRtt (rttSample : List UInt64) (count : Nat) : Option UInt64 := do
  let first ← rttSample[0]?
  forEachRtt rttSample count 1 (fun min rtt => if rtt < min then rtt else min) first

def maxRtt (rttSample : List UInt64) (count : Nat) : Option UInt64 := do
  let first ← rttSample[0]?
  forEachRtt rttSample count 1 (fun max rtt => if rtt > max then rtt else max) first

/-- The statistics in the order in which they are printed. -/
structure RttResults where
  rttMin : UInt64
  rttAv : UInt64
  rttMax : UInt64
  rttStd : UInt64
  rttMed : UInt64
deriving DecidableEq, Repr

/-- The calls that `latency_output` makes.  The last one sees the sorted array. -/
def rttResults (rttSample : List UInt64) (count : Nat) : Option RttResults := do
  let rttMin ← minRtt rttSample count
  let rttAv ← avgRtt rttSample count
  let rttMax ← maxRtt rttSample count
  let (rttMed, sorted) ← medRtt rttSample count
  let rttStd ← devRtt sorted count
  some { rttMin := rttMin, rttAv := rttAv, rttMax := rttMax, rttStd := rttStd, rttMed := rttMed }

/-! ## Loops -/

section Loops

variable {State : Type} {body : State → UInt64 → State}

private theorem foldlM_getElem (body : State → UInt64 → State) (before rest : List UInt64)
    (start : State) :
    (List.range' before.length rest.length).foldlM
        (fun state i => ((before ++ rest)[i]?).map (body state)) start =
      some (rest.foldl body start) := by
  induction rest generalizing before start with
  | nil => rfl
  | cons rtt rest inductionHypothesis =>
      have later := inductionHypothesis (before ++ [rtt]) (body start rtt)
      rw [List.length_append, List.length_singleton, List.append_assoc, List.singleton_append]
        at later
      have here : (before ++ rtt :: rest)[before.length]? = some rtt := by
        rw [List.getElem?_append_right (Nat.le_refl _), Nat.sub_self]
        rfl
      rw [List.length_cons, List.range'_succ, List.foldlM_cons, here]
      exact later

/-- A loop over the whole array folds its body over the entries. -/
theorem forEachRtt_whole (rttSample : List UInt64) (first : Nat) (start : State)
    (small : rttSample.length < 0x80000000) :
    forEachRtt rttSample rttSample.length first body start =
      some ((rttSample.drop first).foldl body start) := by
  rw [forEachRtt, if_neg (Nat.not_le.mpr small)]
  by_cases inside : first ≤ rttSample.length
  · have folded := foldlM_getElem body (rttSample.take first) (rttSample.drop first) start
    rw [List.take_append_drop, List.length_take, List.length_drop,
      Nat.min_eq_left inside] at folded
    exact folded
  · have beyond : rttSample.length ≤ first := Nat.le_of_not_le inside
    rw [Nat.sub_eq_zero_of_le beyond, List.drop_eq_nil_of_le beyond]
    rfl

theorem forEachRtt_small {rttSample : List UInt64} {count first : Nat} {start finish : State}
    (looped : forEachRtt rttSample count first body start = some finish) :
    count < 0x80000000 := by
  by_contra large
  rw [forEachRtt, if_pos (Nat.le_of_not_lt large)] at looped
  cases looped

end Loops

/-! ## What the functions compute -/

/-- Keeping the better of two values ends with the best of all. -/
private theorem foldl_best (better : UInt64 → UInt64 → Prop) [DecidableRel better]
    (below : UInt64 → UInt64 → Prop) (refl : ∀ rtt, below rtt rtt)
    (trans : ∀ {first second third}, below first second → below second third →
      below first third)
    (wins : ∀ {first second}, better second first → below second first)
    (loses : ∀ {first second}, ¬ better second first → below first second)
    (rest : List UInt64) (start : UInt64) :
    let best := rest.foldl (fun best rtt => if better rtt best then rtt else best) start
    best ∈ start :: rest ∧ ∀ rtt ∈ start :: rest, below best rtt := by
  induction rest generalizing start with
  | nil =>
      refine ⟨List.mem_cons_self, ?_⟩
      intro rtt member
      rw [List.mem_singleton.mp member]
      exact refl start
  | cons next rest inductionHypothesis =>
      dsimp only
      rw [List.foldl_cons]
      by_cases change : better next start
      · rw [if_pos change]
        rcases inductionHypothesis next with ⟨member, least⟩
        refine ⟨List.mem_cons_of_mem _ member, ?_⟩
        intro rtt among
        rcases List.mem_cons.mp among with same | later
        · rw [same]
          exact trans (least next List.mem_cons_self) (wins change)
        · exact least rtt later
      · rw [if_neg change]
        rcases inductionHypothesis start with ⟨member, least⟩
        constructor
        · rcases List.mem_cons.mp member with same | later
          · rw [same]
            exact List.mem_cons_self
          · exact List.mem_cons_of_mem _ (List.mem_cons_of_mem _ later)
        · intro rtt among
          rcases List.mem_cons.mp among with same | others
          · rw [same]
            exact least start List.mem_cons_self
          · rcases List.mem_cons.mp others with same | later
            · rw [same]
              exact trans (least start List.mem_cons_self) (loses change)
            · exact least rtt (List.mem_cons_of_mem _ later)

/-- The round trip times as a collection of numbers. -/
def rttValues (rttSample : List UInt64) : Multiset Nat :=
  (rttSample.map UInt64.toNat : List Nat)

@[simp] theorem card_rttValues (rttSample : List UInt64) :
    (rttValues rttSample).card = rttSample.length := by
  rw [rttValues, Multiset.coe_card, List.length_map]

theorem mem_rttValues {rttSample : List UInt64} {value : Nat} :
    value ∈ rttValues rttSample ↔ ∃ rtt ∈ rttSample, rtt.toNat = value := by
  rw [rttValues, Multiset.mem_coe, List.mem_map]

theorem sum_rttValues_cons (rtt : UInt64) (rest : List UInt64) :
    (rttValues (rtt :: rest)).sum = rtt.toNat + (rttValues rest).sum := by
  rw [rttValues, List.map_cons, ← Multiset.cons_coe, Multiset.sum_cons]
  rfl

/-- An unsigned total is the sum of the entries, reduced to 64 bits. -/
private theorem foldl_total (rest : List UInt64) (start : UInt64) :
    (rest.foldl (fun total rtt => total + rtt) start).toNat =
      (start.toNat + (rttValues rest).sum) % 0x10000000000000000 := by
  induction rest generalizing start with
  | nil => exact (Nat.mod_eq_of_lt start.toNat_lt).symm
  | cons rtt rest inductionHypothesis =>
      rw [List.foldl_cons, inductionHypothesis, UInt64.toNat_add, sum_rttValues_cons,
        Nat.mod_add_mod, Nat.add_assoc]

theorem sort_rttValues (rttSample : List UInt64) :
    (rttValues rttSample).sort =
      (rttSample.mergeSort fun x y => compareRtt x y ≤ 0).map UInt64.toNat := by
  have le : ∀ x ∈ rttSample, ∀ y ∈ rttSample,
      decide (compareRtt x y ≤ 0) = decide (x.toNat ≤ y.toNat) := by
    intro x _ y _
    rw [decide_eq_decide, ← UInt64.le_iff_toNat_le, compareRtt]
    by_cases less : x < y
    · rw [if_pos less]
      exact iff_of_true (by decide) (UInt64.le_of_lt less)
    · rw [if_neg less]
      by_cases greater : x > y
      · rw [if_pos greater]
        exact iff_of_false (by decide) (UInt64.not_le.mpr greater)
      · rw [if_neg greater]
        exact iff_of_true (by decide) (UInt64.not_lt.mp greater)
  have sorted : (rttSample.mergeSort fun x y => compareRtt x y ≤ 0).map UInt64.toNat =
      (rttSample.map UInt64.toNat).mergeSort fun x y => x ≤ y := List.map_mergeSort le
  rw [rttValues, Multiset.coe_sort, sorted]

section Array

variable {rttSample : List UInt64} (nonempty : rttSample ≠ [])
  (small : rttSample.length < 0x80000000)

include nonempty small

theorem minRtt_isLeast :
    ∃ min, minRtt rttSample rttSample.length = some min ∧
      IsLeast {value | value ∈ rttValues rttSample} min.toNat := by
  cases rttSample with
  | nil => exact absurd rfl nonempty
  | cons first rest =>
      have best := foldl_best (fun rtt min => rtt < min) (fun least rtt => least ≤ rtt)
        UInt64.le_refl UInt64.le_trans UInt64.le_of_lt UInt64.not_lt.mp rest first
      refine ⟨_, forEachRtt_whole (first :: rest) 1 first small, ?_, ?_⟩
      · exact mem_rttValues.mpr ⟨_, best.1, rfl⟩
      · intro value member
        rcases mem_rttValues.mp member with ⟨rtt, among, rfl⟩
        exact UInt64.le_iff_toNat_le.mp (best.2 rtt among)

theorem maxRtt_isGreatest :
    ∃ max, maxRtt rttSample rttSample.length = some max ∧
      IsGreatest {value | value ∈ rttValues rttSample} max.toNat := by
  cases rttSample with
  | nil => exact absurd rfl nonempty
  | cons first rest =>
      have best := foldl_best (fun rtt max => rtt > max) (fun greatest rtt => rtt ≤ greatest)
        UInt64.le_refl (fun first second => UInt64.le_trans second first) UInt64.le_of_lt
        UInt64.not_lt.mp rest first
      refine ⟨_, forEachRtt_whole (first :: rest) 1 first small, ?_, ?_⟩
      · exact mem_rttValues.mpr ⟨_, best.1, rfl⟩
      · intro value member
        rcases mem_rttValues.mp member with ⟨rtt, among, rfl⟩
        exact UInt64.le_iff_toNat_le.mp (best.2 rtt among)

theorem avgRtt_value :
    ∃ avg, avgRtt rttSample rttSample.length = some avg ∧
      avg.toNat = ((rttValues rttSample).sum % 0x10000000000000000) / rttSample.length := by
  have positive : rttSample.length ≠ 0 := fun empty =>
    nonempty (List.eq_nil_of_length_eq_zero empty)
  have total : (rttSample.foldl (fun total rtt => total + rtt) 0).toNat =
      (rttValues rttSample).sum % 0x10000000000000000 := by
    rw [foldl_total, UInt64.toNat_zero, Nat.zero_add]
  have count : (UInt64.ofNat rttSample.length).toNat = rttSample.length := by
    rw [UInt64.toNat_ofNat', Nat.mod_eq_of_lt (by omega)]
  refine ⟨rttSample.foldl (fun total rtt => total + rtt) 0 / UInt64.ofNat rttSample.length,
    ?_, ?_⟩
  · rw [avgRtt, forEachRtt_whole rttSample 0 0 small, Option.bind_eq_bind, Option.bind_some,
      if_neg positive, List.drop_zero]
  · rw [UInt64.toNat_div, count, total]

theorem devRtt_some : ∃ dev, devRtt rttSample rttSample.length = some dev := by
  have positive : rttSample.length ≠ 0 := fun empty =>
    nonempty (List.eq_nil_of_length_eq_zero empty)
  rcases avgRtt_value nonempty small with ⟨avg, some_, _⟩
  refine ⟨rttSample.foldl (fun sum rtt => sum + (avg - rtt) * (avg - rtt)) 0 /
    UInt64.ofNat rttSample.length, ?_⟩
  rw [devRtt, some_, Option.bind_eq_bind, Option.bind_some, forEachRtt_whole rttSample 0 0 small,
    Option.bind_some, if_neg positive, List.drop_zero]

omit small in
theorem medRtt_rank :
    ∃ med sorted, medRtt rttSample rttSample.length = some (med, sorted) ∧
      sorted.Perm rttSample ∧
      ((rttValues rttSample).sort)[rttSample.length / 2]? = some med.toNat := by
  have rank := sort_rttValues rttSample
  generalize array : (rttSample.mergeSort fun x y => compareRtt x y ≤ 0) = ordered at rank
  have permuted : ordered.Perm rttSample := array ▸ List.mergeSort_perm rttSample _
  have inside : rttSample.length / 2 < ordered.length := by
    rw [permuted.length_eq]
    exact Nat.div_lt_self (List.length_pos_iff.mpr nonempty) (by decide)
  refine ⟨ordered[rttSample.length / 2], ordered, ?_, permuted, ?_⟩
  · rw [medRtt, sortRtt, if_pos (Nat.le_refl _), List.take_length, List.drop_length,
      List.append_nil, array, Option.bind_eq_bind, Option.bind_some,
      List.getElem?_eq_getElem inside]
    rfl
  · rw [rank, List.getElem?_map, List.getElem?_eq_getElem inside]
    rfl

end Array

/-- The figures of a whole array of at least one and less than 2^31 entries. -/
theorem rttResults_whole {rttSample : List UInt64} (nonempty : rttSample ≠ [])
    (small : rttSample.length < 0x80000000) :
    ∃ results, rttResults rttSample rttSample.length = some results ∧
      IsLeast {value | value ∈ rttValues rttSample} results.rttMin.toNat ∧
      results.rttAv.toNat = ((rttValues rttSample).sum % 0x10000000000000000) / rttSample.length ∧
      IsGreatest {value | value ∈ rttValues rttSample} results.rttMax.toNat ∧
      ((rttValues rttSample).sort)[rttSample.length / 2]? = some results.rttMed.toNat := by
  rcases minRtt_isLeast nonempty small with ⟨min, someMin, isLeast⟩
  rcases avgRtt_value nonempty small with ⟨avg, someAvg, value⟩
  rcases maxRtt_isGreatest nonempty small with ⟨max, someMax, isGreatest⟩
  rcases medRtt_rank nonempty with ⟨med, sorted, someMed, permuted, rank⟩
  have length := permuted.length_eq
  have nonempty' : sorted ≠ [] := fun empty =>
    nonempty (List.eq_nil_of_length_eq_zero (by rw [← length, empty]; rfl))
  rcases devRtt_some nonempty' (length ▸ small) with ⟨dev, someDev⟩
  rw [length] at someDev
  refine ⟨{ rttMin := min, rttAv := avg, rttMax := max, rttStd := dev, rttMed := med }, ?_, isLeast,
    value, isGreatest, rank⟩
  simp only [rttResults, someMin, someAvg, someMax, someMed, someDev, Option.bind_eq_bind,
    Option.bind_some]

/-- Without an entry, or with 2^31 of them, there are no figures. -/
theorem rttResults_some {rttSample : List UInt64} {count : Nat} {results : RttResults}
    (computed : rttResults rttSample count = some results) :
    rttSample ≠ [] ∧ count < 0x80000000 := by
  unfold rttResults at computed
  rcases Option.bind_eq_some_iff.mp computed with ⟨min, someMin, _⟩
  rcases Option.bind_eq_some_iff.mp someMin with ⟨first, present, looped⟩
  refine ⟨?_, forEachRtt_small looped⟩
  rintro rfl
  cases present

end Latency
end Ipbench
