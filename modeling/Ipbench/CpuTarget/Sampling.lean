import Ipbench.Foundation.Machine
import Mathlib.Data.Int.Basic

namespace Ipbench
namespace CpuTarget

open Foundation

/-!
# Sampling the load of the target

A timer fires once in every period.  After the warmup each signal stores one
load in an array that is used as a ring, and at the end `average_cpu` adds up
cells of this array from its beginning.  The array is to hold twice as many
loads as the cooldown lasts, so that half of it can be left out.

The computation of a load from the progress of the busy loops is a
floating-point computation of which nothing is used here: a load is a value of
any type, and so is the arithmetic of the average.  Cells of the array that have
not been written are `none`, and so is reading outside the array.
-/

/-- `warmup_time`, `cooldown_time` and `period_secs`. -/
structure Options where
  warmupTime : Int
  cooldownTime : Int
  periodSecs : Int
deriving DecidableEq, Repr

def asInt (value : Int) : Int :=
  Int.bmod value 0x100000000

/-- `n_samples`: twice the number of periods in the cooldown time, or an hour of
samples without a cooldown. -/
def nSamples (options : Options) : Int :=
  if options.cooldownTime ≠ 0 then
    asInt (2 * (options.cooldownTime + 1).tdiv options.periodSecs)
  else 3600

/-- The static variables of the target. -/
structure Target (Load : Type) where
  warmupSamples : Int
  cpuSamples : Nat
  cpuLoad : List (Option Load)
deriving DecidableEq, Repr

variable {Load : Type}

def cpuTargetSetup (Load : Type) (options : Options) : Target Load where
  warmupSamples := 0
  cpuSamples := 0
  cpuLoad := List.replicate (nSamples options).toNat none

/-- `itimer` outside calibration, with the load that it has computed.  The event
is a load that is stored. -/
def itimer (options : Options) (target : Target Load) (totalCpuLoad : Load) :
    Target Load × List Load :=
  if target.warmupSamples * options.periodSecs < options.warmupTime then
    ({ target with warmupSamples := target.warmupSamples + 1 }, [])
  else
    ({ target with
        cpuLoad := target.cpuLoad.set (target.cpuSamples % (nSamples options).toNat)
          (some totalCpuLoad)
        cpuSamples := target.cpuSamples + 1 },
      [totalCpuLoad])

/-- The target as a machine whose inputs are the loads at the signals. -/
def cpuTargetMachine (Load : Type) (options : Options) : Machine (Target Load) Load Load where
  step := itimer options

/-- A run of the target, with the loads that it has stored. -/
def cpuTargetRun (options : Options) (loads : List Load) : Target Load × List Load :=
  (cpuTargetMachine Load options).run (cpuTargetSetup Load options) loads

/-! ## The average -/

/-- The number of cells that `average_cpu` adds up. -/
def tosum (options : Options) (cpuSamples : Nat) : Int :=
  if options.cooldownTime ≠ 0 then
    if (cpuSamples : Int) < (nSamples options).tdiv 2 then asInt cpuSamples
    else (nSamples options).tdiv 2
  else asInt cpuSamples

/-- The first cells of the array, as many as are asked for. -/
def readLoads (cpuLoad : List (Option Load)) : Nat → Option (List Load)
  | 0 => some []
  | i + 1 => do
      let loads ← readLoads cpuLoad i
      let load ← (cpuLoad[i]?).join
      some (loads ++ [load])

/-- The loads that `average_cpu` adds up. -/
def averagedLoads (options : Options) (target : Target Load) : Option (List Load) :=
  readLoads target.cpuLoad (tosum options target.cpuSamples).toNat

/-- `average_cpu`, with the arithmetic of `double`. -/
def averageCpu (zero : Load) (add : Load → Load → Load) (divide : Load → Int → Load)
    (options : Options) (target : Target Load) : Option Load :=
  (averagedLoads options target).map fun loads => divide (loads.foldl add zero) loads.length

end CpuTarget
end Ipbench
