import Ipbench.Daemon.StopOrder
import Ipbench.Foundation.WordMemory
import Ipbench.Nfsstone.WorkFile
import Mathlib.Algebra.BigOperators.Group.List.Basic
import Mathlib.Tactic.Ring

namespace Ipbench
namespace Nfsstone

open Foundation
open Program
open Daemon (Timeval)

/-!
# A run of the benchmark

`nfsstone_run` makes a tree of directories, forks a child for each of the lower
ones, waits for the children and removes the tree.  It does not count what is
done: the number that it reports is computed from the two sizes alone.

A lower directory that cannot be made is passed over with a message, and no
child works there.  What the report has too much is exactly the work of these
children, as long as no child is killed: `WEXITSTATUS` of the status of a killed
child is that of `exit(OK)`.
-/

/-! ## Directories -/

/-- A directory of the tree: an upper one, or a lower one inside it. -/
structure Path where
  upper : List UInt8
  lower : Option (List UInt8)
deriving DecidableEq, Repr

def Path.text (path : Path) : List UInt8 :=
  match path.lower with
  | none => path.upper
  | some name => path.upper ++ literal "/" ++ name

/-- An upper directory with the lower ones in it. -/
structure Branch where
  upper : List UInt8
  lowers : List (List UInt8)
deriving DecidableEq, Repr

/-- The names that the inner loop builds, from the counter `num`. -/
def lowerNames : (num bot : Nat) → List (List UInt8)
  | _, 0 => []
  | num, bot + 1 => padded (num + 1) :: lowerNames (num + 1) bot

/-- The names that both loops build, from the counter `num`. -/
def branches (host : List UInt8) (bot : Nat) : (num top : Nat) → List Branch
  | _, 0 => []
  | num, top + 1 =>
      { upper := padded (num + 1) ++ literal "-" ++ host, lowers := lowerNames (num + 1) bot } ::
        branches host bot (num + 1 + bot) top

/-- The two sizes.  They are of type `long`, but `i`, `j` and `num`, which count the directories,
are of type `int`. -/
structure Sizes where
  top : Int
  bot : Int
  counted : top.toNat * (bot.toNat + 1) < 2 ^ 31

/-! ## The code -/

/-- The calls of `nfsstone_run`; `waitAll` is the loop of `wait` up to its failure. -/
inductive RunCall where
  | gethostname
  | gettimeofday
  | mkdir (path : Path)
  | fork (path : Path)
  | waitAll
  | rmdir (path : Path)
  | unlink (name : List UInt8)
deriving DecidableEq, Repr

/-- What a call returns, and what it writes: the name of the host, the time, and the statuses of
the children. -/
structure RunAnswer where
  value : Int
  host : List UInt8
  time : Timeval
  statuses : List Nat
deriving DecidableEq, Repr

/-- The fields of `struct nfsstone_results` that are numbers. -/
structure Results where
  totalStones : UInt64
  usec : UInt64
deriving DecidableEq, Repr

/-- What `nfsstone_run` returns, and what it leaves in `results`. -/
structure RunEnd where
  error : Int
  results : Option Results
deriving DecidableEq, Repr

abbrev RunStep : Type → Type :=
  Program RunCall RunAnswer

def wexitstatus (status : Nat) : Nat :=
  status / 256 % 256

def totalOps (top bot : Int) : Int :=
  let totDirs := top * bot
  let totFiles := totDirs * filesPerDir
  let totFileops :=
    totFiles * 11 * blocksPerFile + (fileLookups + fileCreates + nReadLink) * totFiles
  totDirs * 2 + totFiles * 2 + totFileops

def stous (sec : UInt64) : UInt64 :=
  sec * 1000000

/-- The branch for a lower directory; the parent does not return from `fork` as a child. -/
def makeLower (upper lower : List UInt8) : RunStep Unit := do
  let made ← ask (.mkdir ⟨upper, some lower⟩)
  if made.value = 0 then do
    let pid ← ask (.fork ⟨upper, some lower⟩)
    require (pid.value ≠ -1)
  else
    pure ()

def makeBranch (branch : Branch) : RunStep Unit := do
  let made ← ask (.mkdir ⟨branch.upper, none⟩)
  require (made.value = 0)
  forEach (makeLower branch.upper) branch.lowers

def removeLower (upper lower : List UInt8) : RunStep Unit := do
  let _ ← ask (.rmdir ⟨upper, some lower⟩)
  pure ()

def removeBranch (branch : Branch) : RunStep Unit := do
  forEach (removeLower branch.upper) branch.lowers
  let _ ← ask (.rmdir ⟨branch.upper, none⟩)
  pure ()

/-- The directories are made unless there is an error. -/
def makeTree (error : Int) (tree : List Branch) : RunStep Unit :=
  if error = 0 then forEach makeBranch tree else pure ()

/-- The last part: the results are filled in when there is no error so far. -/
def report (order : ByteOrder) (sizes : Sizes) (start : Timeval) (error : Int) :
    RunStep RunEnd :=
  if error ≠ 0 then
    pure { error := error, results := none }
  else do
    let stop ← ask .gettimeofday
    pure
      { error := if stop.value = -1 then error + 1 else error
        results := some
          { totalStones := order.htonll (asUint64 (totalOps sizes.top sizes.bot))
            usec := order.htonll (stous (asUint64 (stop.time.sec - start.sec)) +
              asUint64 (stop.time.usec - start.usec)) } }

/-- `nfsstone_run`: giving up is its `return FAIL` before the end. -/
def nfsstoneRun (order : ByteOrder) (sizes : Sizes) (lock : List UInt8) : RunStep RunEnd := do
  let named ← ask .gethostname
  let began ← ask .gettimeofday
  let error := (if named.value < 0 then 1 else 0) + if began.value = -1 then 1 else 0
  let tree := branches named.host sizes.bot.toNat 0 sizes.top.toNat
  makeTree error tree
  let waited ← ask .waitAll
  forEach removeBranch tree
  let _ ← ask (.unlink lock)
  report order sizes began.time
    (if ∃ status ∈ waited.statuses, wexitstatus status ≠ 0 then 1 else error)

/-! ## What the parent does -/

/-- What is seen of the parent: the counted calls for lower directories, the lower directories
that could not be made, the forks, the statuses of the children and the readings of the clock. -/
structure RunSeen where
  stones : Nat
  refused : Nat
  forked : List Path
  statuses : List Nat
  times : List Timeval
deriving DecidableEq, Repr

def RunSeen.start : RunSeen where
  stones := 0
  refused := 0
  forked := []
  statuses := []
  times := []

def RunSeen.after (seen : RunSeen) (answer : RunAnswer) : RunCall → RunSeen
  | .mkdir ⟨_, some _⟩ =>
      { seen with
        stones := seen.stones + 1
        refused := if answer.value = 0 then seen.refused else seen.refused + 1 }
  | .rmdir ⟨_, some _⟩ => { seen with stones := seen.stones + 1 }
  | .fork path =>
      { seen with forked := if answer.value = -1 then seen.forked else seen.forked ++ [path] }
  | .waitAll => { seen with statuses := seen.statuses ++ answer.statuses }
  | .gettimeofday => { seen with times := seen.times ++ [answer.time] }
  | _ => seen

/-- An observer of the parent that counts on nothing. -/
def overseer : Observer RunCall RunAnswer RunSeen where
  allows := fun _ _ _ => True
  next := fun seen call answer => seen.after answer call

/-- Counted calls, and lower directories that were refused or given to a child. -/
structure Moves (made placed : Nat) (before after : RunSeen) : Prop where
  stones : after.stones = before.stones + made
  placed : after.refused + after.forked.length =
    before.refused + before.forked.length + placed
  statuses : after.statuses = before.statuses
  times : after.times = before.times

theorem Moves.refl (seen : RunSeen) : Moves 0 0 seen seen where
  stones := rfl
  placed := rfl
  statuses := rfl
  times := rfl

theorem Moves.trans {made placed more further : Nat} {before middle after : RunSeen}
    (first : Moves made placed before middle) (later : Moves more further middle after) :
    Moves (made + more) (placed + further) before after where
  stones := by rw [later.stones, first.stones, Nat.add_assoc]
  placed := by rw [later.placed, first.placed, Nat.add_assoc]
  statuses := later.statuses.trans first.statuses
  times := later.times.trans first.times

/-- A part of the run that returns `FAIL` or moves on as stated. -/
structure Does (made placed : Nat) (program : RunStep Unit) : Prop where
  ends : ∀ seen,
    overseer.Ends (fun _ => True) (fun _ after => Moves made placed seen after) program seen

theorem Does.forEach {Item : Type} {body : Item → RunStep Unit} {made placed : Nat}
    {items : List Item} (turn : ∀ item ∈ items, Does made placed (body item)) :
    Does (items.length * made) (items.length * placed) (forEach body items) := by
  refine ⟨fun seen => ?_⟩
  refine Observer.ends_forEach
    (fun turns after => Moves (turns * made) (turns * placed) seen after) ?_ ?_
  · intro turns item listed state moved
    refine ((turn item (List.mem_of_getElem? listed)).ends state).mono fun _ _ more => ?_
    rw [Nat.succ_mul, Nat.succ_mul]
    exact moved.trans more
  · rw [Nat.zero_mul, Nat.zero_mul]
    exact Moves.refl seen

theorem makeLower_does (upper lower : List UInt8) : Does 1 1 (makeLower upper lower) := by
  refine ⟨fun seen => Observer.ends_ask.mpr fun made _ => ?_⟩
  by_cases there : made.value = 0
  · rw [if_pos there]
    refine Observer.ends_ask.mpr fun pid _ => Observer.ends_require (fun forked => ?_)
      fun _ => trivial
    refine ⟨rfl, ?_, rfl, rfl⟩
    change (if made.value = 0 then seen.refused else seen.refused + 1) +
      (if pid.value = -1 then seen.forked else seen.forked ++ [_]).length = _
    rw [if_pos there, if_neg forked, List.length_append]
    rfl
  · rw [if_neg there]
    refine Observer.ends_pure.mpr ⟨rfl, ?_, rfl, rfl⟩
    change (if made.value = 0 then seen.refused else seen.refused + 1) + seen.forked.length = _
    rw [if_neg there, Nat.add_right_comm]

theorem makeBranch_does (branch : Branch) :
    Does branch.lowers.length branch.lowers.length (makeBranch branch) := by
  have lowers := Does.forEach fun lower (_ : lower ∈ branch.lowers) =>
    makeLower_does branch.upper lower
  rw [Nat.mul_one] at lowers
  refine ⟨fun seen => Observer.ends_ask.mpr fun made _ => ?_⟩
  exact Observer.ends_bind.mpr (Observer.ends_require (fun _ => lowers.ends seen) fun _ => trivial)

theorem removeBranch_does (branch : Branch) :
    Does branch.lowers.length 0 (removeBranch branch) := by
  have remove (lower : List UInt8) : Does 1 0 (removeLower branch.upper lower) :=
    ⟨fun seen => Observer.ends_ask.mpr fun _ _ => Observer.ends_pure.mpr ⟨rfl, rfl, rfl, rfl⟩⟩
  have lowers := Does.forEach fun lower (_ : lower ∈ branch.lowers) => remove lower
  rw [Nat.mul_one, Nat.mul_zero] at lowers
  refine ⟨fun seen => (lowers.ends seen).bind fun _ after moved => ?_⟩
  exact Observer.ends_ask.mpr fun _ _ => Observer.ends_pure.mpr moved

theorem length_lowerNames (num bot : Nat) : (lowerNames num bot).length = bot := by
  induction bot generalizing num with
  | zero => rfl
  | succ bot inductionHypothesis => rw [lowerNames, List.length_cons, inductionHypothesis]

theorem length_branches (host : List UInt8) (bot num top : Nat) :
    (branches host bot num top).length = top := by
  induction top generalizing num with
  | zero => rfl
  | succ top inductionHypothesis => rw [branches, List.length_cons, inductionHypothesis]

theorem length_lowers {host : List UInt8} {bot num top : Nat} {branch : Branch}
    (member : branch ∈ branches host bot num top) : branch.lowers.length = bot := by
  induction top generalizing num with
  | zero => cases member
  | succ top inductionHypothesis =>
      rcases List.mem_cons.mp member with rfl | later
      · exact length_lowerNames (num + 1) bot
      · exact inductionHypothesis later

/-- The tree is made, and every lower directory of it is refused or gets a child. -/
theorem makeTree_does (host : List UInt8) (bot top : Nat) :
    Does (top * bot) (top * bot) (forEach makeBranch (branches host bot 0 top)) := by
  have made := Does.forEach fun branch (member : branch ∈ branches host bot 0 top) =>
    length_lowers member ▸ makeBranch_does branch
  rwa [length_branches] at made

theorem removeTree_does (host : List UInt8) (bot top : Nat) :
    Does (top * bot) 0 (forEach removeBranch (branches host bot 0 top)) := by
  have removed := Does.forEach fun branch (member : branch ∈ branches host bot 0 top) =>
    length_lowers member ▸ removeBranch_does branch
  rwa [length_branches, Nat.mul_zero] at removed

/-! ## What a run reports -/

/-- What the results hold after a run from the first to the second of two readings. -/
def resultsOf (order : ByteOrder) (sizes : Sizes) (start stop : Timeval) : Results where
  totalStones := order.htonll (asUint64 (totalOps sizes.top sizes.bot))
  usec := order.htonll (stous (asUint64 (stop.sec - start.sec)) +
    asUint64 (stop.usec - start.usec))

/-- A run that returns `OK`: it has made and removed the tree, every child has exited with `OK`,
and the results are filled in. -/
structure Succeeded (order : ByteOrder) (sizes : Sizes) (ended : RunEnd) (seen : RunSeen) :
    Prop where
  stones : seen.stones = 2 * (sizes.top.toNat * sizes.bot.toNat)
  placed : seen.refused + seen.forked.length = sizes.top.toNat * sizes.bot.toNat
  statuses : ∀ status ∈ seen.statuses, wexitstatus status = 0
  results : ∃ start stop, seen.times = [start, stop] ∧
    ended.results = some (resultsOf order sizes start stop)

theorem nfsstoneRun_ends (order : ByteOrder) (sizes : Sizes) (lock : List UInt8) :
    overseer.Ends (fun _ => True)
      (fun ended seen => ended.error = 0 → Succeeded order sizes ended seen)
      (nfsstoneRun order sizes lock) RunSeen.start := by
  refine Observer.ends_ask.mpr fun named _ => Observer.ends_ask.mpr fun began _ => ?_
  generalize ((if named.value < 0 then 1 else 0) + if began.value = -1 then 1 else 0 : Int) =
    error
  dsimp only
  -- With an error the tree is not made, but then the run does not return `OK`.
  have tree : ∀ seen, overseer.Ends (fun _ => True)
      (fun _ after => error = 0 → Moves (sizes.top.toNat * sizes.bot.toNat)
        (sizes.top.toNat * sizes.bot.toNat) seen after)
      (makeTree error (branches named.host sizes.bot.toNat 0 sizes.top.toNat)) seen := by
    intro seen
    unfold makeTree
    by_cases fine : error = 0
    · rw [if_pos fine]
      exact ((makeTree_does named.host _ _).ends seen).mono fun _ _ moved _ => moved
    · rw [if_neg fine]
      exact Observer.ends_pure.mpr fun none => absurd none fine
  refine (tree _).bind fun _ made moved => Observer.ends_ask.mpr fun waited _ => ?_
  refine ((removeTree_does named.host _ _).ends _).bind fun _ removed cleaned => ?_
  refine Observer.ends_ask.mpr fun _ _ => ?_
  unfold report
  generalize verdict : (if ∃ status ∈ waited.statuses, wexitstatus status ≠ 0 then 1 else error) =
    final
  by_cases fine : final = 0
  · rw [if_neg (not_not.mpr fine)]
    refine Observer.ends_ask.mpr fun stop _ => Observer.ends_pure.mpr fun _ => ?_
    have well : ¬∃ status ∈ waited.statuses, wexitstatus status ≠ 0 := by
      intro bad
      rw [if_pos bad, fine] at verdict
      cases verdict
    rw [if_neg well, fine] at verdict
    have whole := moved verdict
    refine ⟨?_, ?_, ?_, began.time, stop.time, ?_, rfl⟩
    · calc
        removed.stones = made.stones + sizes.top.toNat * sizes.bot.toNat := cleaned.stones
        _ = 0 + sizes.top.toNat * sizes.bot.toNat + sizes.top.toNat * sizes.bot.toNat :=
          congrArg (· + sizes.top.toNat * sizes.bot.toNat) whole.stones
        _ = 2 * (sizes.top.toNat * sizes.bot.toNat) := by rw [Nat.zero_add, Nat.two_mul]
    · change removed.refused + removed.forked.length = _
      rw [cleaned.placed]
      exact whole.placed.trans (Nat.zero_add _)
    · intro status member
      change status ∈ removed.statuses at member
      rw [cleaned.statuses] at member
      change status ∈ made.statuses ++ waited.statuses at member
      rw [whole.statuses] at member
      exact not_not.mp fun bad => well ⟨status, member, bad⟩
    · calc
        removed.times ++ [stop.time] = made.times ++ [stop.time] :=
          congrArg (· ++ [stop.time]) cleaned.times
        _ = [began.time, stop.time] := congrArg (· ++ [stop.time]) whole.times
  · rw [if_pos fine]
    exact Observer.ends_pure.mpr fun none => absurd none fine

/-! ## The report and the work -/

/-- What `TOTAL_OPS` counts: for each lower directory the work of a child, and that it is made and
removed. -/
theorem totalOps_eq (top bot : Nat) :
    totalOps top bot = ((2 + filesPerDir * fileStones) * (top * bot) : Nat) := by
  unfold totalOps fileStones filesPerDir blocksPerFile fileLookups fileCreates nReadLink
  push_cast
  ring

theorem ntohll_htonll (order : ByteOrder) (word : UInt64) :
    order.ntohll (order.htonll word) = word := by
  have stored := order.ntohll_load word
  rwa [← order.store_htonll word, order.load_store] at stored

/-- The time that is reported is the time between the two readings. -/
theorem stous_add (sec usec : Int) :
    stous (asUint64 sec) + asUint64 usec = asUint64 (sec * 1000000 + usec) := by
  have wraps (value : Int) : asUint64 value = UInt64.ofInt value := rfl
  rw [wraps, wraps, wraps, UInt64.ofInt_add, UInt64.ofInt_mul]
  rfl

section Children

/-- A signal that ends a child after some of its calls. -/
structure Kill where
  signal : Fin 128
  calls : Nat
deriving DecidableEq, Repr

variable {Server World : Type} (answer : Path → Server → Syscall → Answer × Server)
  (server : Path → Server) (pid : Path → Int) (kills : Path → Option Kill)

/-- The child of a directory, on a file server that may answer anything. -/
def childEnd (path : Path) : Ending Syscall Answer Unit Server :=
  (doChild (pid path) path.text).run (answer path) (server path)

/-- The status of a child: the number of the signal that has killed it, or that of `exit(OK)` or
of `exit(-FAIL)`. -/
def exitStatus (path : Path) : Nat :=
  match kills path with
  | some kill => kill.signal
  | none => if (childEnd answer server pid path).result = some () then 0 else 255 * 256

def childStones (path : Path) : Nat :=
  let trace := (childEnd answer server pid path).trace
  match kills path with
  | some kill => (seenIn (trace.take kill.calls)).stones
  | none => (seenIn trace).stones

def seenOfRun (trace : List (RunCall × RunAnswer)) : RunSeen :=
  overseer.along RunSeen.start trace

theorem exitStatus_of_exits {path : Path} (spared : kills path = none)
    (exits : (childEnd answer server pid path).result = some ()) :
    exitStatus answer server pid kills path = 0 := by
  unfold exitStatus
  rw [spared]
  exact if_pos exits

theorem childStones_of_exited {path : Path} (spared : kills path = none)
    (status : wexitstatus (exitStatus answer server pid kills path) = 0) :
    childStones answer server pid kills path = filesPerDir * fileStones := by
  unfold exitStatus at status
  unfold childStones
  rw [spared] at status ⊢
  dsimp only at status ⊢
  split at status
  · next exits =>
      exact (gains_of_exits (answer path) _ _ _ exits).stones.trans (Nat.zero_add _)
  · next => exact absurd status (by decide)

/-- When `nfsstone_run` returns `OK`, no child that was forked was killed and `wait` has reported
all of them, the number in the results is the number of the counted calls that the parent and the
children have made, and the work of a child more for each lower directory that could not be
made. -/
theorem nfsstoneRun_reports (order : ByteOrder) (sizes : Sizes) (lock : List UInt8)
    (natural : 0 ≤ sizes.top ∧ 0 ≤ sizes.bot)
    (reply : World → RunCall → RunAnswer × World) (world : World) {ended : RunEnd}
    (returned : ((nfsstoneRun order sizes lock).run reply world).result = some ended)
    (succeeds : ended.error = 0) {seen : RunSeen}
    (observed : seenOfRun ((nfsstoneRun order sizes lock).run reply world).trace = seen)
    (spared : ∀ path ∈ seen.forked, kills path = none)
    (reaped : ∀ path ∈ seen.forked, exitStatus answer server pid kills path ∈ seen.statuses) :
    ∃ results, ended.results = some results ∧
      order.ntohll results.totalStones =
        asUint64 (seen.stones + (seen.forked.map (childStones answer server pid kills)).sum +
          filesPerDir * fileStones * seen.refused : Nat) ∧
      ∃ start stop, seen.times = [start, stop] ∧
        order.ntohll results.usec = asUint64 (stop.micros - start.micros) := by
  have described := overseer.describes_every reply fun _ _ _ => trivial
  have fine := (nfsstoneRun_ends order sizes lock).run described world trivial
  rw [returned] at fine
  have succeeded : Succeeded order sizes ended seen := observed ▸ fine succeeds
  rcases succeeded.results with ⟨start, stop, read, filled⟩
  have works : ∀ path ∈ seen.forked,
      childStones answer server pid kills path = filesPerDir * fileStones := fun path forked =>
    childStones_of_exited answer server pid kills (spared path forked)
      (succeeded.statuses _ (reaped path forked))
  have sum : (seen.forked.map (childStones answer server pid kills)).sum =
      seen.forked.length * (filesPerDir * fileStones) := by
    rw [List.map_congr_left works, List.map_const', List.sum_replicate, Nat.nsmul_eq_mul]
  have total : (2 + filesPerDir * fileStones) * (sizes.top.toNat * sizes.bot.toNat) =
      seen.stones + (seen.forked.map (childStones answer server pid kills)).sum +
        filesPerDir * fileStones * seen.refused := by
    rw [sum, succeeded.stones, ← succeeded.placed]
    ring
  refine ⟨_, filled, ?_, start, stop, read, ?_⟩
  · have sizesNat : totalOps sizes.top sizes.bot =
        totalOps (sizes.top.toNat : Nat) (sizes.bot.toNat : Nat) := by
      rw [Int.toNat_of_nonneg natural.1, Int.toNat_of_nonneg natural.2]
    rw [resultsOf, ntohll_htonll, sizesNat, totalOps_eq, total]
  · rw [resultsOf, ntohll_htonll, stous_add]
    unfold Timeval.micros
    congr 1
    ring

end Children

/-! A run on two lower directories, of which the second cannot be made. -/

def refusingReply (world : Unit) : RunCall → RunAnswer × Unit
  | .gethostname => ({ value := 0, host := literal "h", time := ⟨0, 0⟩, statuses := [] }, world)
  | .fork _ => ({ value := 5, host := [], time := ⟨0, 0⟩, statuses := [] }, world)
  | .waitAll => ({ value := -1, host := [], time := ⟨0, 0⟩, statuses := [0] }, world)
  | .mkdir path =>
      ({ value := if path.lower = some (padded 3) then -1 else 0, host := [], time := ⟨0, 0⟩,
         statuses := [] }, world)
  | _ => ({ value := 0, host := [], time := ⟨0, 0⟩, statuses := [] }, world)

theorem oneTwo_counted : (1 : Int).toNat * ((2 : Int).toNat + 1) < 2 ^ 31 := by decide

def refusingSizes : Sizes where
  top := 1
  bot := 2
  counted := oneTwo_counted

def refusingRun : Ending RunCall RunAnswer RunEnd Unit :=
  (nfsstoneRun .little refusingSizes (literal "lock")).run refusingReply ()

def refusingEnd : RunEnd :=
  refusingRun.result.getD { error := 1, results := none }

theorem nfsstoneRun_reports_refusing :
    ∃ results, refusingEnd.results = some results ∧
      ByteOrder.little.ntohll results.totalStones =
        asUint64 ((seenOfRun refusingRun.trace).stones +
          ((seenOfRun refusingRun.trace).forked.map (childStones (fun _ => fileServer)
            (fun _ => WorkFile.empty) (fun _ => 7) fun _ => none)).sum +
          filesPerDir * fileStones * (seenOfRun refusingRun.trace).refused : Nat) ∧
      ∃ start stop, (seenOfRun refusingRun.trace).times = [start, stop] ∧
        ByteOrder.little.ntohll results.usec = asUint64 (stop.micros - start.micros) :=
  nfsstoneRun_reports (fun _ => fileServer) (fun _ => WorkFile.empty) (fun _ => 7)
    (fun _ => none) .little refusingSizes (literal "lock") ⟨by decide, by decide⟩ refusingReply ()
    (show _ = some refusingEnd from rfl) rfl rfl (fun _ _ => rfl) fun path _ => by
      have exits : exitStatus (fun _ => fileServer) (fun _ => WorkFile.empty) (fun _ => 7)
          (fun _ => none) path = 0 :=
        exitStatus_of_exits _ _ _ _ rfl (exits_of_described fileServer_described 7 path.text rfl)
      rw [exits]
      decide

end Nfsstone
end Ipbench
