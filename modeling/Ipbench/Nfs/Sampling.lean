import Ipbench.Foundation.CText
import Ipbench.Foundation.Machine
import Ipbench.Foundation.Word
import Ipbench.Nfs.Marshalling
import Ipbench.Nfs.Xdr

namespace Ipbench
namespace Nfs

open Foundation

/-!
# A run of the NFS latency client

Each turn of the loop of `nfs_latency_start` reads the clock, sends at most one
request and takes at most one reply.  An input of the machine is one turn: the
clock reading, what `generate_request` returns if it is called, and the
timestamp that the callbacks leave in `last_sample`.

The end of a run is an equality of two counters.  It is tested after the write
of a sample and in the same turn, so that the number of samples cannot pass the
number asked for.

The conversions between ticks and microseconds are computations of the timer.
They are parameters, and nothing is assumed of them.  The block of the samples
is what `malloc` hands out, whatever it contains; the source does not check
that there is one.
-/

/-- The fields of `nfs_options` that a run reads. -/
structure NfsOptions where
  rate : UInt64
  warmup : UInt64
  cooldown : UInt64
  samples : UInt64
deriving DecidableEq, Repr

/-- The options, the conversions of the timer and the reading before the loop. -/
structure LatencyConfig where
  options : NfsOptions
  usecToTick : UInt64 → UInt64
  tickToUsec : UInt64 → UInt64
  startTime : UInt64

def usPerS : UInt64 := 1000000

namespace LatencyConfig

variable (config : LatencyConfig)

/-- `target`: the number of samples as an `int`. -/
def target : Int :=
  asInt32 config.options.samples.toUInt32

def warmupTime : UInt64 :=
  config.startTime + config.usecToTick config.options.warmup

def cooldown : UInt64 :=
  config.usecToTick config.options.cooldown

def predictedRequests (now : UInt64) : UInt64 :=
  config.tickToUsec (now - config.startTime) * config.options.rate / usPerS

end LatencyConfig

/-- What the environment decides during one turn. -/
structure LatencyTurn where
  now : UInt64
  generated : Int
  lastSample : UInt64
deriving DecidableEq, Repr

/-- The static variables between two runs. -/
structure LatencyStatics where
  samples : UInt64
  sample : List UInt64
  nfsLatencyFinished : Int
  result : LatencyResult
deriving DecidableEq, Repr

/-- The variables of the loop, with the static ones. -/
structure LatencyState where
  i : Nat
  requests : UInt64
  replies : UInt64
  offset : UInt64
  cooldownTime : UInt64
  endTime : UInt64
  statics : LatencyStatics
deriving DecidableEq, Repr

/-- A write to `sample`: where, and the two times of the difference. -/
structure SampleWrite where
  index : Nat
  now : UInt64
  sent : UInt64
deriving DecidableEq, Repr

def SampleWrite.value (written : SampleWrite) : UInt64 :=
  written.now - written.sent

/-- The writes to `sample` and the subtraction for `result.sends`. -/
inductive LatencyEvent where
  | wrote (written : SampleWrite)
  | counted (requests offset : UInt64)
deriving DecidableEq, Repr

/-! ## The parts of a turn -/

/-- `process_reply`, with the timestamp that is left by the callback of a reply. -/
def processReply (lastSample : UInt64) : Option UInt64 :=
  if lastSample = 0 then none else some lastSample

/-- Send a request when there are fewer than predicted. -/
def requestTurn (config : LatencyConfig) (state : LatencyState) (turn : LatencyTurn) :
    LatencyState :=
  if state.requests < config.predictedRequests turn.now then
    if 0 < turn.generated then { state with requests := state.requests + 1 } else state
  else state

/-- Take a reply, and record it between warmup and cooldown.  Outside the block
a write changes no sample here, but its event shows the index. -/
def replyTurn (config : LatencyConfig) (state : LatencyState) (turn : LatencyTurn) :
    LatencyState × List LatencyEvent :=
  match processReply turn.lastSample with
  | none => (state, [])
  | some sent =>
      if config.warmupTime < turn.now ∧ state.cooldownTime = 0 then
        ({ state with
            offset := if state.offset = 0 then state.requests else state.offset
            replies := state.replies + 1
            statics :=
              { state.statics with
                sample := state.statics.sample.set state.i (turn.now - sent) }
            i := state.i + 1 },
          [.wrote { index := state.i, now := turn.now, sent := sent }])
      else (state, [])

/-- Begin the cooldown when the last sample has been taken. -/
def coolingTurn (config : LatencyConfig) (state : LatencyState) (turn : LatencyTurn) :
    LatencyState × List LatencyEvent :=
  if state.replies = asUint64 config.target ∧ state.cooldownTime = 0 then
    ({ state with
        cooldownTime := turn.now
        statics :=
          { state.statics with
            result := { state.statics.result with sends := state.requests - state.offset } }
        endTime := turn.now + config.cooldown },
      [.counted state.requests state.offset])
  else (state, [])

def turnBody (config : LatencyConfig) (state : LatencyState) (turn : LatencyTurn) :
    LatencyState × List LatencyEvent :=
  let replied := replyTurn config (requestTurn config state turn) turn
  let cooled := coolingTurn config replied.1 turn
  (cooled.1, replied.2 ++ cooled.2)

/-! ## A run -/

/-- Where `nfs_latency_start` is. -/
inductive LatencyRun where
  | looping (state : LatencyState)
  | returned (state : LatencyState)
deriving DecidableEq, Repr

def finishRun (config : LatencyConfig) (state : LatencyState) : LatencyState :=
  { state with
    statics :=
      { state.statics with
        result :=
          { state.statics.result with
            microseconds := config.tickToUsec (state.cooldownTime - config.warmupTime)
            recvs := state.replies }
        nfsLatencyFinished := 1 } }

/-- The test of the loop with what it decides about. -/
def latencyTurn (config : LatencyConfig) : LatencyRun → LatencyTurn →
    LatencyRun × List LatencyEvent
  | .looping state, turn =>
      if turn.now ≠ 0 ∧ (state.endTime = 0 ∨ turn.now < state.endTime) then
        let body := turnBody config state turn
        (.looping body.1, body.2)
      else (.returned (finishRun config state), [])
  | .returned state, _ => (.returned state, [])

/-- The static variables with the block of the samples.  It is allocated unless
the run before has left one. -/
def allocateSamples (config : LatencyConfig) (contents : Nat → UInt64)
    (statics : LatencyStatics) : LatencyStatics :=
  if statics.nfsLatencyFinished = 0 then
    { statics with
      samples := asUint64 config.target
      sample := (List.range config.target.toNat).map contents }
  else { statics with nfsLatencyFinished := 0 }

/-- The variables at the head of the loop. -/
def beginRun (statics : LatencyStatics) : LatencyState where
  i := 0
  requests := 0
  replies := 0
  offset := 0
  cooldownTime := 0
  endTime := 0
  statics := statics

def latencyMachine (config : LatencyConfig) : Machine LatencyRun LatencyTurn LatencyEvent where
  step := latencyTurn config

def nfsLatencyStart (config : LatencyConfig) (contents : Nat → UInt64) (statics : LatencyStatics)
    (turns : List LatencyTurn) : LatencyRun × List LatencyEvent :=
  (latencyMachine config).run (.looping (beginRun (allocateSamples config contents statics)))
    turns

/-! ## What a run records -/

/-- The writes to `sample`, in their order. -/
def writesOf (trace : List LatencyEvent) : List SampleWrite :=
  trace.filterMap fun
    | .wrote written => some written
    | .counted _ _ => none

theorem writesOf_append (first second : List LatencyEvent) :
    writesOf (first ++ second) = writesOf first ++ writesOf second :=
  List.filterMap_append

theorem mem_writesOf {trace : List LatencyEvent} {written : SampleWrite} :
    written ∈ writesOf trace ↔ .wrote written ∈ trace := by
  unfold writesOf
  rw [List.mem_filterMap]
  constructor
  · rintro ⟨event, member, same⟩
    cases event with
    | wrote other =>
        cases same
        exact member
    | counted requests offset => cases same
  · exact fun member => ⟨.wrote written, member, rfl⟩

/-- The cooldown has begun with all samples taken, after the warmup, and the
requests have been counted without underflow. -/
structure Cooling (config : LatencyConfig) (n : Nat) (state : LatencyState)
    (trace : List LatencyEvent) : Prop where
  all : state.i = n
  warm : config.warmupTime < state.cooldownTime
  counted : ∃ requests offset, .counted requests offset ∈ trace ∧ offset ≤ requests ∧
    state.statics.result.sends = requests - offset

/-- The counters and the time marks against the trace. -/
structure Booked (config : LatencyConfig) (n : Nat) (state : LatencyState)
    (trace : List LatencyEvent) : Prop where
  indices : (writesOf trace).map SampleWrite.index = List.range state.i
  ordered : ∀ written ∈ writesOf trace, written.sent ≤ written.now
  room : state.statics.sample.length = n
  stored : state.statics.sample.take state.i = (writesOf trace).map SampleWrite.value
  limit : state.i ≤ n
  replied : state.replies.toNat = state.i
  sent : state.offset ≤ state.requests
  ending : state.endTime ≠ 0 → state.cooldownTime ≠ 0
  cooling : state.cooldownTime ≠ 0 → Cooling config n state trace

/-- Until the cooldown begins a sample is missing. -/
def Missing (n : Nat) (state : LatencyState) : Prop :=
  state.cooldownTime = 0 → state.i < n

/-- Until the cooldown begins, all samples are there only after the warmup. -/
def MissingOrWarm (config : LatencyConfig) (n : Nat) (state : LatencyState)
    (now : UInt64) : Prop :=
  state.cooldownTime = 0 → state.i < n ∨ config.warmupTime < now

variable {config : LatencyConfig} {n : Nat} {state : LatencyState} {trace : List LatencyEvent}

/-! ## What the parts of a turn preserve -/

/-- A request is counted below a bound, so the counter does not wrap. -/
theorem Booked.request (booked : Booked config n state trace) (turn : LatencyTurn) :
    Booked config n (requestTurn config state turn) trace := by
  unfold requestTurn
  split
  · rename_i predicted
    split
    · have counted := toNat_succ_of_lt predicted
      have sent := UInt64.le_iff_toNat_le.mp booked.sent
      exact
        { booked with
          sent := by
            rw [UInt64.le_iff_toNat_le, counted]
            exact Nat.le_succ_of_le sent
          cooling := fun begun => { booked.cooling begun with } }
    · exact booked
  · exact booked

theorem requestTurn_missing (turn : LatencyTurn) (missing : Missing n state) :
    Missing n (requestTurn config state turn) := by
  unfold requestTurn
  split
  · split
    · exact missing
    · exact missing
  · exact missing

/-- A reply in the measuring phase is written at the next index of the block. -/
theorem Booked.record (booked : Booked config n state trace) (measuring : state.cooldownTime = 0)
    (below : state.i < n) (small : n < 0x80000000) {now sent : UInt64} (past : sent ≤ now) :
    Booked config n
      { state with
        offset := if state.offset = 0 then state.requests else state.offset
        replies := state.replies + 1
        statics :=
          { state.statics with sample := state.statics.sample.set state.i (now - sent) }
        i := state.i + 1 }
      (trace ++ [.wrote { index := state.i, now := now, sent := sent }]) := by
  have writes : writesOf (trace ++ [.wrote { index := state.i, now := now, sent := sent }]) =
      writesOf trace ++ [{ index := state.i, now := now, sent := sent }] :=
    writesOf_append _ _
  have replied := booked.replied
  have taken : (writesOf trace).length = state.i := by
    rw [← List.length_map SampleWrite.index, booked.indices, List.length_range]
  refine ⟨?_, ?_, ?_, ?_, below, ?_, ?_, booked.ending, fun begun => absurd measuring begun⟩
  · rw [writes, List.map_append, booked.indices]
    exact List.range_succ.symm
  · intro written member
    rw [writes] at member
    rcases List.mem_append.mp member with old | new
    · exact booked.ordered written old
    · rw [List.mem_singleton.mp new]
      exact past
  · rw [List.length_set]
    exact booked.room
  · rw [writes, List.map_append, ← booked.stored, List.take_add_one,
      List.take_set_of_le (Nat.le_refl _), List.getElem?_set_self (booked.room ▸ below)]
    rfl
  · rw [UInt64.toNat_add, UInt64.toNat_one, replied]
    exact Nat.mod_eq_of_lt (by omega)
  · dsimp only
    split
    · exact UInt64.le_refl _
    · exact booked.sent

/-- A turn takes a reply or leaves everything as it was. -/
theorem Booked.reply (booked : Booked config n state trace) (missing : Missing n state)
    (small : n < 0x80000000) {turn : LatencyTurn} (past : turn.lastSample ≤ turn.now) :
    Booked config n (replyTurn config state turn).1 (trace ++ (replyTurn config state turn).2) ∧
      MissingOrWarm config n (replyTurn config state turn).1 turn.now := by
  have unchanged : Booked config n state (trace ++ []) ∧
      MissingOrWarm config n state turn.now := by
    rw [List.append_nil]
    exact ⟨booked, fun measuring => Or.inl (missing measuring)⟩
  unfold replyTurn processReply
  by_cases silent : turn.lastSample = 0
  · rw [if_pos silent]
    exact unchanged
  · rw [if_neg silent]
    dsimp only
    split
    · rename_i phase
      exact ⟨booked.record phase.2 (missing phase.2) small past, fun _ => Or.inr phase.1⟩
    · exact unchanged

/-- All samples are there exactly if the replies are as many as the target. -/
theorem Booked.replies_eq_iff (booked : Booked config n state trace)
    (target : (asUint64 config.target).toNat = n) :
    state.replies = asUint64 config.target ↔ state.i = n := by
  rw [← UInt64.toNat_inj, booked.replied, target]

/-- After the test for the cooldown a sample is missing, or the cooldown has begun. -/
theorem Booked.cool (booked : Booked config n state trace)
    (target : (asUint64 config.target).toNat = n) {turn : LatencyTurn} (running : turn.now ≠ 0)
    (phase : MissingOrWarm config n state turn.now) :
    Booked config n (coolingTurn config state turn).1
        (trace ++ (coolingTurn config state turn).2) ∧
      Missing n (coolingTurn config state turn).1 := by
  have complete := booked.replies_eq_iff target
  unfold coolingTurn
  split
  · rename_i full
    have all := complete.mp full.1
    have silent : writesOf (trace ++ [.counted state.requests state.offset]) =
        writesOf trace := by
      rw [writesOf_append]
      exact List.append_nil _
    have warm : config.warmupTime < turn.now := (phase full.2).resolve_left (by omega)
    exact ⟨
      { booked with
        indices := silent ▸ booked.indices
        ordered := silent ▸ booked.ordered
        stored := silent ▸ booked.stored
        ending := fun _ => running
        cooling := fun _ => ⟨all, warm, state.requests, state.offset,
          List.mem_append_right _ List.mem_cons_self, booked.sent, rfl⟩ },
      fun stopped => absurd stopped running⟩
  · rename_i open_
    rw [List.append_nil]
    exact ⟨booked, fun measuring =>
      Nat.lt_of_le_of_ne booked.limit fun all => open_ ⟨complete.mpr all, measuring⟩⟩

theorem Booked.turnBody (booked : Booked config n state trace) (missing : Missing n state)
    (target : (asUint64 config.target).toNat = n) (small : n < 0x80000000) {turn : LatencyTurn}
    (running : turn.now ≠ 0) (past : turn.lastSample ≤ turn.now) :
    Booked config n (turnBody config state turn).1 (trace ++ (turnBody config state turn).2) ∧
      Missing n (turnBody config state turn).1 := by
  have replied := (booked.request turn).reply (requestTurn_missing turn missing) small past
  have cooled := replied.1.cool target running replied.2
  rw [List.append_assoc] at cooled
  exact cooled

/-! ## Whole runs -/

/-- A run that has returned has taken exactly the samples asked for. -/
structure Finished (config : LatencyConfig) (n : Nat) (state : LatencyState)
    (trace : List LatencyEvent) : Prop where
  indices : (writesOf trace).map SampleWrite.index = List.range n
  stored : state.statics.sample = (writesOf trace).map SampleWrite.value
  replies : state.replies.toNat = n
  recvs : state.statics.result.recvs.toNat = n
  sends : ∃ requests offset, .counted requests offset ∈ trace ∧
    state.statics.result.sends.toNat + offset.toNat = requests.toNat
  warm : config.warmupTime < state.cooldownTime

/-- Every write of a run is inside the block and a difference of two times in
order, and a run that returns is finished. -/
structure Sampled (config : LatencyConfig) (n : Nat) (run : LatencyRun × List LatencyEvent) :
    Prop where
  inside : ∀ written, .wrote written ∈ run.2 → written.index < n
  nonnegative : ∀ written, .wrote written ∈ run.2 →
    written.value.toNat + written.sent.toNat = written.now.toNat
  finished : ∀ state, run.1 = .returned state → Finished config n state run.2

theorem Booked.inside (booked : Booked config n state trace) {written : SampleWrite}
    (member : .wrote written ∈ trace) : written.index < n := by
  have listed : written.index ∈ (writesOf trace).map SampleWrite.index :=
    List.mem_map_of_mem (mem_writesOf.mpr member)
  rw [booked.indices] at listed
  exact Nat.lt_of_lt_of_le (List.mem_range.mp listed) booked.limit

theorem Booked.nonnegative (booked : Booked config n state trace) {written : SampleWrite}
    (member : .wrote written ∈ trace) :
    written.value.toNat + written.sent.toNat = written.now.toNat :=
  toNat_sub_add (booked.ordered written (mem_writesOf.mpr member))

theorem Booked.finished (booked : Booked config n state trace) (begun : state.cooldownTime ≠ 0) :
    Finished config n (finishRun config state) trace := by
  have cooling := booked.cooling begun
  have replied : state.replies.toNat = n := booked.replied.trans cooling.all
  refine ⟨?_, ?_, replied, replied, ?_, cooling.warm⟩
  · rw [booked.indices, cooling.all]
  · rw [← booked.stored, cooling.all, ← booked.room]
    exact (List.take_length).symm
  · rcases cooling.counted with ⟨requests, offset, member, order, sends⟩
    refine ⟨requests, offset, member, ?_⟩
    change state.statics.result.sends.toNat + offset.toNat = requests.toNat
    rw [sends]
    exact toNat_sub_add order

def RunBooked (config : LatencyConfig) (n : Nat) (run : LatencyRun)
    (trace : List LatencyEvent) : Prop :=
  match run with
  | .looping state => Booked config n state trace ∧ Missing n state
  | .returned last => ∃ state, Booked config n state trace ∧ state.cooldownTime ≠ 0 ∧
      last = finishRun config state

/-- A clock that runs does not end the loop before the cooldown has begun. -/
theorem latencyTurn_booked (target : (asUint64 config.target).toNat = n)
    (small : n < 0x80000000) (run : LatencyRun) (trace : List LatencyEvent) (turn : LatencyTurn)
    (kept : RunBooked config n run trace)
    (clocked : turn.now ≠ 0 ∧ turn.lastSample ≤ turn.now) :
    RunBooked config n (latencyTurn config run turn).1
      (trace ++ (latencyTurn config run turn).2) := by
  cases run with
  | returned last =>
      change RunBooked config n (.returned last) (trace ++ [])
      rw [List.append_nil]
      exact kept
  | looping state =>
      rcases kept with ⟨booked, missing⟩
      unfold latencyTurn
      dsimp only
      split
      · exact booked.turnBody missing target small clocked.1 clocked.2
      · rename_i stopped
        rw [List.append_nil]
        have ended : state.endTime ≠ 0 := fun open_ => stopped ⟨clocked.1, Or.inl open_⟩
        exact ⟨state, booked, booked.ending ended, rfl⟩

theorem target_of_samples (requested : config.options.samples.toNat = n)
    (small : n < 0x80000000) : config.target = n := by
  have kept : config.options.samples.toUInt32.toNat = n := by
    rw [UInt64.toNat_toUInt32, requested]
    exact Nat.mod_eq_of_lt (by omega)
  unfold LatencyConfig.target asInt32
  rw [kept, if_pos small]

theorem beginRun_booked (statics : LatencyStatics) (room : statics.sample.length = n)
    (positive : 1 ≤ n) :
    Booked config n (beginRun statics) [] ∧ Missing n (beginRun statics) := by
  refine ⟨⟨rfl, ?_, room, rfl, Nat.zero_le n, rfl, UInt64.le_refl 0, ?_, ?_⟩, fun _ => positive⟩
  · intro written member
    cases member
  · exact fun ended => absurd rfl ended
  · exact fun begun => absurd rfl begun

/-- On the first run a block for the samples asked for is allocated. -/
theorem allocateSamples_length (contents : Nat → UInt64) {statics : LatencyStatics}
    (first : statics.nfsLatencyFinished = 0) (target : config.target = n) :
    (allocateSamples config contents statics).sample.length = n := by
  unfold allocateSamples
  rw [if_pos first, target]
  dsimp only
  rw [List.length_map, List.length_range, Int.toNat_natCast]

/-- The first run of a process takes exactly the samples asked for, in order and
inside their block.  The clock may even go back, as long as no timestamp is later
than the reading of its turn. -/
theorem nfsLatencyStart_sampled (config : LatencyConfig) (contents : Nat → UInt64)
    (statics : LatencyStatics) (turns : List LatencyTurn) (n : Nat)
    (requested : config.options.samples.toNat = n) (positive : 1 ≤ n) (small : n < 0x80000000)
    (first : statics.nfsLatencyFinished = 0)
    (clocked : ∀ turn ∈ turns, turn.now ≠ 0 ∧ turn.lastSample ≤ turn.now) :
    Sampled config n (nfsLatencyStart config contents statics turns) := by
  have target := target_of_samples requested small
  have number : (asUint64 config.target).toNat = n := by
    rw [target, toNat_asUint64 (by omega)]
  have start : RunBooked config n
      (.looping (beginRun (allocateSamples config contents statics))) [] :=
    beginRun_booked _ (allocateSamples_length contents first target) positive
  have along := Machine.Along.and_of_forall clocked
    ((latencyMachine config).along_true
      (.looping (beginRun (allocateSamples config contents statics))) [] turns)
  have kept : RunBooked config n (nfsLatencyStart config contents statics turns).1
      (nfsLatencyStart config contents statics turns).2 :=
    (latencyMachine config).run_invariant
      (fun run trace turn kept clocked =>
        latencyTurn_booked number small run trace turn kept clocked.1) start along
  have books : ∃ state, Booked config n state
      (nfsLatencyStart config contents statics turns).2 := by
    unfold RunBooked at kept
    split at kept
    · exact ⟨_, kept.1⟩
    · rcases kept with ⟨state, booked, _⟩
      exact ⟨state, booked⟩
  rcases books with ⟨_, booked⟩
  constructor
  · exact fun written member => booked.inside member
  · exact fun written member => booked.nonnegative member
  · intro last returned
    rw [returned] at kept
    rcases kept with ⟨state, final, begun, same⟩
    rw [same]
    exact final.finished begun

/-- The static variables at the start of the process. -/
def unusedStatics : LatencyStatics where
  samples := 0
  sample := []
  nfsLatencyFinished := 0
  result := { microseconds := 0, sends := 0, recvs := 0 }

/-- A run for two samples with a warmup of ten ticks. -/
def twoSamples : LatencyConfig where
  options := { rate := 500000, warmup := 10, cooldown := 4, samples := 2 }
  usecToTick := id
  tickToUsec := id
  startTime := 100

/-- The first reply comes during the warmup, the third request fails, and the last
reply comes during the cooldown. -/
def twoSampleTurns : List LatencyTurn :=
  [⟨104, 1, 0⟩, ⟨107, 1, 104⟩, ⟨111, -1, 0⟩, ⟨112, 1, 110⟩, ⟨114, 1, 111⟩, ⟨117, 1, 112⟩,
    ⟨118, 0, 0⟩]

theorem nfsLatencyStart_sampled_two :
    Sampled twoSamples 2 (nfsLatencyStart twoSamples (fun _ => 0) unusedStatics twoSampleTurns) ∧
      (nfsLatencyStart twoSamples (fun _ => 0) unusedStatics twoSampleTurns).1 =
        .returned
          { i := 2, requests := 5, replies := 2, offset := 3, cooldownTime := 114, endTime := 118
            statics :=
              { samples := 2, sample := [2, 3], nfsLatencyFinished := 1
                result := { microseconds := 4, sends := 1, recvs := 2 } } } := by
  constructor
  · exact nfsLatencyStart_sampled twoSamples (fun _ => 0) unusedStatics twoSampleTurns 2 rfl
      (by decide) (by decide) rfl (by decide)
  · decide

end Nfs
end Ipbench
