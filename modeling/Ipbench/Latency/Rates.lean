import Ipbench.Latency.Bookkeeping

namespace Ipbench
namespace Latency

open Foundation

/-!
# The rates that a run reports

The rates of `measure_latency` count the packets between the end of the warmup
and the beginning of the cooldown, and divide by the time between them.  The
cooldown begins in the first iteration that finds enough samples taken, so the
log of a run determines when it begins and what was sent before it.  The state
of the loop follows the log as long as the loop goes on; what the function
computes when it stops is then a matter of arithmetic.
-/

variable {packetListLength : Nat}

/-- A packet completely sent after the warmup. -/
def MeasureConfig.countsSend (config : MeasureConfig) : MeasureEvent → Bool
  | .added _ sendTime _ => decide (config.warmupTime ≤ sendTime)
  | _ => false

/-- The inputs of a run, each with the events before it. -/
def measureLog (config : MeasureConfig) (positive : 0 < packetListLength)
    (sbuf rbuf : Option (List UInt8)) (inputs : List IterationInput) :
    List (List MeasureEvent × IterationInput) :=
  (measureMachine config packetListLength).log
    (measureStart config (PacketList.zeroed packetListLength positive) sbuf rbuf) [] inputs

/-- The first iteration that finds enough samples taken. -/
def coolingEntry (config : MeasureConfig) (log : List (List MeasureEvent × IterationInput)) :
    Option (List MeasureEvent × IterationInput) :=
  log.find? fun entry => decide (config.samples.toNat ≤ (samplesOf entry.1).length)

def coolingClock (config : MeasureConfig) (log : List (List MeasureEvent × IterationInput)) :
    UInt64 :=
  ((coolingEntry config log).map fun entry => entry.2.now).getD 0

/-- How many packets were completely sent between the warmup and the cooldown. -/
def measuredSends (config : MeasureConfig) (log : List (List MeasureEvent × IterationInput)) :
    Nat :=
  ((coolingEntry config log).map fun entry => entry.1.countP config.countsSend).getD 0

/-- The phases are ordered, and the rates are those of unbounded integers. -/
structure RatesExact (config : MeasureConfig)
    (log : List (List MeasureEvent × IterationInput)) (trace : List MeasureEvent)
    (state : MeasureState packetListLength) (result : LatencyResult) : Prop where
  warmed : config.warmupTime ≤ state.cooldownTime
  cooled : state.cooldownTime ≤ state.endTime
  divisor : result.microseconds ≠ 0
  bps : result.bps.toNat =
    8 * (samplesOf trace).length * config.size.toNat * 1000000 / result.microseconds.toNat
  bpsSent : result.bpsSent.toNat =
    8 * measuredSends config log * config.size.toNat * 1000000 / result.microseconds.toNat

/-- Without samples to wait for, the warmup is over at the first reading; the end
of the cooldown and the products fit 64 bits; and the measurement took at least
a microsecond. -/
structure RatesFit (config : MeasureConfig)
    (log : List (List MeasureEvent × IterationInput)) : Prop where
  warmed : config.samples = 0 → config.warmupTime ≤ coolingClock config log
  ends : (coolingClock config log).toNat +
    (config.tickRate.usecToTick config.cooldown).toNat < 2 ^ 64
  elapsed : config.tickRate.tickToUsec (coolingClock config log - config.warmupTime) ≠ 0
  received : 8 * config.samples.toNat * config.size.toNat * 1000000 < 2 ^ 64
  sent : 8 * measuredSends config log * config.size.toNat * 1000000 < 2 ^ 64

/-- After these inputs the next clock reading ends the loop. -/
structure LoopEnds (config : MeasureConfig) (positive : 0 < packetListLength)
    (sbuf rbuf : Option (List UInt8)) (before : List IterationInput)
    (state : MeasureState packetListLength) (last : IterationInput) : Prop where
  looping : (measureLatency config positive sbuf rbuf before).1 = .looping state
  ended : ¬ (last.now ≠ 0 ∧ (state.endTime = 0 ∨ last.now < state.endTime))

/-! ## The arithmetic of a rate -/

/-- A quotient forgets a lost multiple of the modulus only when nothing is lost. -/
theorem mod_div_eq_div_iff {value divisor modulus : Nat} (positive : 0 < divisor)
    (small : divisor ≤ modulus) :
    value % modulus / divisor = value / divisor ↔ value < modulus := by
  constructor
  · intro same
    by_contra large
    have once : 0 < value / modulus :=
      Nat.div_pos (Nat.le_of_not_lt large) (Nat.lt_of_lt_of_le positive small)
    have least : modulus ≤ modulus * (value / modulus) := Nat.le_mul_of_pos_right modulus once
    have split := Nat.mod_add_div value modulus
    have lost : value % modulus / divisor + 1 ≤ value / divisor := by
      rw [← Nat.add_div_right _ positive]
      exact Nat.div_le_div_right (by omega)
    omega
  · intro fits
    rw [Nat.mod_eq_of_lt fits]

/-- The computed rate is the true one exactly when the product does not wrap. -/
theorem toNat_rate_iff (packets size microseconds : UInt64) (divisor : microseconds ≠ 0) :
    (8 * packets * size * 1000000 / microseconds).toNat =
        8 * packets.toNat * size.toNat * 1000000 / microseconds.toNat ↔
      8 * packets.toNat * size.toNat * 1000000 < 2 ^ 64 := by
  have positive : 0 < microseconds.toNat :=
    UInt64.lt_iff_toNat_lt.mp (UInt64.pos_iff_ne_zero.mpr divisor)
  have wrapped : (8 * packets * size * 1000000).toNat =
      8 * packets.toNat * size.toNat * 1000000 % 2 ^ 64 := by
    rw [UInt64.toNat_mul, UInt64.toNat_mul, UInt64.toNat_mul, Nat.mod_mul_mod, Nat.mul_assoc,
      Nat.mod_mul_mod, ← Nat.mul_assoc]
    rfl
  rw [UInt64.toNat_div, wrapped]
  exact mod_div_eq_div_iff positive (Nat.le_of_lt microseconds.toNat_lt)

theorem le_add_iff (first second : UInt64) :
    first ≤ first + second ↔ first.toNat + second.toNat < 2 ^ 64 := by
  have one := first.toNat_lt
  have two := second.toNat_lt
  rw [UInt64.le_iff_toNat_le, UInt64.toNat_add]
  omega

/-! ## What the parts of an iteration do to the phases -/

/-- The phase stays; samples are taken after the warmup only, and the packets
sent while measuring are counted. -/
structure Advances (config : MeasureConfig) (first second : MeasureState packetListLength)
    (events : List MeasureEvent) : Prop where
  now : second.now = first.now
  cooldownTime : second.cooldownTime = first.cooldownTime
  endTime : second.endTime = first.endTime
  received : second.receivedPackets ≠ first.receivedPackets → config.warmupTime ≤ first.now
  bounded : first.sentPackets ≤ first.sends → second.sentPackets ≤ second.sends
  measured : first.sentPackets ≤ first.sends → first.cooldownTime = 0 →
    second.sentPackets.toNat = first.sentPackets.toNat + events.countP config.countsSend
  unmeasured : first.cooldownTime ≠ 0 → second.sentPackets = first.sentPackets

theorem Advances.trans {config : MeasureConfig}
    {first second third : MeasureState packetListLength} {early late : List MeasureEvent}
    (one : Advances config first second early) (two : Advances config second third late) :
    Advances config first third (early ++ late) where
  now := two.now.trans one.now
  cooldownTime := two.cooldownTime.trans one.cooldownTime
  endTime := two.endTime.trans one.endTime
  received := by
    intro changed
    by_cases same : second.receivedPackets = first.receivedPackets
    · exact one.now ▸ two.received (same ▸ changed)
    · exact one.received same
  bounded := fun fits => two.bounded (one.bounded fits)
  measured := by
    intro fits measuring
    rw [two.measured (one.bounded fits) (one.cooldownTime.trans measuring),
      one.measured fits measuring, List.countP_append, Nat.add_assoc]
  unmeasured := fun cooling =>
    (two.unmeasured (one.cooldownTime ▸ cooling)).trans (one.unmeasured cooling)

/-- A part that sends no whole packet and takes no sample. -/
theorem Advances.silent {config : MeasureConfig} {first second : MeasureState packetListLength}
    {events : List MeasureEvent} (now : second.now = first.now)
    (cooldownTime : second.cooldownTime = first.cooldownTime)
    (endTime : second.endTime = first.endTime)
    (received : second.receivedPackets ≠ first.receivedPackets → config.warmupTime ≤ first.now)
    (sends : second.sends = first.sends) (sentPackets : second.sentPackets = first.sentPackets)
    (silent : events.countP config.countsSend = 0) : Advances config first second events where
  now := now
  cooldownTime := cooldownTime
  endTime := endTime
  received := received
  bounded := by rw [sends, sentPackets]; exact id
  measured := by rw [silent, sentPackets]; exact fun _ _ => rfl
  unmeasured := fun _ => sentPackets

section Parts

variable {config : MeasureConfig} {state : MeasureState packetListLength}

theorem measuring_iff : state.measuring config = true ↔
    config.warmupTime ≤ state.now ∧ state.cooldownTime = 0 := by
  unfold MeasureState.measuring
  rw [Bool.and_eq_true_iff, decide_eq_true_iff, decide_eq_true_iff]

theorem receivePart_advances (outcomes : List RecvOutcome) :
    Advances config state (receivePart config state outcomes).2.1
      [.received (receivePart config state outcomes).2.2] := by
  unfold receivePart beginReceive
  split
  · exact .silent rfl rfl rfl (fun changed => absurd rfl changed) rfl rfl rfl
  · exact .silent rfl rfl rfl (fun changed => absurd rfl changed) rfl rfl rfl

theorem deliver_advances : Advances config state (deliver config state).1
    (deliver config state).2 := by
  unfold deliver
  dsimp only
  split
  · rename_i measuring
    have warm := (measuring_iff.mp measuring).1
    split
    · exact .silent rfl rfl rfl (fun _ => warm) rfl rfl rfl
    · exact .silent rfl rfl rfl (fun _ => warm) rfl rfl rfl
  · exact .silent rfl rfl rfl (fun changed => absurd rfl changed) rfl rfl rfl

/-- The counter of the measured packets cannot wrap before the one of all packets. -/
theorem completeSend_advances {bound : UInt64} (predicted : state.sends < bound) :
    Advances config state (completeSend config state).1 (completeSend config state).2 := by
  have next := toNat_succ_of_lt predicted
  unfold completeSend
  dsimp only
  by_cases measuring : state.measuring config = true
  · rw [if_pos measuring]
    have phase := measuring_iff.mp measuring
    have counted : [MeasureEvent.added state.sid state.now
        (state.table.packetListAdd state.sid state.now).1].countP config.countsSend = 1 :=
      List.countP_singleton.trans (if_pos (decide_eq_true phase.1))
    have succ : state.sentPackets ≤ state.sends →
        (state.sentPackets + 1).toNat = state.sentPackets.toNat + 1 := by
      intro fits
      exact toNat_succ_of_lt (UInt64.lt_of_le_of_lt fits predicted)
    refine ⟨rfl, rfl, rfl, fun changed => absurd rfl changed, ?_, ?_, ?_⟩
    · intro fits
      rw [UInt64.le_iff_toNat_le] at fits ⊢
      rw [succ (UInt64.le_iff_toNat_le.mpr fits), next]
      exact Nat.succ_le_succ fits
    · intro fits _
      rw [counted]
      exact succ fits
    · intro cooling
      exact absurd phase.2 cooling
  · rw [if_neg measuring]
    refine ⟨rfl, rfl, rfl, fun changed => absurd rfl changed, ?_, ?_, fun _ => rfl⟩
    · intro fits
      rw [UInt64.le_iff_toNat_le] at fits ⊢
      rw [next]
      exact Nat.le_succ_of_le fits
    · intro _ open_
      have cold : ¬ config.warmupTime ≤ state.now := fun warm =>
        measuring (measuring_iff.mpr ⟨warm, open_⟩)
      rw [List.countP_singleton, MeasureConfig.countsSend, decide_eq_false cold]
      rfl

theorem transmit_advances (outcomes : List SendOutcome) :
    Advances config state (transmit config state outcomes).2.1
      (transmit config state outcomes).2.2 := by
  unfold transmit
  split
  · rename_i predicted
    have frame := sendPart_frame config state outcomes
    have sent : Advances config state (sendPart config state outcomes).2.1
        [.sent (sendPart config state outcomes).2.2] := by
      unfold sendPart beginSend
      split
      · exact .silent rfl rfl rfl (fun changed => absurd rfl changed) rfl rfl rfl
      · exact .silent rfl rfl rfl (fun changed => absurd rfl changed) rfl rfl rfl
    dsimp only
    split
    · rw [← frame.2] at predicted
      exact sent.trans (completeSend_advances predicted)
    · exact sent
  · exact .silent rfl rfl rfl (fun changed => absurd rfl changed) rfl rfl rfl

theorem loopBody_advances {input : IterationInput} {next : MeasureState packetListLength}
    (looping : (loopBody config state input).1 = .looping next) :
    Advances config (beginCooldown config state) next (loopBody config state input).2 := by
  have received : Advances config (beginCooldown config state) _ _ :=
    receivePart_advances input.recvs
  unfold loopBody at looping ⊢
  generalize receivePart config (beginCooldown config state) input.recvs = part at *
  rcases part with ⟨exit, ready, taken⟩
  cases exit with
  | failed => cases looping
  | asserted => cases looping
  | waiting => cases looping
  | left =>
      dsimp only at *
      have delivered : Advances config ready
          (if ready.torecv = 0 then deliver config ready else (ready, [])).1
          (if ready.torecv = 0 then deliver config ready else (ready, [])).2 := by
        split
        · exact deliver_advances
        · exact .silent rfl rfl rfl (fun changed => absurd rfl changed) rfl rfl rfl
      generalize (if ready.torecv = 0 then deliver config ready else (ready, [])) = result at *
      have sent : Advances config result.1 _ _ := transmit_advances input.sends
      generalize transmit config result.1 input.sends = final at *
      rcases final with ⟨exit, last, events⟩
      cases exit with
      | left =>
          cases looping
          exact received.trans (delivered.trans sent)
      | failed => cases looping
      | asserted => cases looping
      | waiting => cases looping

end Parts

/-! ## The phases of a run -/

/-- The state of the loop against the log of the run. -/
structure Phases (config : MeasureConfig) (state : MeasureState packetListLength)
    (trace : List MeasureEvent) (log : List (List MeasureEvent × IterationInput)) : Prop where
  warm : state.receivedPackets ≠ 0 → config.warmupTime ≤ state.now
  bounded : state.sentPackets ≤ state.sends
  measuring : state.cooldownTime = 0 → coolingEntry config log = none ∧
    state.sentPackets.toNat = trace.countP config.countsSend
  cooling : state.cooldownTime ≠ 0 → ∃ before input, coolingEntry config log = some (before, input) ∧
    state.cooldownTime = input.now ∧
    state.endTime = input.now + config.tickRate.usecToTick config.cooldown ∧
    state.sentPackets.toNat = before.countP config.countsSend ∧
    (config.samples ≠ 0 → config.warmupTime ≤ input.now)

theorem coolingEntry_concat (config : MeasureConfig)
    (log : List (List MeasureEvent × IterationInput))
    (entry : List MeasureEvent × IterationInput) :
    coolingEntry config (log ++ [entry]) =
      (coolingEntry config log).or (coolingEntry config [entry]) :=
  List.find?_append

theorem coolingEntry_singleton (config : MeasureConfig) (trace : List MeasureEvent)
    (input : IterationInput) :
    coolingEntry config [(trace, input)] =
      if config.samples.toNat ≤ (samplesOf trace).length then some (trace, input) else none := by
  rw [coolingEntry, List.find?_singleton]
  simp only [decide_eq_true_eq]

theorem Phases.tick {config : MeasureConfig} {state : MeasureState packetListLength}
    {trace : List MeasureEvent} {log : List (List MeasureEvent × IterationInput)}
    (phases : Phases config state trace log) {now : UInt64} (later : state.now ≤ now) :
    Phases config { state with now := now } trace log :=
  { phases with warm := fun some => UInt64.le_trans (phases.warm some) later }

theorem Phases.beginCooldown {config : MeasureConfig} {state : MeasureState packetListLength}
    {trace : List MeasureEvent} {log : List (List MeasureEvent × IterationInput)}
    (phases : Phases config state trace log)
    (counted : state.receivedPackets.toNat = (samplesOf trace).length)
    {input : IterationInput} (now : state.now = input.now) (running : input.now ≠ 0) :
    Phases config (beginCooldown config state) trace (log ++ [(trace, input)]) := by
  have enough_iff : config.samples.toNat ≤ (samplesOf trace).length ↔
      config.samples ≤ state.receivedPackets := by
    rw [← counted, UInt64.le_iff_toNat_le]
  unfold Latency.beginCooldown
  by_cases open_ : state.cooldownTime = 0
  · rcases phases.measuring open_ with ⟨nothing, sent⟩
    by_cases enough : config.samples ≤ state.receivedPackets
    · rw [if_pos ⟨enough, open_⟩]
      have here : coolingEntry config (log ++ [(trace, input)]) = some (trace, input) := by
        rw [coolingEntry_concat, nothing, Option.none_or, coolingEntry_singleton,
          if_pos (enough_iff.mpr enough)]
      refine ⟨phases.warm, phases.bounded, fun stopped => absurd (now.symm.trans stopped) running,
        fun _ => ⟨trace, input, here, now, ?_, sent, ?_⟩⟩
      · rw [← now]
      · intro some
        rw [← now]
        apply phases.warm
        rintro zero
        rw [zero] at enough
        exact some (UInt64.le_antisymm enough UInt64.zero_le)
    · rw [if_neg fun both => enough both.1]
      have still : coolingEntry config (log ++ [(trace, input)]) = none := by
        rw [coolingEntry_concat, nothing, Option.none_or, coolingEntry_singleton,
          if_neg (mt enough_iff.mp enough)]
      exact ⟨phases.warm, phases.bounded, fun _ => ⟨still, sent⟩,
        fun stopped => absurd open_ stopped⟩
  · rw [if_neg fun both => open_ both.2]
    refine ⟨phases.warm, phases.bounded, fun again => absurd again open_, fun stopped => ?_⟩
    rcases phases.cooling stopped with ⟨before, first, entry, rest⟩
    refine ⟨before, first, ?_, rest⟩
    rw [coolingEntry_concat, entry, Option.some_or]

/-- The rest of the iteration moves within the phase. -/
theorem Phases.advance {config : MeasureConfig} {first second : MeasureState packetListLength}
    {trace events : List MeasureEvent} {log : List (List MeasureEvent × IterationInput)}
    (phases : Phases config first trace log) (advances : Advances config first second events) :
    Phases config second (trace ++ events) log where
  warm := by
    intro some
    rw [advances.now]
    by_cases same : second.receivedPackets = first.receivedPackets
    · exact phases.warm (same ▸ some)
    · exact advances.received same
  bounded := advances.bounded phases.bounded
  measuring := by
    rw [advances.cooldownTime]
    intro open_
    refine ⟨(phases.measuring open_).1, ?_⟩
    rw [advances.measured phases.bounded open_, (phases.measuring open_).2, List.countP_append]
  cooling := by
    rw [advances.cooldownTime, advances.endTime]
    intro stopped
    rw [advances.unmeasured stopped]
    exact phases.cooling stopped

/-- The state follows the log as long as the loop goes on. -/
theorem phases_of_along (config : MeasureConfig) (positive : 0 < packetListLength)
    (sbuf rbuf : Option (List UInt8)) (inputs : List IterationInput)
    (along : (measureMachine config packetListLength).Along
      (fun progress _ input => ClockReading progress input)
      (measureStart config (PacketList.zeroed packetListLength positive) sbuf rbuf) [] inputs)
    {state : MeasureState packetListLength}
    (looping : (measureLatency config positive sbuf rbuf inputs).1 = .looping state) :
    Phases config state (measureLatency config positive sbuf rbuf inputs).2
      (measureLog config positive sbuf rbuf inputs) := by
  induction inputs using List.reverseRecOn generalizing state with
  | nil =>
      change measureStart config _ sbuf rbuf = _ at looping
      unfold measureStart at looping
      split at looping
      · cases looping
        exact ⟨fun some => absurd rfl some, UInt64.le_refl _, fun _ => ⟨rfl, rfl⟩,
          fun stopped => absurd rfl stopped⟩
      · cases looping
  | append_singleton inputs input inductionHypothesis =>
      rw [Machine.along_append, List.nil_append] at along
      rcases along with ⟨early, reading, _⟩
      have kept := measureLatency_kept early
      unfold measureLatency measureLog at *
      rw [Machine.run_concat] at looping ⊢
      rw [Machine.log_concat, List.nil_append]
      generalize reached : (measureMachine config packetListLength).run
        (measureStart config (PacketList.zeroed packetListLength positive) sbuf rbuf) inputs =
          before at *
      rcases before with ⟨progress, trace⟩
      cases progress with
      | looping earlier =>
          have phases := inductionHypothesis early rfl
          rcases kept with ⟨window, kept⟩
          change (iteration config earlier input).1 = .looping state at looping
          change Phases config state (trace ++ (iteration config earlier input).2) _
          have body := (looping_of_iteration looping).2
          rw [body] at looping ⊢
          exact ((phases.tick reading.2).beginCooldown kept.received rfl reading.1).advance
            (loopBody_advances looping)
      | waiting earlier => cases looping
      | failed => cases looping
      | aborted => cases looping
      | returned earlier result => cases looping

/-! ## The results -/

theorem LoopEnds.run {config : MeasureConfig} {positive : 0 < packetListLength}
    {sbuf rbuf : Option (List UInt8)} {before : List IterationInput}
    {state : MeasureState packetListLength} {last : IterationInput}
    (ends : LoopEnds config positive sbuf rbuf before state last) :
    measureLatency config positive sbuf rbuf (before ++ [last]) =
      (finish config { state with now := last.now },
        (measureLatency config positive sbuf rbuf before).2) := by
  have looping := ends.looping
  unfold measureLatency at looping ⊢
  rw [Machine.run_concat]
  generalize (measureMachine config packetListLength).run _ before = reached at looping ⊢
  rcases reached with ⟨progress, trace⟩
  cases looping
  change ((iteration config state last).1, trace ++ (iteration config state last).2) = _
  unfold iteration
  rw [if_neg ends.ended, List.append_nil]

/-- The results computed after the loop, from a state that follows the log. -/
theorem finish_ratesiff {config : MeasureConfig} {state : MeasureState packetListLength}
    {trace : List MeasureEvent} {log : List (List MeasureEvent × IterationInput)}
    (clock : state.cooldownTime = coolingClock config log)
    (ending : state.endTime = state.cooldownTime + config.tickRate.usecToTick config.cooldown)
    (sent : state.sentPackets.toNat = measuredSends config log)
    (warm : config.samples ≠ 0 → config.warmupTime ≤ state.cooldownTime)
    (received : state.receivedPackets = config.samples)
    (counted : state.receivedPackets.toNat = (samplesOf trace).length) :
    (∃ final result, finish config state = .returned final result ∧
      RatesExact config log trace final result) ↔ RatesFit config log := by
  unfold finish
  dsimp only
  by_cases zero : config.tickRate.tickToUsec (state.cooldownTime - config.warmupTime) = 0
  · rw [if_pos zero]
    constructor
    · rintro ⟨final, result, impossible, _⟩
      cases impossible
    · intro fit
      rw [clock] at zero
      exact absurd zero fit.elapsed
  · rw [if_neg zero]
    have receivedRate := toNat_rate_iff state.receivedPackets config.size _ zero
    have sentRate := toNat_rate_iff state.sentPackets config.size _ zero
    have ended := le_add_iff state.cooldownTime (config.tickRate.usecToTick config.cooldown)
    rw [← ending] at ended
    constructor
    · rintro ⟨final, result, returned, rates⟩
      cases returned
      refine ⟨fun _ => clock ▸ rates.warmed, ?_, clock ▸ zero, ?_, ?_⟩
      · rw [← clock]
        exact ended.mp rates.cooled
      · rw [← received]
        exact receivedRate.mp (counted ▸ rates.bps)
      · rw [← sent]
        exact sentRate.mp (sent ▸ rates.bpsSent)
    · intro fit
      refine ⟨_, _, rfl, ?_, ?_, zero, ?_, ?_⟩
      · by_cases none : config.samples = 0
        · rw [clock]
          exact fit.warmed none
        · exact warm none
      · rw [clock] at ended ⊢
        exact ended.mpr fit.ends
      · rw [← counted]
        exact receivedRate.mpr (received ▸ fit.received)
      · rw [← sent]
        exact sentRate.mpr (sent ▸ fit.sent)

/-- The function that leaves its loop reports exact rates exactly when they fit. -/
theorem ratesExact_iff (config : MeasureConfig) (positive : 0 < packetListLength)
    (sbuf rbuf : Option (List UInt8)) {before : List IterationInput}
    {state : MeasureState packetListLength} {last : IterationInput}
    (running : ∀ input ∈ before ++ [last], input.now ≠ 0)
    (clock : (config.startTime :: (before ++ [last]).map IterationInput.now).IsChain (· ≤ ·))
    (ends : LoopEnds config positive sbuf rbuf before state last) :
    (∃ final result,
      (measureLatency config positive sbuf rbuf (before ++ [last])).1 = .returned final result ∧
        RatesExact config (measureLog config positive sbuf rbuf before)
          (measureLatency config positive sbuf rbuf (before ++ [last])).2 final result) ↔
      RatesFit config (measureLog config positive sbuf rbuf before) := by
  have along := measureLatency_along config positive sbuf rbuf (before ++ [last]) running clock
  rw [Machine.along_append] at along
  have phases := phases_of_along config positive sbuf rbuf before along.1 ends.looping
  have kept := measureLatency_kept along.1
  rw [ends.looping] at kept
  rcases kept with ⟨window, kept⟩
  have running : last.now ≠ 0 := running last (List.mem_append_right _ (List.mem_singleton.mpr rfl))
  have ended : state.endTime ≠ 0 := fun zero => ends.ended ⟨running, Or.inl zero⟩
  have stopped := kept.ending ended
  rcases phases.cooling stopped with ⟨earlier, input, entry, cooled, ending, sent, warm⟩
  have clocked : coolingClock config (measureLog config positive sbuf rbuf before) = input.now := by
    rw [coolingClock, entry]
    rfl
  have measured : measuredSends config (measureLog config positive sbuf rbuf before) =
      earlier.countP config.countsSend := by
    rw [measuredSends, entry]
    rfl
  rw [ends.run]
  apply finish_ratesiff
  · exact cooled.trans clocked.symm
  · rw [cooled]
    exact ending
  · exact sent.trans measured.symm
  · rw [cooled]
    exact warm
  · exact UInt64.le_antisymm kept.limit (kept.cooling stopped)
  · exact kept.received

theorem ratesExact_iff_one :
    ∃ final result,
      (measureLatency oneSampleConfig (show 0 < 4 by decide) (some (List.replicate 8 0))
          (some (List.replicate 8 0))
          (oneSampleInputs.take 3 ++ [{ now := 14, recvs := [], sends := [] }])).1 =
        .returned final result ∧ result.microseconds ≠ 0 := by
  have ends : ∃ state, LoopEnds oneSampleConfig (show 0 < 4 by decide)
      (some (List.replicate 8 0)) (some (List.replicate 8 0)) (oneSampleInputs.take 3) state
      { now := 14, recvs := [], sends := [] } := ⟨_, rfl, by decide⟩
  rcases ends with ⟨state, ends⟩
  rcases (ratesExact_iff oneSampleConfig (show 0 < 4 by decide) _ _ (by decide) (by decide)
    ends).mpr ⟨by decide, by decide, by decide, by decide, by decide⟩ with
    ⟨final, result, returned, rates⟩
  exact ⟨final, result, returned, rates.divisor⟩

/-- No samples, and a warmup that ends at tick 20. -/
def noSamplesConfig : MeasureConfig :=
  { oneSampleConfig with samples := 0, warmup := 10 }

/-- The first reading begins the cooldown while the warmup goes on. -/
theorem noSamples_coolsEarly :
    let inputs : List IterationInput :=
      [{ now := 11, recvs := [.eagain], sends := [.eagain] },
        { now := 12, recvs := [], sends := [] }]
    (noSamplesConfig.startTime :: inputs.map IterationInput.now).IsChain (· ≤ ·) ∧
      ∃ final result,
        (measureLatency noSamplesConfig (show 0 < 4 by decide) (some (List.replicate 8 0))
          (some (List.replicate 8 0)) inputs).1 = .returned final result ∧
        final.cooldownTime < noSamplesConfig.warmupTime ∧
        result.microseconds = 18446744073709551607 := by
  intro inputs
  exact ⟨by decide, _, _, rfl, by decide, by decide⟩

end Latency
end Ipbench
