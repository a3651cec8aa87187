import Ipbench.Foundation.Word
import Ipbench.Latency.Ip
import Mathlib.Data.List.Nodup

namespace Ipbench
namespace Latency

open Foundation

/-!
# Bookkeeping of the measuring loop

`Kept` ties the counters of the loop to its trace.  The samples are written at
indices `0, 1, 2, ...`, each for a packet that the window no longer holds, so
no packet can be sampled twice.  The bound on the samples is checked at the
top of an iteration and used in the middle of it; `Room` is what the check
leaves behind.

No assumption is made about the replies: any bytes may arrive, so any
identifier may be asked for, in any order and any number of times.
-/

variable {packetListLength : Nat}

/-- A sample is the age of a completely sent packet, taken after the warmup. -/
structure SampleCorrect (config : MeasureConfig) (trace : List MeasureEvent)
    (sample : Sample) : Prop where
  completed : ∃ drops, .added sample.packetId sample.sendTime drops ∈ trace
  ordered : sample.sendTime ≤ sample.now
  age : sample.rtt = sample.now - sample.sendTime
  warm : config.warmupTime ≤ sample.now

/-- A sample is judged by the events before it. -/
def SampledCorrectly (config : MeasureConfig) (before : List MeasureEvent)
    (event : MeasureEvent) : Prop :=
  ∀ sample, event = .sampled sample → SampleCorrect config before sample

/-- The table and the counters against the trace. -/
structure Kept (config : MeasureConfig) (state : MeasureState packetListLength)
    (trace : List MeasureEvent) (window : Window UInt64) : Prop where
  represents : state.table.Represents window
  counted : window.count = state.sends.toNat
  identifier : state.sid = state.sends
  timed : ∀ number time, window.held number = some time →
    time ≤ state.now ∧ ∃ drops, .added (UInt64.ofNat number) time drops ∈ trace
  taken : ∀ sample ∈ samplesOf trace,
    sample.packetId.toNat < window.count ∧ window.held sample.packetId.toNat = none
  received : state.receivedPackets.toNat = (samplesOf trace).length
  indices : (samplesOf trace).map Sample.index =
    (List.range (samplesOf trace).length).map UInt64.ofNat
  distinct : ((samplesOf trace).map Sample.packetId).Nodup
  correct : EachEvent (SampledCorrectly config) trace
  storedLength : state.rttSample.length = config.samples.toNat
  stored : state.rttSample.take (samplesOf trace).length = (samplesOf trace).map Sample.rtt
  limit : state.receivedPackets ≤ config.samples
  cooling : state.cooldownTime ≠ 0 → config.samples ≤ state.receivedPackets
  ending : state.endTime ≠ 0 → state.cooldownTime ≠ 0

/-- Until the cooldown begins there is room for one more sample. -/
def Room (config : MeasureConfig) (state : MeasureState packetListLength) : Prop :=
  state.cooldownTime = 0 → state.receivedPackets < config.samples

theorem Kept.fits {config : MeasureConfig} {state : MeasureState packetListLength}
    {trace : List MeasureEvent} {window : Window UInt64}
    (kept : Kept config state trace window) : window.count ≤ 2 ^ 64 := by
  rw [kept.counted]
  exact Nat.le_of_lt state.sends.toNat_lt

/-- Every index written so far is below the number of samples asked for. -/
theorem Kept.index_lt {config : MeasureConfig} {state : MeasureState packetListLength}
    {trace : List MeasureEvent} {window : Window UInt64}
    (kept : Kept config state trace window) :
    ∀ sample ∈ samplesOf trace, sample.index < config.samples := by
  intro sample member
  have listed : sample.index ∈ (samplesOf trace).map Sample.index :=
    List.mem_map_of_mem member
  rw [kept.indices] at listed
  rcases List.mem_map.mp listed with ⟨position, inRange, same⟩
  have below := List.mem_range.mp inRange
  have limit := UInt64.le_iff_toNat_le.mp kept.limit
  have received := kept.received
  have bound := config.samples.toNat_lt
  rw [← same, UInt64.lt_iff_toNat_lt, UInt64.toNat_ofNat_of_lt' (by
    simp only [UInt64.size]
    omega)]
  omega

/-- The trace may grow by events that are not samples. -/
theorem Kept.emit {config : MeasureConfig} {state : MeasureState packetListLength}
    {trace : List MeasureEvent} {window : Window UInt64}
    (kept : Kept config state trace window) {events : List MeasureEvent}
    (silent : samplesOf events = []) : Kept config state (trace ++ events) window := by
  have same : samplesOf (trace ++ events) = samplesOf trace := by
    rw [samplesOf_append, silent, List.append_nil]
  refine ⟨kept.represents, kept.counted, kept.identifier, ?_, same ▸ kept.taken,
    same ▸ kept.received, same ▸ kept.indices, same ▸ kept.distinct, ?_, kept.storedLength,
    same ▸ kept.stored, kept.limit, kept.cooling, kept.ending⟩
  · intro number time held
    have old := kept.timed number time held
    exact ⟨old.1, old.2.imp fun _ member => List.mem_append_left _ member⟩
  · apply kept.correct.append
    intro event member before sample sampled
    have listed := mem_samplesOf (sampled ▸ member)
    rw [silent] at listed
    cases listed

theorem Kept.tick {config : MeasureConfig} {state : MeasureState packetListLength}
    {trace : List MeasureEvent} {window : Window UInt64}
    (kept : Kept config state trace window) {now : UInt64} (later : state.now ≤ now) :
    Kept config { state with now := now } trace window :=
  { kept with
    timed := fun number time held =>
      have old := kept.timed number time held
      ⟨UInt64.le_trans old.1 later, old.2⟩ }

theorem Kept.beginCooldown {config : MeasureConfig} {state : MeasureState packetListLength}
    {trace : List MeasureEvent} {window : Window UInt64}
    (kept : Kept config state trace window) (running : state.now ≠ 0) :
    Kept config (beginCooldown config state) trace window ∧
      Room config (beginCooldown config state) := by
  unfold Latency.beginCooldown
  by_cases enough : config.samples ≤ state.receivedPackets ∧ state.cooldownTime = 0
  · rw [if_pos enough]
    exact ⟨{ kept with cooling := fun _ => enough.1, ending := fun _ => running },
      fun stopped => False.elim (running stopped)⟩
  · rw [if_neg enough]
    exact ⟨kept, fun open_ => UInt64.not_le.mp fun full => enough ⟨full, open_⟩⟩

theorem Kept.take {config : MeasureConfig} {state : MeasureState packetListLength}
    {trace : List MeasureEvent} {window : Window UInt64}
    (kept : Kept config state trace window) {packetId time : UInt64}
    (held : window.held packetId.toNat = some time) :
    Kept config { state with table := state.table.clear (state.table.slotOf packetId.toNat) }
      trace (window.take packetId.toNat) where
  represents := state.table.clear_represents kept.represents held
  counted := kept.counted
  identifier := kept.identifier
  timed := fun number other remains =>
    kept.timed number other (Window.take_held_eq_some remains).2
  taken := by
    intro sample member
    have old := kept.taken sample member
    refine ⟨old.1, ?_⟩
    by_cases same : sample.packetId.toNat = packetId.toNat
    · rw [same, Window.take_held_self]
    · rw [window.take_held_of_ne same]
      exact old.2
  received := kept.received
  indices := kept.indices
  distinct := kept.distinct
  correct := kept.correct
  storedLength := kept.storedLength
  stored := kept.stored
  limit := kept.limit
  cooling := kept.cooling
  ending := kept.ending

/-- Writing the next sample, for a packet that is no longer held and was
never sampled. -/
theorem Kept.record {config : MeasureConfig} {state : MeasureState packetListLength}
    {trace : List MeasureEvent} {window : Window UInt64}
    (kept : Kept config state trace window) (measuring : state.cooldownTime = 0)
    (room : state.receivedPackets < config.samples) {sample : Sample}
    (index : sample.index = state.receivedPackets)
    (below : sample.packetId.toNat < window.count)
    (absent : window.held sample.packetId.toNat = none)
    (fresh : ∀ old ∈ samplesOf trace, old.packetId ≠ sample.packetId)
    (correct : SampleCorrect config trace sample) :
    Kept config
      { state with
        rttSample := state.rttSample.set state.receivedPackets.toNat sample.rtt
        receivedPackets := state.receivedPackets + 1 }
      (trace ++ [.sampled sample]) window := by
  have received := kept.received
  have next := toNat_succ_of_lt room
  have roomNat := UInt64.lt_iff_toNat_lt.mp room
  have position : (samplesOf trace).length < state.rttSample.length := by
    rw [kept.storedLength, ← received]
    exact roomNat
  have samples : samplesOf (trace ++ [.sampled sample]) = samplesOf trace ++ [sample] :=
    samplesOf_append _ _
  refine ⟨kept.represents, kept.counted, kept.identifier, ?_, ?_, ?_, ?_, ?_, ?_, ?_, ?_, ?_, ?_,
    kept.ending⟩
  · intro number time held
    have old := kept.timed number time held
    exact ⟨old.1, old.2.imp fun _ member => List.mem_append_left _ member⟩
  · intro other member
    rw [samples] at member
    rcases List.mem_append.mp member with old | new
    · exact kept.taken other old
    · rw [List.mem_singleton.mp new]
      exact ⟨below, absent⟩
  · rw [samples, List.length_append, List.length_singleton, ← received]
    exact next
  · rw [samples, List.map_append, List.length_append, List.length_singleton, List.range_succ,
      List.map_append, kept.indices]
    simp only [List.map_cons, List.map_nil, index, ← received, UInt64.ofNat_toNat]
  · rw [samples, List.map_append]
    refine List.nodup_append.mpr ⟨kept.distinct, List.nodup_singleton _, ?_⟩
    intro identifier old other new
    rcases List.mem_map.mp old with ⟨earlier, member, same⟩
    rw [List.mem_map] at new
    rcases new with ⟨current, currentMember, equal⟩
    rw [List.mem_singleton.mp currentMember] at equal
    rw [← same, ← equal]
    exact fresh earlier member
  · apply kept.correct.concat
    intro other sampled
    cases sampled
    exact correct
  · rw [List.length_set]
    exact kept.storedLength
  · rw [samples, List.length_append, List.length_singleton, List.map_append, List.take_add_one,
      ← kept.stored, received, List.take_set_of_le (Nat.le_refl _),
      List.getElem?_set_self position]
    rfl
  · rw [UInt64.le_iff_toNat_le, next]
    exact roomNat
  · intro stopped
    exact False.elim (stopped measuring)

/-- A reply is matched or missed; when it is matched in the measuring phase
the next sample is written. -/
theorem Kept.deliver {config : MeasureConfig} {state : MeasureState packetListLength}
    {trace : List MeasureEvent} {window : Window UInt64}
    (kept : Kept config state trace window) (room : Room config state) :
    ∃ window', Kept config (deliver config state).1
      (trace ++ (deliver config state).2) window' := by
  generalize rid : config.layer.readPacket state.rbuf = packetId
  rcases state.table.packetListDel_cases kept.represents kept.fits packetId with
    missed | ⟨time, held, found⟩
  · refine ⟨window, ?_⟩
    have late : ¬ (0 : UInt64) < 0 := UInt64.lt_irrefl 0
    have emitted : Kept config state (trace ++ [.deleted packetId 0]) window := kept.emit rfl
    simp only [Latency.deliver, rid, missed, if_neg late]
    split
    · exact { emitted with }
    · exact { emitted with }
  · refine ⟨window.take packetId.toNat, ?_⟩
    have positive : 0 < time := UInt64.pos_iff_ne_zero.mpr
      (kept.represents.nonzero _ _ held)
    have emitted : Kept config _ (trace ++ [.deleted packetId time]) _ :=
      (kept.take held).emit rfl
    have samples : samplesOf (trace ++ [.deleted packetId time]) = samplesOf trace := by
      rw [samplesOf_append, samplesOf_deleted, samplesOf_nil, List.append_nil]
    simp only [Latency.deliver, rid, found, if_pos positive]
    by_cases measuring : state.measuring config = true
    · rw [if_pos measuring]
      have phase := Bool.and_eq_true_iff.mp measuring
      have open_ : state.cooldownTime = 0 := of_decide_eq_true phase.2
      have timed := kept.timed _ _ held
      rw [UInt64.ofNat_toNat] at timed
      have correct : SampleCorrect config (trace ++ [.deleted packetId time])
          { index := state.receivedPackets, rtt := state.now - time, packetId := packetId
            sendTime := time, now := state.now } :=
        { completed := timed.2.imp fun _ member => List.mem_append_left _ member
          ordered := timed.1
          age := rfl
          warm := of_decide_eq_true phase.1 }
      have fresh : ∀ old ∈ samplesOf (trace ++ [.deleted packetId time]),
          old.packetId ≠ packetId := by
        intro old member same
        have gone := kept.taken old (samples ▸ member)
        rw [same, held] at gone
        cases gone.2
      have recorded := emitted.record open_ (room open_) rfl
        (kept.represents.bounded _ _ held).1 (window.take_held_self _) fresh correct
      rw [List.append_assoc] at recorded
      exact { recorded with }
    · rw [if_neg measuring]
      exact { emitted with }

/-- A completely sent packet enters the table under the next identifier. -/
theorem Kept.completeSend {config : MeasureConfig} {state : MeasureState packetListLength}
    {trace : List MeasureEvent} {window : Window UInt64}
    (kept : Kept config state trace window) (running : state.now ≠ 0) {bound : UInt64}
    (predicted : state.sends < bound) :
    Kept config (completeSend config state).1 (trace ++ (completeSend config state).2)
      (window.push packetListLength state.now) := by
  have next := toNat_succ_of_lt predicted
  have identifier : state.sid = UInt64.ofNat window.count := by
    rw [kept.identifier, kept.counted, UInt64.ofNat_toNat]
  have emitted := kept.emit (show samplesOf [.added state.sid state.now
    (state.table.packetListAdd state.sid state.now).1] = [] from rfl)
  have pushed : Kept config
      { state with
        table := (state.table.packetListAdd state.sid state.now).2
        sid := state.sid + 1
        sends := state.sends + 1 }
      (trace ++ [.added state.sid state.now (state.table.packetListAdd state.sid state.now).1])
      (window.push packetListLength state.now) :=
    { emitted with
      represents := identifier ▸ state.table.packetListAdd_represents kept.represents running
      counted := by rw [Window.push_count, kept.counted, next]
      identifier := by rw [kept.identifier]
      timed := by
        intro number time held
        rcases Window.push_held_eq_some held with ⟨newest, same⟩ | ⟨_, _, old⟩
        · refine ⟨same ▸ UInt64.le_refl _,
            (state.table.packetListAdd state.sid state.now).1, List.mem_append_right _ ?_⟩
          rw [newest, same, ← identifier]
          exact List.mem_singleton.mpr rfl
        · exact emitted.timed number time old
      taken := by
        intro sample member
        have old := emitted.taken sample member
        refine ⟨Nat.lt_succ_of_lt old.1, ?_⟩
        cases found : (window.push packetListLength state.now).held sample.packetId.toNat with
        | none => rfl
        | some time =>
            rcases Window.push_held_eq_some found with ⟨newest, _⟩ | ⟨_, _, remains⟩
            · exact False.elim (Nat.ne_of_lt old.1 newest)
            · rw [old.2] at remains
              cases remains }
  unfold Latency.completeSend
  split
  · exact { pushed with }
  · exact { pushed with }

theorem Kept.sendPart {config : MeasureConfig} {state : MeasureState packetListLength}
    {trace : List MeasureEvent} {window : Window UInt64}
    (kept : Kept config state trace window) (outcomes : List SendOutcome) :
    Kept config (sendPart config state outcomes).2.1 trace window := by
  unfold Latency.sendPart beginSend
  split
  · exact { kept with }
  · exact { kept with }

/-- Sending a part of a packet emits bytes only; completing it pushes it. -/
theorem Kept.transmit {config : MeasureConfig} {state : MeasureState packetListLength}
    {trace : List MeasureEvent} {window : Window UInt64}
    (kept : Kept config state trace window) (running : state.now ≠ 0)
    (outcomes : List SendOutcome) :
    ∃ window', Kept config (transmit config state outcomes).2.1
      (trace ++ (transmit config state outcomes).2.2) window' := by
  unfold Latency.transmit
  split
  · rename_i predicted
    have frame := sendPart_frame config state outcomes
    have emitted : Kept config (Latency.sendPart config state outcomes).2.1
        (trace ++ [.sent (Latency.sendPart config state outcomes).2.2]) window :=
      (kept.sendPart outcomes).emit rfl
    dsimp only
    split
    · have completed := emitted.completeSend (frame.1 ▸ running) (frame.2 ▸ predicted)
      rw [List.append_assoc] at completed
      exact ⟨_, completed⟩
    · exact ⟨window, emitted⟩
  · exact ⟨window, by simpa using kept⟩

/-! ## Whole iterations -/

theorem Kept.receivePart {config : MeasureConfig} {state : MeasureState packetListLength}
    {trace : List MeasureEvent} {window : Window UInt64}
    (kept : Kept config state trace window) (outcomes : List RecvOutcome) :
    Kept config (receivePart config state outcomes).2.1 trace window := by
  unfold Latency.receivePart beginReceive
  split
  · exact { kept with }
  · exact { kept with }

/-- What is known of a state of the function and the trace so far. -/
def ProgressKept (config : MeasureConfig) (progress : Progress packetListLength)
    (trace : List MeasureEvent) : Prop :=
  match progress with
  | .looping state => ∃ window, Kept config state trace window
  | .returned state _ => (∃ window, Kept config state trace window) ∧ state.endTime ≠ 0
  | _ => ∀ sample ∈ samplesOf trace, sample.index < config.samples

/-- The body of the loop keeps the books, however it ends. -/
theorem loopBody_kept {config : MeasureConfig} {state : MeasureState packetListLength}
    {trace : List MeasureEvent} {window : Window UInt64}
    (kept : Kept config state trace window) (running : state.now ≠ 0) (input : IterationInput) :
    ProgressKept config (loopBody config state input).1
      (trace ++ (loopBody config state input).2) := by
  have cooled := kept.beginCooldown running
  have emitted : Kept config (receivePart config (beginCooldown config state) input.recvs).2.1
      (trace ++ [.received (receivePart config (beginCooldown config state) input.recvs).2.2])
      window := (cooled.1.receivePart input.recvs).emit rfl
  have frame := receivePart_frame config (beginCooldown config state) input.recvs
  have room : Room config (receivePart config (beginCooldown config state) input.recvs).2.1 := by
    unfold Room
    rw [frame.2.1, frame.2.2]
    exact cooled.2
  have now : (receivePart config (beginCooldown config state) input.recvs).2.1.now ≠ 0 := by
    rw [frame.1, beginCooldown_now]
    exact running
  unfold loopBody
  generalize receivePart config (beginCooldown config state) input.recvs = part at *
  rcases part with ⟨exit, next, taken⟩
  cases exit with
  | failed => exact emitted.index_lt
  | asserted => exact emitted.index_lt
  | waiting => exact emitted.index_lt
  | left =>
      dsimp only at *
      have delivered : ∃ window', Kept config
          (if next.torecv = 0 then deliver config next else (next, [])).1
          (trace ++ [.received taken] ++
            (if next.torecv = 0 then deliver config next else (next, [])).2) window' := by
        split
        · exact emitted.deliver room
        · exact ⟨window, by simpa using emitted⟩
      have same := (delivered_frame config next).1
      generalize (if next.torecv = 0 then deliver config next else (next, [])) = result at *
      rcases delivered with ⟨window', booked⟩
      rcases booked.transmit (same ▸ now) input.sends with ⟨window'', final⟩
      rw [List.append_assoc, List.append_assoc] at final
      generalize transmit config result.1 input.sends = sent at *
      rcases sent with ⟨exit, last, events⟩
      cases exit with
      | left => exact ⟨window'', final⟩
      | failed => exact final.index_lt
      | asserted => exact final.index_lt
      | waiting => exact final.index_lt

/-- The next clock reading is neither zero nor earlier than the last one. -/
def ClockReading (progress : Progress packetListLength) (input : IterationInput) : Prop :=
  input.now ≠ 0 ∧
    match progress with
    | .looping state => state.now ≤ input.now
    | _ => True

theorem finish_kept {config : MeasureConfig} {state : MeasureState packetListLength}
    {trace : List MeasureEvent} {window : Window UInt64}
    (kept : Kept config state trace window) (ended : state.endTime ≠ 0) :
    ProgressKept config (finish config state) trace := by
  unfold finish
  dsimp only
  split
  · exact kept.index_lt
  · exact ⟨⟨window, kept⟩, ended⟩

theorem iteration_kept (config : MeasureConfig) (progress : Progress packetListLength)
    (trace : List MeasureEvent) (input : IterationInput)
    (kept : ProgressKept config progress trace) (reading : ClockReading progress input) :
    ProgressKept config ((measureMachine config packetListLength).step progress input).1
      (trace ++ ((measureMachine config packetListLength).step progress input).2) := by
  cases progress with
  | looping state =>
      rcases kept with ⟨window, kept⟩
      have ticked := kept.tick reading.2
      change ProgressKept config (iteration config state input).1
        (trace ++ (iteration config state input).2)
      unfold iteration
      split
      · exact loopBody_kept ticked reading.1 input
      · rename_i stopped
        have ended : state.endTime ≠ 0 := fun zero => stopped ⟨reading.1, Or.inl zero⟩
        rw [List.append_nil]
        exact finish_kept ticked ended
  | waiting state => simpa [measureMachine] using kept
  | failed => simpa [measureMachine] using kept
  | aborted => simpa [measureMachine] using kept
  | returned state result => simpa [measureMachine] using kept

/-! ## Runs -/

theorem start_kept (config : MeasureConfig) (positive : 0 < packetListLength)
    (sbuf rbuf : Option (List UInt8)) :
    ProgressKept config
      (measureStart config (PacketList.zeroed packetListLength positive) sbuf rbuf) [] := by
  unfold measureStart
  split
  · refine ⟨Window.empty, PacketList.represents_zeroed packetListLength positive, rfl, rfl,
      ?_, ?_, rfl, rfl, List.nodup_nil, ?_, ?_, rfl, UInt64.zero_le, ?_, ?_⟩
    · intro number time held
      cases held
    · intro sample member
      cases member
    · exact eachEvent_nil _
    · exact List.length_replicate
    · intro stopped
      exact False.elim (stopped rfl)
    · intro ended
      exact False.elim (ended rfl)
  · intro sample member
    cases member

/-- A state that loops on has stored the reading it was given. -/
theorem loopBody_now (config : MeasureConfig) (state : MeasureState packetListLength)
    (input : IterationInput) {next : MeasureState packetListLength}
    (looping : (loopBody config state input).1 = .looping next) : next.now = state.now := by
  have frame := receivePart_frame config (beginCooldown config state) input.recvs
  rw [beginCooldown_now] at frame
  unfold loopBody at looping
  generalize receivePart config (beginCooldown config state) input.recvs = part at *
  rcases part with ⟨exit, ready, taken⟩
  cases exit with
  | failed => cases looping
  | asserted => cases looping
  | waiting => cases looping
  | left =>
      dsimp only at *
      have same := (delivered_frame config ready).1
      generalize (if ready.torecv = 0 then deliver config ready else (ready, [])) = result at *
      have sent := transmit_now config result.1 input.sends
      generalize transmit config result.1 input.sends = final at *
      rcases final with ⟨exit, last, events⟩
      cases exit with
      | left =>
          cases looping
          exact sent.trans (same.trans frame.1)
      | failed => cases looping
      | asserted => cases looping
      | waiting => cases looping

/-- An iteration that goes on has found the condition of the loop true. -/
theorem looping_of_iteration {config : MeasureConfig}
    {state later : MeasureState packetListLength} {input : IterationInput}
    (looping : (iteration config state input).1 = .looping later) :
    (input.now ≠ 0 ∧ (state.endTime = 0 ∨ input.now < state.endTime)) ∧
      iteration config state input = loopBody config { state with now := input.now } input := by
  unfold iteration at looping ⊢
  split at looping
  · next running => exact ⟨running, if_pos running⟩
  · unfold finish at looping
    dsimp only at looping
    split at looping
    · cases looping
    · cases looping

theorem step_now (config : MeasureConfig) (progress : Progress packetListLength)
    (input : IterationInput) {next : MeasureState packetListLength}
    (started : ∃ state, progress = .looping state)
    (looping : ((measureMachine config packetListLength).step progress input).1 =
      .looping next) : next.now = input.now := by
  rcases started with ⟨state, same⟩
  subst same
  change (iteration config state input).1 = .looping next at looping
  rw [(looping_of_iteration looping).2] at looping
  exact loopBody_now config _ input looping

/-- Nondecreasing readings are what each iteration asks for. -/
theorem along_of_clock (config : MeasureConfig) (progress : Progress packetListLength)
    (trace : List MeasureEvent) (inputs : List IterationInput)
    (running : ∀ input ∈ inputs, input.now ≠ 0) (last : UInt64)
    (current : ∀ state, progress = .looping state → state.now = last)
    (clock : (last :: inputs.map IterationInput.now).IsChain (· ≤ ·)) :
    (measureMachine config packetListLength).Along
      (fun progress _ input => ClockReading progress input) progress trace inputs := by
  induction inputs generalizing progress trace last with
  | nil => trivial
  | cons input rest inductionHypothesis =>
      rw [List.map_cons, List.isChain_cons_cons] at clock
      refine ⟨⟨running input List.mem_cons_self, ?_⟩, ?_⟩
      · cases progress with
        | looping state =>
            change state.now ≤ input.now
            rw [current state rfl]
            exact clock.1
        | waiting state => trivial
        | failed => trivial
        | aborted => trivial
        | returned state result => trivial
      · exact inductionHypothesis _ _
          (fun later member => running later (List.mem_cons_of_mem _ member)) input.now
          (fun state looping => by
            cases progress with
            | looping earlier => exact step_now config _ input ⟨earlier, rfl⟩ looping
            | waiting earlier => cases looping
            | failed => cases looping
            | aborted => cases looping
            | returned earlier result => cases looping) clock.2

theorem measureLatency_along (config : MeasureConfig) (positive : 0 < packetListLength)
    (sbuf rbuf : Option (List UInt8)) (inputs : List IterationInput)
    (running : ∀ input ∈ inputs, input.now ≠ 0)
    (clock : (config.startTime :: inputs.map IterationInput.now).IsChain (· ≤ ·)) :
    (measureMachine config packetListLength).Along
      (fun progress _ input => ClockReading progress input)
      (measureStart config (PacketList.zeroed packetListLength positive) sbuf rbuf) [] inputs := by
  apply along_of_clock config _ [] inputs running config.startTime _ clock
  intro state looping
  unfold measureStart at looping
  split at looping
  · cases looping
    rfl
  · cases looping

theorem measureLatency_kept {config : MeasureConfig} {positive : 0 < packetListLength}
    {sbuf rbuf : Option (List UInt8)} {inputs : List IterationInput}
    (along : (measureMachine config packetListLength).Along
      (fun progress _ input => ClockReading progress input)
      (measureStart config (PacketList.zeroed packetListLength positive) sbuf rbuf) [] inputs) :
    ProgressKept config (measureLatency config positive sbuf rbuf inputs).1
      (measureLatency config positive sbuf rbuf inputs).2 :=
  (measureMachine config packetListLength).run_invariant
    (fun progress trace input => iteration_kept config progress trace input)
    (start_kept config positive sbuf rbuf) along

/-- The run writes samples only at indices below `samples`.  When it returns
successfully it has written all of them once, in order, each the age of a
different packet completely sent before, and the sample array holds exactly
these. -/
theorem measureLatency_samples (config : MeasureConfig) (positive : 0 < packetListLength)
    (sbuf rbuf : Option (List UInt8)) (inputs : List IterationInput)
    (running : ∀ input ∈ inputs, input.now ≠ 0)
    (clock : (config.startTime :: inputs.map IterationInput.now).IsChain (· ≤ ·)) :
    let run := measureLatency config positive sbuf rbuf inputs
    (∀ sample ∈ samplesOf run.2, sample.index < config.samples) ∧
      ∀ state result, run.1 = .returned state result →
        (samplesOf run.2).map Sample.index =
            (List.range config.samples.toNat).map UInt64.ofNat ∧
          ((samplesOf run.2).map Sample.packetId).Nodup ∧
          EachEvent (SampledCorrectly config) run.2 ∧
          state.rttSample = (samplesOf run.2).map Sample.rtt := by
  intro run
  have kept : ProgressKept config run.1 run.2 :=
    measureLatency_kept (measureLatency_along config positive sbuf rbuf inputs running clock)
  generalize run = reached at kept ⊢
  rcases reached with ⟨progress, trace⟩
  constructor
  · cases progress with
    | looping state => exact kept.choose_spec.index_lt
    | waiting state => exact kept
    | failed => exact kept
    | aborted => exact kept
    | returned state result => exact kept.1.choose_spec.index_lt
  · intro state result returned
    cases returned
    rcases kept with ⟨⟨window, kept⟩, ended⟩
    have full : (samplesOf trace).length = config.samples.toNat := by
      have enough := UInt64.le_iff_toNat_le.mp (kept.cooling (kept.ending ended))
      have limit := UInt64.le_iff_toNat_le.mp kept.limit
      rw [← kept.received]
      exact Nat.le_antisymm limit enough
    refine ⟨full ▸ kept.indices, kept.distinct, kept.correct, ?_⟩
    have stored := kept.stored
    rw [full, ← kept.storedLength, List.take_length] at stored
    exact stored

/-- One sample of eight-byte packets at one packet a tick. -/
def oneSampleConfig : MeasureConfig where
  layer := ipLayer .little
  tickRate :=
    { usecToTick := fun usec => usec
      tickToUsec := fun ticks => ticks
      predictedSends := fun _ _ elapsed => elapsed }
  samples := 1
  bps := 64000000
  size := 8
  warmup := 0
  cooldown := 1
  startTime := 10

/-- Send packet zero, receive its echo, cool down, stop. -/
def oneSampleInputs : List IterationInput :=
  [{ now := 11, recvs := [.eagain], sends := [.sent 8] },
    { now := 12, recvs := [.received [0, 0, 0, 0, 0, 0, 0, 0]], sends := [.sent 8] },
    { now := 13, recvs := [.eagain], sends := [.eagain] },
    { now := 14, recvs := [], sends := [] }]

theorem measureLatency_samples_one :
    let run := measureLatency oneSampleConfig (show 0 < 4 by decide)
      (some (List.replicate 8 0)) (some (List.replicate 8 0)) oneSampleInputs
    ∃ state result, run.1 = .returned state result ∧ state.rttSample = [1] ∧
      (samplesOf run.2).map Sample.index = [0] := by
  intro run
  have stopped : ∃ state result, run.1 = .returned state result := ⟨_, _, rfl⟩
  rcases stopped with ⟨state, result, returned⟩
  have kept := (measureLatency_samples oneSampleConfig (show 0 < 4 by decide)
    (some (List.replicate 8 0)) (some (List.replicate 8 0)) oneSampleInputs (by decide)
    (by decide)).2 state result returned
  exact ⟨state, result, returned, kept.2.2.2.trans (by decide), kept.1⟩

end Latency
end Ipbench
