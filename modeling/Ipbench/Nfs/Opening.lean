import Ipbench.Nfs.PathLookup

namespace Ipbench
namespace Nfs

open Foundation

/-!
# Opening the file

`init_and_open` looks the path of the file up and then waits until `open_cb` has
set `initialised`.  The lookup reports nothing to it.  When a directory is not
found no request for the file has been sent, and the wait begins all the same,
with no reply to come.  `open_cb` also asserts that it is called once in the life
of the process.

The mount has succeeded before, and what follows the wait builds a cache.
-/

variable {Other : Type} {callbackListLength : Nat}

/-! ## The wait -/

/-- The static variables of the file: `initialised`, the `idem` of `open_cb`, and
`nfs_file_handle`. -/
structure GlueStatics where
  initialised : Int
  idem : Bool
  nfsFileHandle : List UInt8
deriving DecidableEq, Repr

/-- `open_cb`, with its assertion.  The handle is filled when the status is
`NFS_OK`. -/
def openCb (statics : GlueStatics) (status : Int) (fh : Option (List UInt8)) :
    Option GlueStatics :=
  if statics.idem then none
  else if status = 0 then
    some
      { initialised := 1
        idem := true
        nfsFileHandle := fh.getD statics.nfsFileHandle }
  else some { statics with initialised := -1, idem := true }

/-- What a call of `rpc_recv` makes of the static variables: only `open_cb`
changes them. -/
def recvStatics (order : ByteOrder) (client : Client (GlueCallback Other) callbackListLength)
    (statics : GlueStatics) (received : Received) : Option GlueStatics :=
  match (rpcTake client received).bind RecvResult.found with
  | some (_, .func .openCb) =>
      match nfsLookupCb order (receivedPbuf received.data) with
      | .error _ => none
      | .ok (status, found) => openCb statics status (found.map Prod.fst)
  | _ => some statics

/-- `init_and_open` between two receives: in `recursive_lookup`, in its own loop,
or behind it. -/
inductive Opening (Other : Type) (callbackListLength : Nat) where
  | lookingUp (transport : Transport (GlueCallback Other) callbackListLength) (ld : LookupDir)
      (statics : GlueStatics)
  | waiting (transport : Transport (GlueCallback Other) callbackListLength)
      (statics : GlueStatics)
  | returned (status : Int) (statics : GlueStatics)
  | ended

/-- When the lookup has returned, `initialised` is cleared and the wait begins. -/
def Opening.ofLookup (statics : GlueStatics) :
    Lookup Other callbackListLength → Opening Other callbackListLength
  | .waiting transport ld => lookingUp transport ld statics
  | .returned transport => waiting transport { statics with initialised := 0 }
  | .ended => ended

/-- One `rpc_recv` of `init_and_open`. -/
def openingStep (order : ByteOrder) (sent : Int) :
    Opening Other callbackListLength → Received →
      Opening Other callbackListLength × List (Sent (GlueCallback Other))
  | .lookingUp transport ld statics, received =>
      match recvStatics order transport.client statics received with
      | none => (.ended, [])
      | some statics =>
          let next := lookupStep order .openCb sent (.waiting transport ld) received
          (.ofLookup statics next.1, next.2)
  | .waiting transport statics, received =>
      match rpcTake transport.client received,
        recvStatics order transport.client statics received with
      | some result, some statics =>
          if statics.initialised = 0 then
            (.waiting { transport with client := result.client } statics, [])
          else if statics.initialised < 0 then (.returned (-1) statics, [])
          else (.returned 0 statics, [])
      | _, _ => (.ended, [])
  | state, _ => (state, [])

def openingMachine (Other : Type) (callbackListLength : Nat) (order : ByteOrder) (sent : Int) :
    Machine (Opening Other callbackListLength) Received (Sent (GlueCallback Other)) where
  step := openingStep order sent

/-- `init_and_open` once the directory of the mount is known. -/
def initAndOpen (order : ByteOrder) (sent : Int)
    (transport : Transport (GlueCallback Other) callbackListLength) (statics : GlueStatics)
    (pfh filename : List UInt8) (received : List Received) : Opening Other callbackListLength :=
  ((openingMachine Other callbackListLength order sent).run
    (.ofLookup statics (lookupStart order .openCb sent transport pfh filename).1) received).1

/-! ## What the server answers -/

/-- What becomes of the lookups of a path: one of them cannot be sent, one of the
directories is not answered, one is answered with an error, or the request for
the file is sent. -/
inductive LookupOutcome where
  | unsent
  | unanswered
  | failed
  | sent
deriving DecidableEq, Repr

/-- The outcome by the names of a path and what arrives. -/
def lookupOutcome : UInt32 → List (List UInt8) → List Arrival → LookupOutcome
  | _, [], _ => .unsent
  | xid, [name], _ => if Sendable xid name then .sent else .unsent
  | xid, name :: rest, arrivals =>
      if Sendable xid name then
        match answerTo xid arrivals with
        | none => .unanswered
        | some (reply, later) =>
            match reply.file? with
            | none => .failed
            | some _ => lookupOutcome (xid + 1) rest later
      else .unsent

/-- A request is pending whose function sets `initialised` to 1 or -1, whatever
the datagram that answers it. -/
def Outstanding (order : ByteOrder)
    (transport : Transport (GlueCallback Other) callbackListLength) (statics : GlueStatics) :
    Prop :=
  ∃ xid next, transport.client.callbacks.callbackDel xid = some (some (.func .openCb), next) ∧
    ∀ data : List UInt8, data ≠ [] → extractXid (receivedPbuf data).buf = xid →
      ∃ after, recvStatics order transport.client statics (.datagram data) = some after ∧
        (after.initialised = 1 ∨ after.initialised = -1)

/-- Opening never waits for nothing, and a directory that is not found is
reported. -/
structure WaitsForReply (order : ByteOrder) (sent : Int)
    (transport : Transport (GlueCallback Other) callbackListLength) (statics : GlueStatics)
    (pfh filename : List UInt8) (arrivals : List Arrival) : Prop where
  outstanding : ∀ before next glue, before <+: arrivals →
    initAndOpen order sent transport statics pfh filename (before.map Arrival.received) =
        .waiting next glue → Outstanding order next glue
  reported : lookupOutcome (transport.curXid + 1) (lookedUp filename) arrivals = .failed →
    ∃ glue, initAndOpen order sent transport statics pfh filename
      (arrivals.map Arrival.received) = .returned (-1) glue

/-! ## Who is called -/

section Called

variable {transport : Transport (GlueCallback Other) callbackListLength}
  {func : GlueCallback Other}

theorem Transport.Idle.uncalled (idle : transport.Idle func) (received : Received)
    (xid : UInt32) :
    (rpcTake transport.client received).bind RecvResult.found ≠ some (xid, .func func) := by
  intro called
  rcases Option.bind_eq_some_iff.mp called with ⟨result, got, found⟩
  cases received with
  | timedOut =>
      cases got
      cases found
  | eagain =>
      cases got
      cases found
  | error =>
      cases got
      cases found
  | datagram data =>
      have nonempty : data ≠ [] := by
        rintro rfl
        cases got
      by_cases positive : 0 < extractXid (receivedPbuf data).buf
      · rcases transport.client.callbacks.callbackDel_cases positive with
          kept | ⟨place, named, cleared⟩
        · rw [rpcTake_of_callbackDel nonempty rfl kept] at got
          cases got
          cases found
        · rw [rpcTake_of_callbackDel nonempty rfl cleared] at got
          cases got
          have registered := congrArg Prod.snd (Option.some.inj found)
          have zero := idle place registered
          rw [named] at zero
          exact UInt32.pos_iff_ne_zero.mp positive zero
      · rw [rpcTake_of_refused (if_neg positive)] at got
        cases got

theorem recvStatics_uncalled (order : ByteOrder) {client : Client (GlueCallback Other)
      callbackListLength} (statics : GlueStatics) {received : Received}
    (uncalled : ∀ xid, (rpcTake client received).bind RecvResult.found ≠
      some (xid, .func .openCb)) :
    recvStatics order client statics received = some statics := by
  unfold recvStatics
  split
  · next xid called => exact absurd called (uncalled xid)
  · rfl

/-- A datagram that calls `open_cb` sets `initialised`, if it is the first. -/
theorem recvStatics_called (order : ByteOrder) {client : Client (GlueCallback Other)
      callbackListLength} (statics : GlueStatics) {data : List UInt8} {xid : UInt32}
    (called : (rpcTake client (.datagram data)).bind RecvResult.found =
      some (xid, .func .openCb)) :
    recvStatics order client statics (.datagram data) =
      openCb statics (lookupStatus (receivedPbuf data).buf)
        (if lookupStatus (receivedPbuf data).buf = 0 then
          some (handleAt order (receivedPbuf data).buf) else none) := by
  unfold recvStatics
  rw [called]
  change (match nfsLookupCb order (receivedPbuf data) with
    | .error _ => none
    | .ok (status, found) => openCb statics status (found.map Prod.fst)) = _
  rw [nfsLookupCb_received]
  dsimp only
  by_cases zero : lookupStatus (receivedPbuf data).buf = 0
  · rw [if_pos zero, if_pos zero]
    rfl
  · rw [if_neg zero, if_neg zero]
    rfl

theorem openCb_first {statics : GlueStatics} (first : statics.idem = false) (status : Int)
    (fh : Option (List UInt8)) :
    ∃ after, openCb statics status fh = some after ∧
      (after.initialised = 1 ∨ after.initialised = -1) := by
  unfold openCb
  rw [first, if_neg Bool.false_ne_true]
  split
  · exact ⟨_, rfl, Or.inl rfl⟩
  · exact ⟨_, rfl, Or.inr rfl⟩

/-- The callback of a pending transaction is called by every datagram that
carries it. -/
theorem called_of_callbackDel {client : Client (GlueCallback Other) callbackListLength}
    {xid : UInt32} {c : RpcCallback (GlueCallback Other)}
    {next : CallbackList (RpcCallback (GlueCallback Other)) callbackListLength}
    (deleted : client.callbacks.callbackDel xid = some (some c, next)) {data : List UInt8}
    (nonempty : data ≠ []) (carried : extractXid (receivedPbuf data).buf = xid) :
    (rpcTake client (.datagram data)).bind RecvResult.found = some (xid, c) := by
  rw [rpcTake_of_callbackDel nonempty carried deleted]
  rfl

theorem Transport.Awaits.outstanding (awaits : transport.Awaits .openCb) (order : ByteOrder)
    {statics : GlueStatics} (first : statics.idem = false) :
    Outstanding order transport statics := by
  have deleted := CallbackList.callbackDel_head awaits.positive awaits.newest
  refine ⟨transport.curXid, _, deleted, ?_⟩
  intro data nonempty carried
  rw [recvStatics_called order statics (called_of_callbackDel deleted nonempty carried)]
  exact openCb_first first _ _

theorem Transport.Idle.not_outstanding (idle : transport.Idle .openCb) (order : ByteOrder)
    (statics : GlueStatics) : ¬ Outstanding order transport statics := by
  rintro ⟨xid, next, deleted, _⟩
  by_cases positive : 0 < xid
  · rcases transport.client.callbacks.callbackDel_cases positive with
      kept | ⟨place, named, cleared⟩
    · rw [kept] at deleted
      cases deleted
    · rw [cleared] at deleted
      have registered := congrArg Prod.fst (Option.some.inj deleted)
      have zero := idle place (Option.some.inj registered)
      rw [named] at zero
      exact UInt32.pos_iff_ne_zero.mp positive zero
  · have refused : transport.client.callbacks.callbackDel xid = none := if_neg positive
    rw [refused] at deleted
    cases deleted

/-- A second call of `open_cb` fails its assertion. -/
theorem not_outstanding_of_idem (order : ByteOrder) {statics : GlueStatics}
    (second : statics.idem = true) : ¬ Outstanding order transport statics := by
  rintro ⟨xid, next, deleted, sets⟩
  have length : (store32 .big xid).length = 4 := store32_length .big xid
  have nonempty : store32 .big xid ≠ [] := List.ne_nil_of_length_pos (by omega)
  have carried : extractXid (receivedPbuf (store32 .big xid)).buf = xid :=
    (received_holds (by rw [length]; decide)).wordAt
  rcases sets (store32 .big xid) nonempty carried with ⟨after, set, _⟩
  rw [recvStatics_called order statics (called_of_callbackDel deleted nonempty carried), openCb,
    if_pos second] at set
  cases set

end Called

/-! ## The course of an opening -/

section Course

variable (order : ByteOrder) (sent : Int)

/-- The state that arrivals lead to. -/
def Opening.after (start : Opening Other callbackListLength) (arrivals : List Arrival) :
    Opening Other callbackListLength :=
  ((openingMachine Other callbackListLength order sent).run start
    (arrivals.map Arrival.received)).1

/-- How the outcome of the lookups decides about the wait: it begins in vain when
they have failed, and with `open_cb` pending when the request for the file has
been sent. -/
structure Course (idem : Bool) (start : Opening Other callbackListLength)
    (arrivals : List Arrival) (outcome : LookupOutcome) : Prop where
  waits : ∀ before next glue, before <+: arrivals →
    start.after order sent before = .waiting next glue →
      outcome = .failed ∨ outcome = .sent ∧ next.Awaits .openCb ∧ glue.idem = idem
  failed : outcome = .failed → ∃ before next glue, before <+: arrivals ∧
    start.after order sent before = .waiting next glue ∧ next.Idle .openCb
  sent : outcome = .sent → ∃ before next glue, before <+: arrivals ∧
    start.after order sent before = .waiting next glue ∧ next.Awaits .openCb ∧ glue.idem = idem

variable {order sent}
variable {transport : Transport (GlueCallback Other) callbackListLength} {ld : LookupDir}
  {statics : GlueStatics}

theorem Opening.after_cons {start next : Opening Other callbackListLength} {arrival : Arrival}
    {events : List (Sent (GlueCallback Other))}
    (stepped : openingStep order sent start arrival.received = (next, events))
    (later : List Arrival) :
    start.after order sent (arrival :: later) = next.after order sent later := by
  unfold Opening.after
  rw [List.map_cons, Machine.run_cons_of_step stepped]

theorem after_ended (arrivals : List Arrival) :
    (Opening.ended : Opening Other callbackListLength).after order sent arrivals = .ended :=
  congrArg Prod.fst (Machine.run_of_still (fun _ => rfl) _)

theorem after_returned (status : Int) (statics : GlueStatics) (arrivals : List Arrival) :
    (Opening.returned status statics : Opening Other callbackListLength).after order sent
      arrivals = .returned status statics :=
  congrArg Prod.fst (Machine.run_of_still (fun _ => rfl) _)

theorem course_ended (arrivals : List Arrival) :
    Course order sent statics.idem (.ended : Opening Other callbackListLength) arrivals
      .unsent where
  waits := by
    intro before next glue _ reached
    rw [after_ended] at reached
    cases reached
  failed := by
    intro impossible
    cases impossible
  sent := by
    intro impossible
    cases impossible

theorem course_nil :
    Course order sent statics.idem (.lookingUp transport ld statics) [] .unanswered where
  waits := by
    intro before next glue none_ reached
    rw [List.prefix_nil.mp none_] at reached
    cases reached
  failed := by
    intro impossible
    cases impossible
  sent := by
    intro impossible
    cases impossible

theorem Course.cons {idem : Bool} {next : Opening Other callbackListLength} {arrival : Arrival}
    {events : List (Sent (GlueCallback Other))} {later : List Arrival} {outcome : LookupOutcome}
    (stepped : openingStep order sent (.lookingUp transport ld statics) arrival.received =
      (next, events))
    (course : Course order sent idem next later outcome) :
    Course order sent idem (.lookingUp transport ld statics) (arrival :: later) outcome where
  waits := by
    intro before final glue first reached
    cases before with
    | nil => cases reached
    | cons other before =>
        rcases List.cons_prefix_cons.mp first with ⟨rfl, rest⟩
        rw [Opening.after_cons stepped] at reached
        exact course.waits before final glue rest reached
  failed := by
    intro same
    rcases course.failed same with ⟨before, final, glue, rest, reached, idle⟩
    exact ⟨arrival :: before, final, glue, List.cons_prefix_cons.mpr ⟨rfl, rest⟩,
      (Opening.after_cons stepped before).trans reached, idle⟩
  sent := by
    intro same
    rcases course.sent same with ⟨before, final, glue, rest, reached, awaits⟩
    exact ⟨arrival :: before, final, glue, List.cons_prefix_cons.mpr ⟨rfl, rest⟩,
      (Opening.after_cons stepped before).trans reached, awaits⟩

/-- A wait that begins when no reply calls `open_cb`. -/
theorem course_failed (idle : transport.Idle .openCb) (statics : GlueStatics)
    (arrivals : List Arrival) :
    Course order sent statics.idem (.waiting transport statics) arrivals .failed where
  waits := fun _ _ _ _ _ => Or.inl rfl
  failed := fun _ => ⟨[], transport, statics, List.nil_prefix, rfl, idle⟩
  sent := by
    intro impossible
    cases impossible

theorem openCb_initialised {after : GlueStatics} {status : Int} {fh : Option (List UInt8)}
    (set : openCb statics status fh = some after) : after.initialised ≠ 0 := by
  unfold openCb at set
  split at set
  · cases set
  · split at set
    · cases set
      exact Int.one_ne_zero
    · cases set
      exact Int.neg_ne_zero.mpr Int.one_ne_zero

theorem openingStep_called (sent : Int) {received : Received} {status : Int}
    {fh : Option (List UInt8)} {result : RecvResult (GlueCallback Other) callbackListLength}
    (got : rpcTake transport.client received = some result)
    (set : recvStatics order transport.client statics received = openCb statics status fh) :
    openingStep order sent (.waiting transport statics) received = (.ended, []) ∨
      ∃ status glue, openingStep order sent (.waiting transport statics) received =
        (.returned status glue, []) := by
  unfold openingStep
  dsimp only
  rw [got, set]
  cases opened : openCb statics status fh with
  | none => exact Or.inl rfl
  | some after =>
      right
      dsimp only
      rw [if_neg (openCb_initialised opened)]
      split
      · exact ⟨_, _, rfl⟩
      · exact ⟨_, _, rfl⟩

/-- During the wait `open_cb` stays pending until it is called, and then the wait
is over. -/
theorem after_waiting (awaits : transport.Awaits .openCb) (waits : statics.initialised = 0)
    (arrivals : List Arrival)
    {next : Transport (GlueCallback Other) callbackListLength} {glue : GlueStatics}
    (reached : (Opening.waiting transport statics).after order sent arrivals =
      .waiting next glue) :
    next.Awaits .openCb ∧ glue = statics := by
  induction arrivals generalizing transport with
  | nil =>
      cases reached
      exact ⟨awaits, rfl⟩
  | cons arrival later inductionHypothesis =>
      by_cases own : ∃ reply, arrival = .reply reply ∧ reply.message.xid = transport.curXid
      · rcases own with ⟨reply, rfl, own⟩
        have received : rpcTake transport.client (Arrival.reply reply).received = _ :=
          (awaits.receive_reply own).1
        have called : (rpcTake transport.client (Arrival.reply reply).received).bind
            RecvResult.found = some (transport.curXid, .func .openCb) := by
          rw [received]
          rfl
        have set := recvStatics_called order statics called
        rcases openingStep_called sent received set with ended | ⟨status, final, returned⟩
        · rw [Opening.after_cons ended, after_ended] at reached
          cases reached
        · rw [Opening.after_cons returned, after_returned] at reached
          cases reached
      · push Not at own
        rcases awaits.receive_other own with ⟨result, received, uncalled, still, _⟩
        have unchanged : recvStatics order transport.client statics arrival.received =
            some statics := by
          apply recvStatics_uncalled
          intro xid called
          rw [received] at called
          exact uncalled xid called
        have stepped : openingStep order sent (.waiting transport statics) arrival.received =
            (.waiting { transport with client := result.client } statics, []) := by
          unfold openingStep
          dsimp only
          rw [received, unchanged]
          dsimp only
          rw [if_pos waits]
        rw [Opening.after_cons stepped] at reached
        exact inductionHypothesis still reached

theorem course_sent (awaits : transport.Awaits .openCb) (statics : GlueStatics)
    (waits : statics.initialised = 0) (arrivals : List Arrival) :
    Course order sent statics.idem (.waiting transport statics) arrivals .sent where
  waits := by
    intro before next glue _ reached
    rcases after_waiting awaits waits before reached with ⟨still, rfl⟩
    exact Or.inr ⟨rfl, still, rfl⟩
  failed := by
    intro impossible
    cases impossible
  sent := fun _ => ⟨[], transport, statics, List.nil_prefix, rfl, awaits, rfl⟩

/-- The outcome once a directory has been asked for. -/
def afterOutcome (xid : UInt32) (rest : List (List UInt8)) (arrivals : List Arrival) :
    LookupOutcome :=
  match answerTo xid arrivals with
  | none => .unanswered
  | some (reply, later) =>
      match reply.file? with
      | none => .failed
      | some _ => lookupOutcome (xid + 1) rest later

theorem Turned.course {file tail : List UInt8}
    {turn : Lookup Other callbackListLength × List (Sent (GlueCallback Other))}
    (turned : Turned order .openCb transport file tail turn) (idle : transport.Idle .openCb)
    (arrivals : List Arrival)
    (later : ∀ (next : Transport (GlueCallback Other) callbackListLength) (ld : LookupDir),
      next.Awaits .dirCb → next.Idle .openCb →
      Course order sent statics.idem (.lookingUp next ld statics) arrivals
        (afterOutcome next.curXid (lookedUp ld.tail) arrivals)) :
    Course order sent statics.idem (.ofLookup statics turn.1) arrivals
      (lookupOutcome (transport.curXid + 1) (lookedUp tail) arrivals) := by
  cases turned with
  | unsent name rest first refused =>
      have outcome : lookupOutcome (transport.curXid + 1) (name :: rest) arrivals = .unsent := by
        cases rest with
        | nil => exact if_neg refused
        | cons second rest => exact if_neg refused
      rw [first, outcome]
      exact course_ended arrivals
  | last name next sendable only awaits =>
      have outcome : lookupOutcome (transport.curXid + 1) [name] arrivals = .sent :=
        if_pos sendable
      rw [only, outcome]
      exact course_sent (awaits idle) { statics with initialised := 0 } rfl arrivals
  | directory name ld next sendable newer first awaits others =>
      have outcome : lookupOutcome (transport.curXid + 1) (name :: lookedUp ld.tail) arrivals =
          afterOutcome next.curXid (lookedUp ld.tail) arrivals := by
        rw [newer]
        have more := lookedUp_ne_nil ld.tail
        revert more
        generalize lookedUp ld.tail = names
        intro more
        cases names with
        | nil => exact absurd rfl more
        | cons second rest => exact if_pos sendable
      rw [first, outcome]
      exact later next ld awaits (others .openCb (fun same => by cases same) idle)

/-- While nothing calls `open_cb`, a receive is one of the lookup. -/
theorem openingStep_lookingUp (order : ByteOrder) (sent : Int) (idle : transport.Idle .openCb)
    (ld : LookupDir) (statics : GlueStatics) (received : Received) :
    openingStep order sent (.lookingUp transport ld statics) received =
      (.ofLookup statics (lookupStep order .openCb sent (.waiting transport ld) received).1,
        (lookupStep order .openCb sent (.waiting transport ld) received).2) := by
  have unchanged := recvStatics_uncalled order statics (idle.uncalled received)
  unfold openingStep
  dsimp only
  rw [unchanged]

/-- From a request for a directory on, the arrivals decide about the wait.  The
induction is on the arrivals. -/
theorem course_lookingUp (arrivals : List Arrival)
    {transport : Transport (GlueCallback Other) callbackListLength} {ld : LookupDir}
    (awaits : transport.Awaits .dirCb) (idle : transport.Idle .openCb) :
    Course order sent statics.idem (.lookingUp transport ld statics) arrivals
      (afterOutcome transport.curXid (lookedUp ld.tail) arrivals) := by
  induction arrivals generalizing transport ld with
  | nil => exact course_nil
  | cons arrival later inductionHypothesis =>
      have received := openingStep_lookingUp order sent idle ld statics arrival.received
      by_cases own : ∃ reply, arrival = .reply reply ∧ reply.message.xid = transport.curXid
      · rcases own with ⟨reply, rfl, own⟩
        have stepped := lookupStep_reply order .openCb sent awaits ld own
        rcases awaits.receive_reply own with ⟨_, counted, directoryIdle, others⟩
        rw [stepped] at received
        rw [afterOutcome, answerTo, if_pos own]
        dsimp only
        cases named : reply.file? with
        | none =>
            rw [named] at received
            exact Course.cons received
              (course_failed (others .openCb idle) { statics with initialised := 0 } later)
        | some file =>
            rw [named] at received
            have turned := lookupTurn_turned order .openCb sent counted directoryIdle
              (LookupReply.file?_length named) { ld with cwd := bswap order file, ok := 1 } rfl
            exact Course.cons received (turned.course (others .openCb idle) later
              fun next ld => inductionHypothesis)
      · push Not at own
        rcases lookupStep_other order .openCb sent awaits ld own with
          ⟨next, stepped, still, same, others⟩
        rw [stepped] at received
        have skipped : afterOutcome transport.curXid (lookedUp ld.tail) (arrival :: later) =
            afterOutcome next.curXid (lookedUp ld.tail) later := by
          rw [afterOutcome, answerTo_other own, same, afterOutcome]
        rw [skipped]
        exact Course.cons received (inductionHypothesis still (others .openCb idle))

end Course

/-! ## Waiting for nothing -/

theorem course_initAndOpen (order : ByteOrder) (sent : Int)
    (transport : Transport (GlueCallback Other) callbackListLength) (statics : GlueStatics)
    (pfh filename : List UInt8) (arrivals : List Arrival)
    (counted : transport.Counted) (directoryIdle : transport.Idle .dirCb)
    (openIdle : transport.Idle .openCb) (whole : pfh.length = fhsize) :
    Course order sent statics.idem
      (.ofLookup statics (lookupStart order .openCb sent transport pfh filename).1) arrivals
      (lookupOutcome (transport.curXid + 1) (lookedUp filename) arrivals) := by
  have handle : (bswap order pfh).length = fhsize := by rw [bswap_length, whole]
  have turned := lookupTurn_turned order .openCb sent counted directoryIdle handle
    { tail := filename, cwd := pfh, ok := 0 } (bswap_bswap order pfh).symm
  exact turned.course openIdle arrivals fun next ld => course_lookingUp arrivals

/-- Opening never waits for nothing exactly if no directory is answered with an
error and `open_cb`, when it is asked for, has not been called before. -/
theorem waitsForReply_iff (order : ByteOrder) (sent : Int)
    (transport : Transport (GlueCallback Other) callbackListLength) (statics : GlueStatics)
    (pfh filename : List UInt8) (arrivals : List Arrival) (counted : transport.Counted)
    (directoryIdle : transport.Idle .dirCb) (openIdle : transport.Idle .openCb)
    (whole : pfh.length = fhsize) :
    WaitsForReply order sent transport statics pfh filename arrivals ↔
      lookupOutcome (transport.curXid + 1) (lookedUp filename) arrivals ≠ .failed ∧
        (lookupOutcome (transport.curXid + 1) (lookedUp filename) arrivals = .sent →
          statics.idem = false) := by
  have course := course_initAndOpen order sent transport statics pfh filename arrivals counted
    directoryIdle openIdle whole
  constructor
  · intro waits
    constructor
    · intro failed
      rcases course.failed failed with ⟨before, next, glue, first, reached, idle⟩
      exact idle.not_outstanding order glue (waits.outstanding before next glue first reached)
    · intro asked
      rcases course.sent asked with ⟨before, next, glue, first, reached, _, same⟩
      rw [← same]
      exact Bool.eq_false_of_not_eq_true fun second =>
        not_outstanding_of_idem order second (waits.outstanding before next glue first reached)
  · rintro ⟨found, once⟩
    constructor
    · intro before next glue first reached
      rcases course.waits before next glue first reached with failed | ⟨asked, awaits, same⟩
      · exact absurd failed found
      · exact awaits.outstanding order (same.trans (once asked))
    · exact fun failed => absurd failed found

/-- The static variables at the start of the process. -/
def freshStatics : GlueStatics where
  initialised := 0
  idem := false
  nfsFileHandle := List.replicate fhsize 0

theorem waitsForReply_iff_one :
    WaitsForReply .little 0 freshTransport freshStatics (List.replicate fhsize 7) [100, 47, 102]
        [.reply (directoryReply 101 (by decide))] ↔
      lookupOutcome 101 (lookedUp [100, 47, 102]) [.reply (directoryReply 101 (by decide))] ≠
          .failed ∧
        (lookupOutcome 101 (lookedUp [100, 47, 102])
          [.reply (directoryReply 101 (by decide))] = .sent → freshStatics.idem = false) :=
  waitsForReply_iff .little 0 freshTransport freshStatics (List.replicate fhsize 7)
    [100, 47, 102] [.reply (directoryReply 101 (by decide))]
    (by unfold Transport.Counted; decide) (fun _ _ => rfl) (fun _ _ => rfl) rfl

/-- The reply that says that a directory does not exist. -/
def missingReply : LookupReply where
  message :=
    { xid := 101
      body := .accepted { flavour := authNull, body := [] }
        (.success (Diropres.error 2 (by decide)).encoding) }
  answer := some (.error 2 (by decide))
  carried := rfl
  unambiguous := Or.inl rfl
  fits := by decide
  positive := by decide

/-- When the only directory of a path does not exist, the opening waits and no
request is pending. -/
theorem missingDirectory_waits :
    lookupOutcome 101 (lookedUp [100, 47, 102]) [.reply missingReply] = .failed ∧
      (∃ before next glue, before <+: [Arrival.reply missingReply] ∧
        initAndOpen .little 0 freshTransport freshStatics (List.replicate fhsize 7)
            [100, 47, 102] (before.map Arrival.received) = .waiting next glue ∧
        ¬ Outstanding .little next glue) ∧
      ¬ WaitsForReply .little 0 freshTransport freshStatics (List.replicate fhsize 7)
        [100, 47, 102] [.reply missingReply] := by
  have failed : lookupOutcome 101 (lookedUp [100, 47, 102]) [.reply missingReply] = .failed := by
    decide
  have course := course_initAndOpen .little 0 freshTransport freshStatics
    (List.replicate fhsize 7) [100, 47, 102] [.reply missingReply]
    (by unfold Transport.Counted; decide) (fun _ _ => rfl) (fun _ _ => rfl) rfl
  rcases course.failed failed with ⟨before, next, glue, first, reached, idle⟩
  refine ⟨failed, ⟨before, next, glue, first, reached, idle.not_outstanding .little glue⟩, ?_⟩
  intro waits
  exact idle.not_outstanding .little glue (waits.outstanding before next glue first reached)

end Nfs
end Ipbench
