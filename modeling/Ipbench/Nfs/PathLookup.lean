import Ipbench.Foundation.CText
import Ipbench.Nfs.ReplyHeader

namespace Ipbench
namespace Nfs

open Foundation

/-!
# Looking up a path

`recursive_lookup` cuts a path at its slashes and looks the components up one
after the other, each in the directory that the one before it has named.  After
each request for a directory it receives until `dir_cb` has been called; the
request for the last component carries the callback of the caller, and nobody
waits for it here.

The inputs of the machine are what `rpc_recv` finds.  A reply may be late, come
twice, or belong to another request; only the first one that carries the
transaction of the pending request calls `dir_cb`.
-/

/-! ## The loop -/

/-- The functions that wait for a lookup: `dir_cb`, `open_cb`, and those of other
requests. -/
inductive GlueCallback (Other : Type) where
  | dirCb
  | openCb
  | other (func : Other)
deriving DecidableEq, Repr

/-- `struct lookup_dir`, less the name for its message. -/
structure LookupDir where
  tail : List UInt8
  cwd : List UInt8
  ok : Int
deriving DecidableEq, Repr

variable {Other : Type} {callbackListLength : Nat}

/-- `recursive_lookup` between two receives.  It has ended with its process when
an assertion has failed. -/
inductive Lookup (Other : Type) (callbackListLength : Nat) where
  | waiting (transport : Transport (GlueCallback Other) callbackListLength) (ld : LookupDir)
  | returned (transport : Transport (GlueCallback Other) callbackListLength)
  | ended

def slash : UInt8 := 47

/-- A turn of the outer loop up to its wait.  What stands behind the next slash
is looked at later, and without one the loop ends. -/
def lookupTurn (order : ByteOrder) (func : GlueCallback Other) (sent : Int)
    (transport : Transport (GlueCallback Other) callbackListLength) (ld : LookupDir) :
    Lookup Other callbackListLength × List (Sent (GlueCallback Other)) :=
  match splitAtByte slash (ld.tail.dropWhile fun byte => byte == slash) with
  | (linkname, some tail) =>
      match nfsLookup order transport ld.cwd linkname .dirCb sent with
      | .error _ => (.ended, [])
      | .ok (_, transport, request) =>
          (.waiting transport { ld with tail := tail, ok := 0 }, [request])
  | (linkname, none) =>
      match nfsLookup order transport ld.cwd linkname func sent with
      | .error _ => (.ended, [])
      | .ok (_, transport, request) => (.returned transport, [request])

/-- `dir_cb`.  The handle is filled when the status is `NFS_OK`. -/
def dirCb (ld : LookupDir) (status : Int) (fh : Option (List UInt8)) : LookupDir :=
  if status = 0 then { ld with cwd := fh.getD ld.cwd, ok := 1 }
  else { ld with ok := -1 }

/-- One `rpc_recv` of the inner loop, and what follows when `dir_cb` has set
`ok`. -/
def lookupStep (order : ByteOrder) (func : GlueCallback Other) (sent : Int) :
    Lookup Other callbackListLength → Received →
      Lookup Other callbackListLength × List (Sent (GlueCallback Other))
  | .waiting transport ld, received =>
      match rpcTake transport.client received with
      | none => (.ended, [])
      | some result =>
          let transport := { transport with client := result.client }
          match result.found with
          | some (_, .func .dirCb) =>
              match nfsLookupCb order (receivedPbuf received.data) with
              | .error _ => (.ended, [])
              | .ok (status, found) =>
                  let ld := dirCb ld status (found.map Prod.fst)
                  if ld.ok = 0 then (.waiting transport ld, [])
                  else if 0 ≤ ld.ok then lookupTurn order func sent transport ld
                  else (.returned transport, [])
          | _ => (.waiting transport ld, [])
  | state, _ => (state, [])

def lookupMachine (Other : Type) (callbackListLength : Nat) (order : ByteOrder)
    (func : GlueCallback Other) (sent : Int) :
    Machine (Lookup Other callbackListLength) Received (Sent (GlueCallback Other)) where
  step := lookupStep order func sent

/-- `recursive_lookup` up to its first wait. -/
def lookupStart (order : ByteOrder) (func : GlueCallback Other) (sent : Int)
    (transport : Transport (GlueCallback Other) callbackListLength) (cwd name : List UInt8) :
    Lookup Other callbackListLength × List (Sent (GlueCallback Other)) :=
  lookupTurn order func sent transport { tail := name, cwd := cwd, ok := 0 }

/-- `recursive_lookup`: the state that it has reached, and the requests that it
has sent. -/
def recursiveLookup (order : ByteOrder) (func : GlueCallback Other) (sent : Int)
    (transport : Transport (GlueCallback Other) callbackListLength) (cwd name : List UInt8)
    (received : List Received) :
    Lookup Other callbackListLength × List (Sent (GlueCallback Other)) :=
  let start := lookupStart order func sent transport cwd name
  let final := (lookupMachine Other callbackListLength order func sent).run start.1 received
  (final.1, start.2 ++ final.2)

/-! ## The components of a path -/

/-- The nonempty pieces of a path between its slashes. -/
def components (name : List UInt8) : List (List UInt8) :=
  (name.splitOn slash).filter fun piece => piece ≠ []

theorem components_slash (rest : List UInt8) : components (slash :: rest) = components rest := by
  have pieces : (slash :: rest).splitOn slash = [] :: rest.splitOn slash :=
    List.splitOn_append_cons_self_of_not_mem List.not_mem_nil rest
  unfold components
  rw [pieces]
  exact List.filter_cons_of_neg (by simp)

theorem components_append {piece : List UInt8} (nonempty : piece ≠ []) (absent : slash ∉ piece)
    (rest : List UInt8) : components (piece ++ slash :: rest) = piece :: components rest := by
  unfold components
  rw [List.splitOn_append_cons_self_of_not_mem absent]
  exact List.filter_cons_of_pos (by simp [nonempty])

theorem components_single {piece : List UInt8} (nonempty : piece ≠ []) (absent : slash ∉ piece) :
    components piece = [piece] := by
  unfold components
  rw [List.splitOn_eq_singleton absent]
  exact List.filter_cons_of_pos (by simp [nonempty])

/-- The empty name that stands behind a final slash. -/
def finalName (name : List UInt8) : List (List UInt8) :=
  if name.getLast?.all fun byte => byte == slash then [[]] else []

def lookedUp (name : List UInt8) : List (List UInt8) :=
  components name ++ finalName name

theorem finalName_append (before rest : List UInt8) :
    finalName (before ++ slash :: rest) = finalName rest := by
  have last : (before ++ slash :: rest).getLast? = some (rest.getLast?.getD slash) := by
    rw [List.getLast?_append, List.getLast?_cons, Option.some_or]
  unfold finalName
  rw [last]
  cases rest.getLast? with
  | none => rfl
  | some byte => rfl

theorem lookedUp_eq_components {name : List UInt8} (some_ : components name ≠ [])
    (final : name.getLast? ≠ some slash) : lookedUp name = components name := by
  have none_ : finalName name = [] := by
    unfold finalName
    cases last : name.getLast? with
    | none =>
        rw [List.getLast?_eq_none_iff.mp last] at some_
        exact absurd rfl some_
    | some byte =>
        have other : byte ≠ slash := fun same => final (by rw [last, same])
        exact if_neg (by simp [other])
  rw [lookedUp, none_, List.append_nil]

theorem lookedUp_dropWhile (name : List UInt8) :
    lookedUp (name.dropWhile fun byte => byte == slash) = lookedUp name := by
  induction name with
  | nil => rfl
  | cons byte rest inductionHypothesis =>
      by_cases same : byte = slash
      · rw [List.dropWhile_cons_of_pos (by simp [same]), inductionHypothesis, same, lookedUp,
          lookedUp, components_slash]
        exact congrArg _ (finalName_append [] rest).symm
      · rw [List.dropWhile_cons_of_neg (by simp [same])]

/-- What a turn of the loop makes of the rest of a path. -/
inductive Cut (tail : List UInt8) : List UInt8 × Option (List UInt8) → Prop where
  | directory (linkname rest : List UInt8) (first : lookedUp tail = linkname :: lookedUp rest) :
      Cut tail (linkname, some rest)
  | last (linkname : List UInt8) (only : lookedUp tail = [linkname]) : Cut tail (linkname, none)

theorem cut_splitAtByte (tail : List UInt8) :
    Cut tail (splitAtByte slash (tail.dropWhile fun byte => byte == slash)) := by
  have same := lookedUp_dropWhile tail
  have starts := List.head?_dropWhile_not (fun byte => byte == slash) tail
  revert same starts
  generalize (tail.dropWhile fun byte => byte == slash) = text
  intro same starts
  have split := text.takeWhile_append_dropWhile (p := fun byte => byte != slash)
  have absent : slash ∉ text.takeWhile fun byte => byte != slash := by
    intro member
    have kept := List.mem_takeWhile_imp member
    simp at kept
  unfold splitAtByte
  cases text with
  | nil => exact Cut.last _ same.symm
  | cons first text =>
      have other : first ≠ slash := by simpa using starts
      have nonempty : ((first :: text).takeWhile fun byte => byte != slash) ≠ [] := by
        rw [List.takeWhile_cons_of_pos (by simp [other])]
        exact List.cons_ne_nil _ _
      cases behind : (first :: text).dropWhile fun byte => byte != slash with
      | nil =>
          rw [behind, List.append_nil] at split
          rw [split] at nonempty absent ⊢
          have only := components_single nonempty absent
          have final : (first :: text).getLast? ≠ some slash := fun last =>
            absent (List.mem_of_getLast? last)
          refine Cut.last _ ?_
          rw [← same, lookedUp_eq_components (by rw [only]; exact List.cons_ne_nil _ _) final, only]
      | cons separator rest =>
          have stopped : separator = slash := by
            have found := List.head_dropWhile_not (fun byte => byte != slash)
              (l := first :: text) (by rw [behind]; exact List.cons_ne_nil _ _)
            simpa [behind] using found
          rw [behind, stopped] at split
          refine Cut.directory _ _ ?_
          rw [← same]
          nth_rewrite 1 [← split]
          rw [lookedUp, components_append nonempty absent, finalName_append]
          rfl

theorem lookedUp_ne_nil (name : List UInt8) : lookedUp name ≠ [] := by
  have cut := cut_splitAtByte name
  generalize splitAtByte slash (name.dropWhile fun byte => byte == slash) = pieces at cut
  cases cut with
  | directory linkname rest first =>
      rw [first]
      exact List.cons_ne_nil _ _
  | last linkname only =>
      rw [only]
      exact List.cons_ne_nil _ _

/-! ## Replies to lookups -/

/-- A reply of the server to a lookup, whose headers can be told apart.  It
carries the transaction of a request, which is never zero. -/
structure LookupReply where
  message : Reply
  answer : Option Diropres
  carried : message.body.results = answer.map Diropres.encoding
  unambiguous : message.body.Unambiguous
  fits : message.encoding.length ≤ pbufSize
  positive : 0 < message.xid

/-- The handle of a reply whose status is `NFS_OK`. -/
def LookupReply.file? (reply : LookupReply) : Option (List UInt8) :=
  match reply.answer with
  | some (.ok file _ _) => some file
  | _ => none

/-- What arrives while a request is pending. -/
inductive Arrival where
  | timedOut
  | eagain
  | error
  | reply (reply : LookupReply)

/-- What `rpc_recv` finds. -/
def Arrival.received : Arrival → Received
  | timedOut => .timedOut
  | eagain => .eagain
  | error => .error
  | reply answer => .datagram answer.message.encoding

/-- The first reply to a transaction, and what arrives after it. -/
def answerTo (xid : UInt32) : List Arrival → Option (LookupReply × List Arrival)
  | [] => none
  | .reply reply :: later =>
      if reply.message.xid = xid then some (reply, later) else answerTo xid later
  | _ :: later => answerTo xid later

/-- The requests that look the components up, from a transaction on, beginning
in the directory of a handle: each goes into the directory that the reply to the
one before it names, and only the last is for the caller. -/
def lookups (order : ByteOrder) (func : GlueCallback Other) :
    UInt32 → List UInt8 → List (List UInt8) → List Arrival → List (Sent (GlueCallback Other))
  | _, _, [], _ => []
  | xid, file, [name], _ => [{ bytes := lookupRequest order xid file name, func := func }]
  | xid, file, name :: rest, arrivals =>
      { bytes := lookupRequest order xid file name, func := .dirCb } ::
        match answerTo xid arrivals with
        | none => []
        | some (reply, later) =>
            match reply.file? with
            | none => []
            | some next => lookups order func (xid + 1) next rest later

namespace LookupReply

theorem file?_length {reply : LookupReply} {file : List UInt8} (named : reply.file? = some file) :
    file.length = fhsize := by
  unfold file? at named
  split at named
  · next whole _ =>
      cases named
      exact whole
  · cases named

theorem decoded (order : ByteOrder) (reply : LookupReply) :
    ∃ status found, nfsLookupCb order (receivedPbuf reply.message.encoding) = .ok (status, found) ∧
      (status = 0 ↔ reply.file?.isSome) ∧
      found.map Prod.fst = reply.file?.map (bswap order) := by
  have header := HeaderDecoded.of_unambiguous order reply.fits reply.unambiguous
  have carried := reply.carried
  unfold file?
  cases answer : reply.answer with
  | none =>
      rw [answer] at carried
      have failed : ¬ reply.message.Succeeded := by
        rw [Reply.Succeeded, carried]
        exact Bool.false_ne_true
      exact ⟨_, _, header.failed failed, by decide, rfl⟩
  | some result =>
      rw [answer] at carried
      refine ⟨_, _, header.found result carried, ?_⟩
      cases result with
      | ok file attributes whole => exact ⟨iff_of_true rfl rfl, rfl⟩
      | error status default =>
          exact ⟨iff_of_false (mt asInt32_eq_nfsOk.mp default) Bool.false_ne_true, rfl⟩

theorem extractXid_encoding (reply : LookupReply) :
    extractXid (receivedPbuf reply.message.encoding).buf = reply.message.xid := by
  have whole := received_holds reply.fits
  rw [Reply.encoding, Reply.header, List.append_assoc] at whole
  exact whole.left.wordAt

theorem encoding_ne_nil (reply : LookupReply) : reply.message.encoding ≠ [] := by
  apply List.ne_nil_of_length_pos
  rw [Reply.encoding, Reply.header]
  simp only [List.length_append, store32_length]
  omega

end LookupReply

/-- A request can be sent: identifiers are left, and its name fits. -/
def Sendable (xid : UInt32) (name : List UInt8) : Prop :=
  xid ≠ 0 ∧ NameFits name

instance (xid : UInt32) (name : List UInt8) : Decidable (Sendable xid name) :=
  inferInstanceAs (Decidable (_ ∧ _))

/-! ## The pending request -/

namespace Transport

def Idle (transport : Transport (GlueCallback Other) callbackListLength)
    (func : GlueCallback Other) : Prop :=
  ∀ slot, (transport.client.callbacks.callbackList slot).callback = .func func →
    (transport.client.callbacks.callbackList slot).xid = 0

/-- Identifiers are only drawn from `cur_xid`. -/
def Counted (transport : Transport (GlueCallback Other) callbackListLength) : Prop :=
  transport.client.callbacks.lastXid ≤ transport.curXid

/-- The reply to the newest transaction calls this function, and no other reply
does. -/
structure Awaits (transport : Transport (GlueCallback Other) callbackListLength)
    (func : GlueCallback Other) : Prop where
  positive : 0 < transport.curXid
  counted : transport.Counted
  newest : transport.client.callbacks.callbackList transport.client.callbacks.callbackListHead =
    { xid := transport.curXid, callback := .func func }
  only : ∀ slot, (transport.client.callbacks.callbackList slot).callback = .func func →
    (transport.client.callbacks.callbackList slot).xid ≠ 0 →
    slot = transport.client.callbacks.callbackListHead

variable {transport : Transport (GlueCallback Other) callbackListLength}
  {func other : GlueCallback Other}

/-- The next identifier is newer than all in the list, until they are used up. -/
theorem Counted.newer (counted : transport.Counted) (left : transport.curXid + 1 ≠ 0) :
    transport.client.callbacks.lastXid < transport.curXid + 1 := by
  have bound := transport.curXid.toNat_lt
  have counted := UInt32.le_iff_toNat_le.mp counted
  have sum := UInt32.toNat_add transport.curXid 1
  have nonzero : (transport.curXid + 1).toNat ≠ 0 := fun zero => left (UInt32.toNat_inj.mp zero)
  rw [UInt32.lt_iff_toNat_lt]
  change _ = (transport.curXid.toNat + 1) % 2 ^ 32 at sum
  omega

/-- A request that can be sent registers its function in the next slot.  One that
cannot be sent ends the process. -/
theorem Counted.nfsLookup_registers (counted : transport.Counted) (order : ByteOrder)
    {file : List UInt8} (whole : file.length = fhsize) (name : List UInt8)
    (func : GlueCallback Other) (sent : Int) :
    (¬ Sendable (transport.curXid + 1) name ∧
      ∃ fault, nfsLookup order transport (bswap order file) name func sent = .error fault) ∨
    ∃ callbacks, Sendable (transport.curXid + 1) name ∧
      transport.client.callbacks.callbackAdd (transport.curXid + 1) (.func func) =
        some callbacks ∧
      nfsLookup order transport (bswap order file) name func sent =
        .ok (sent,
          { client := { transport.client with callbacks := callbacks }
            curXid := transport.curXid + 1 },
          { bytes := lookupRequest order (transport.curXid + 1) file name, func := func }) := by
  by_cases fits : NameFits name
  swap
  · exact Or.inl ⟨fun sendable => fits sendable.2, _,
      nfsLookup_overlong order transport whole fits func sent⟩
  rw [nfsLookup_sends order transport whole fits func sent]
  by_cases full : transport.curXid + 1 = 0
  · refine Or.inl ⟨fun sendable => sendable.1 full, .assertion, ?_⟩
    rw [full]
    rfl
  · rcases CallbackList.callbackAdd_newer (counted.newer full) (.func func) with
      ⟨callbacks, added, _, _⟩
    refine Or.inr ⟨callbacks, ⟨full, fits⟩, added, ?_⟩
    rw [added]

/-- After a request its function is awaited, if no other reply calls it.  A
request that cannot be sent ends the process. -/
theorem Counted.nfsLookup (counted : transport.Counted) (order : ByteOrder)
    {file : List UInt8} (whole : file.length = fhsize) (name : List UInt8)
    (func : GlueCallback Other) (sent : Int) :
    (¬ Sendable (transport.curXid + 1) name ∧
      ∃ fault, nfsLookup order transport (bswap order file) name func sent = .error fault) ∨
    ∃ next : Transport (GlueCallback Other) callbackListLength,
      Sendable (transport.curXid + 1) name ∧ next.curXid = transport.curXid + 1 ∧
      nfsLookup order transport (bswap order file) name func sent =
        .ok (sent, next,
          { bytes := lookupRequest order (transport.curXid + 1) file name, func := func }) ∧
      (transport.Idle func → next.Awaits func) ∧
      ∀ other, other ≠ func → transport.Idle other → next.Idle other := by
  rcases counted.nfsLookup_registers order whole name func sent with
    refused | ⟨callbacks, sendable, added, requested⟩
  · exact Or.inl refused
  · rcases CallbackList.callbackAdd_newer (counted.newer sendable.1) (.func func) with
      ⟨same, again, last, slots⟩
    cases Option.some.inj (added.symm.trans again)
    refine Or.inr ⟨_, sendable, rfl, requested, ?_, ?_⟩
    · intro idle
      refine ⟨UInt32.pos_iff_ne_zero.mpr sendable.1, UInt32.le_of_eq last, ?_, ?_⟩
      · dsimp only
        rw [slots, Function.update_self]
      · intro slot registered pending
        dsimp only at registered pending ⊢
        by_contra elsewhere
        rw [slots, Function.update_of_ne elsewhere] at registered pending
        exact pending (idle slot registered)
    · intro other different idle slot registered
      dsimp only at registered ⊢
      rw [slots] at registered ⊢
      by_cases newest : slot = callbacks.callbackListHead
      · rw [newest, Function.update_self] at registered
        cases registered
        exact absurd rfl different
      · rw [Function.update_of_ne newest] at registered ⊢
        exact idle slot registered

theorem Idle.release (idle : transport.Idle other) (place : Fin callbackListLength) :
    ∀ slot, ((transport.client.callbacks.release place).callbackList slot).callback =
        .func other →
      ((transport.client.callbacks.release place).callbackList slot).xid = 0 := by
  intro slot registered
  rcases transport.client.callbacks.release_cases place slot with ⟨_, free⟩ | ⟨_, kept⟩
  · exact free
  · rw [kept] at registered ⊢
    exact idle slot registered

/-- The transport after a reply to the newest transaction. -/
def answered (transport : Transport (GlueCallback Other) callbackListLength) :
    Transport (GlueCallback Other) callbackListLength :=
  { transport with
    client :=
      { transport.client with
        callbacks :=
          transport.client.callbacks.release transport.client.callbacks.callbackListHead } }

/-- The reply to the pending request calls its function. -/
theorem Awaits.receive_reply (awaits : transport.Awaits func) {reply : LookupReply}
    (own : reply.message.xid = transport.curXid) :
    rpcTake transport.client (.datagram reply.message.encoding) =
        some ⟨0, transport.answered.client, some (transport.curXid, .func func)⟩ ∧
      transport.answered.Counted ∧ transport.answered.Idle func ∧
      ∀ other, transport.Idle other → transport.answered.Idle other := by
  refine ⟨?_, awaits.counted, ?_, fun other idle => idle.release _⟩
  · exact rpcTake_of_callbackDel reply.encoding_ne_nil (reply.extractXid_encoding.trans own)
      (CallbackList.callbackDel_head awaits.positive awaits.newest)
  · intro slot registered
    change ((transport.client.callbacks.release _).callbackList slot).callback = _ at registered
    change ((transport.client.callbacks.release _).callbackList slot).xid = 0
    rcases transport.client.callbacks.release_cases
      transport.client.callbacks.callbackListHead slot with ⟨_, free⟩ | ⟨different, kept⟩
    · exact free
    · rw [kept] at registered ⊢
      exact not_not.mp fun pending => different (awaits.only slot registered pending)

/-- Nothing else calls the function, and the request stays pending. -/
theorem Awaits.receive_other (awaits : transport.Awaits func) {arrival : Arrival}
    (foreign : ∀ reply, arrival = .reply reply → reply.message.xid ≠ transport.curXid) :
    ∃ result, rpcTake transport.client arrival.received = some result ∧
      (∀ xid, result.found ≠ some (xid, .func func)) ∧
      Awaits { transport with client := result.client } func ∧
      ∀ other, transport.Idle other → Idle { transport with client := result.client } other := by
  cases arrival with
  | timedOut =>
      exact ⟨_, rfl, fun _ found => Option.some_ne_none _ found.symm, awaits, fun _ idle => idle⟩
  | eagain =>
      exact ⟨_, rfl, fun _ found => Option.some_ne_none _ found.symm, awaits, fun _ idle => idle⟩
  | error =>
      exact ⟨_, rfl, fun _ found => Option.some_ne_none _ found.symm, awaits, fun _ idle => idle⟩
  | reply reply =>
      have different := foreign reply rfl
      rcases transport.client.callbacks.callbackDel_cases reply.positive with
        kept | ⟨place, named, cleared⟩
      · have received := rpcTake_of_callbackDel reply.encoding_ne_nil reply.extractXid_encoding kept
        exact ⟨_, received, fun _ found => Option.some_ne_none _ found.symm, awaits,
          fun _ idle => idle⟩
      · have received :=
          rpcTake_of_callbackDel reply.encoding_ne_nil reply.extractXid_encoding cleared
        have elsewhere : place ≠ transport.client.callbacks.callbackListHead := by
          intro newest
          rw [newest, awaits.newest] at named
          exact different named.symm
        refine ⟨_, received, ?_, ⟨awaits.positive, awaits.counted, ?_, ?_⟩, ?_⟩
        · intro xid found
          have registered := congrArg Prod.snd (Option.some.inj found)
          refine elsewhere (awaits.only place registered ?_)
          rw [named]
          exact UInt32.pos_iff_ne_zero.mp reply.positive
        · change (transport.client.callbacks.release place).callbackList
            transport.client.callbacks.callbackListHead = _
          rcases transport.client.callbacks.release_cases place
            transport.client.callbacks.callbackListHead with ⟨same, _⟩ | ⟨_, kept⟩
          · exact absurd same.symm elsewhere
          · exact kept.trans awaits.newest
        · intro slot registered pending
          change ((transport.client.callbacks.release place).callbackList slot).callback = _
            at registered
          change ((transport.client.callbacks.release place).callbackList slot).xid ≠ 0 at pending
          rcases transport.client.callbacks.release_cases place slot with ⟨_, free⟩ | ⟨_, kept⟩
          · exact absurd free pending
          · rw [kept] at registered pending
            exact awaits.only slot registered pending
        · exact fun other idle => idle.release place

end Transport

/-! ## The loop follows the path -/

section Follow

variable (order : ByteOrder) (func : GlueCallback Other) (sent : Int)

/-- What a turn of the loop does.  The last request is awaited by its own
function. -/
inductive Turned (transport : Transport (GlueCallback Other) callbackListLength)
    (file tail : List UInt8) :
    Lookup Other callbackListLength × List (Sent (GlueCallback Other)) → Prop where
  | unsent (name : List UInt8) (rest : List (List UInt8)) (first : lookedUp tail = name :: rest)
      (refused : ¬ Sendable (transport.curXid + 1) name) : Turned transport file tail (.ended, [])
  | directory (name : List UInt8) (ld : LookupDir)
      (next : Transport (GlueCallback Other) callbackListLength)
      (sendable : Sendable (transport.curXid + 1) name)
      (newer : next.curXid = transport.curXid + 1)
      (first : lookedUp tail = name :: lookedUp ld.tail) (awaits : next.Awaits .dirCb)
      (others : ∀ other, other ≠ .dirCb → transport.Idle other → next.Idle other) :
      Turned transport file tail (.waiting next ld,
        [{ bytes := lookupRequest order (transport.curXid + 1) file name, func := .dirCb }])
  | last (name : List UInt8) (next : Transport (GlueCallback Other) callbackListLength)
      (sendable : Sendable (transport.curXid + 1) name) (only : lookedUp tail = [name])
      (awaits : transport.Idle func → next.Awaits func) :
      Turned transport file tail (.returned next,
        [{ bytes := lookupRequest order (transport.curXid + 1) file name, func := func }])

variable {transport : Transport (GlueCallback Other) callbackListLength}

theorem lookupTurn_turned (counted : transport.Counted) (idle : transport.Idle .dirCb)
    {file : List UInt8} (whole : file.length = fhsize) (ld : LookupDir)
    (cwd : ld.cwd = bswap order file) :
    Turned order func transport file ld.tail (lookupTurn order func sent transport ld) := by
  have cut := cut_splitAtByte ld.tail
  unfold lookupTurn
  rw [cwd]
  revert cut
  generalize splitAtByte slash (ld.tail.dropWhile fun byte => byte == slash) = pieces
  intro cut
  cases cut with
  | directory linkname rest first =>
      dsimp only
      rcases counted.nfsLookup order whole linkname .dirCb sent with
        ⟨refused, fault, failed⟩ | ⟨next, sendable, newer, requested, awaits, others⟩
      · rw [failed]
        exact Turned.unsent linkname _ first refused
      · rw [requested]
        exact Turned.directory linkname { tail := rest, cwd := bswap order file, ok := 0 } next
          sendable newer first (awaits idle) others
  | last linkname only =>
      dsimp only
      rcases counted.nfsLookup order whole linkname func sent with
        ⟨refused, fault, failed⟩ | ⟨next, sendable, newer, requested, awaits, others⟩
      · rw [failed]
        exact Turned.unsent linkname _ only refused
      · rw [requested]
        exact Turned.last linkname next sendable only awaits

/-- Nothing but a reply to the pending request moves the loop. -/
theorem lookupStep_other (awaits : transport.Awaits .dirCb) (ld : LookupDir) {arrival : Arrival}
    (foreign : ∀ reply, arrival = .reply reply → reply.message.xid ≠ transport.curXid) :
    ∃ next : Transport (GlueCallback Other) callbackListLength,
      lookupStep order func sent (.waiting transport ld) arrival.received =
        (.waiting next ld, []) ∧
      next.Awaits .dirCb ∧ next.curXid = transport.curXid ∧
      ∀ other, transport.Idle other → next.Idle other := by
  rcases awaits.receive_other foreign with ⟨result, received, uncalled, still, others⟩
  refine ⟨_, ?_, still, rfl, others⟩
  unfold lookupStep
  dsimp only
  rw [received]
  dsimp only
  split
  · next xid found => exact absurd found (uncalled xid)
  · rfl

/-- The reply to the pending request ends the loop, or leads into the directory
that it names. -/
theorem lookupStep_reply (awaits : transport.Awaits .dirCb) (ld : LookupDir) {reply : LookupReply}
    (own : reply.message.xid = transport.curXid) :
    lookupStep order func sent (.waiting transport ld) (Arrival.reply reply).received =
      match reply.file? with
      | none => (.returned transport.answered, [])
      | some file => lookupTurn order func sent transport.answered
          { ld with cwd := bswap order file, ok := 1 } := by
  rcases reply.decoded order with ⟨status, found, decoded, accepted, handle⟩
  have called : (rpcTake transport.client (Arrival.reply reply).received) = _ :=
    (awaits.receive_reply own).1
  unfold lookupStep
  dsimp only
  rw [called]
  dsimp only
  rw [show (Arrival.reply reply).received.data = reply.message.encoding from rfl, decoded]
  dsimp only
  rw [handle]
  cases named : reply.file? with
  | none =>
      have failed : status ≠ 0 := mt accepted.mp (by rw [named]; exact Bool.false_ne_true)
      rw [dirCb, if_neg failed]
      rfl
  | some file =>
      have ok : status = 0 := accepted.mpr (by rw [named]; rfl)
      rw [dirCb, if_pos ok]
      rfl

def identifiersLeft (xid : UInt32) : Nat :=
  0xFFFFFFFF - xid.toNat

theorem identifiersLeft_full {xid : UInt32} (full : xid + 1 = 0) : identifiersLeft xid = 0 := by
  have sum := UInt32.toNat_add xid 1
  have bound := xid.toNat_lt
  rw [full] at sum
  change 0 = (xid.toNat + 1) % 2 ^ 32 at sum
  unfold identifiersLeft
  omega

theorem identifiersLeft_succ {xid : UInt32} (left : xid + 1 ≠ 0) :
    identifiersLeft xid = identifiersLeft (xid + 1) + 1 := by
  have sum := UInt32.toNat_add xid 1
  have bound := xid.toNat_lt
  have nonzero : (xid + 1).toNat ≠ 0 := fun zero => left (UInt32.toNat_inj.mp zero)
  change _ = (xid.toNat + 1) % 2 ^ 32 at sum
  unfold identifiersLeft
  omega

/-- What is sent once the reply to a request for a directory has come. -/
def afterAnswer (xid : UInt32) (rest : List (List UInt8)) (arrivals : List Arrival) :
    List (Sent (GlueCallback Other)) :=
  match answerTo xid arrivals with
  | none => []
  | some (reply, later) =>
      match reply.file? with
      | none => []
      | some next => lookups order func (xid + 1) next rest later

theorem lookups_directory {xid : UInt32} {file name : List UInt8} {rest : List (List UInt8)}
    (more : rest ≠ []) (arrivals : List Arrival) :
    lookups order func xid file (name :: rest) arrivals =
      { bytes := lookupRequest order xid file name, func := .dirCb } ::
        afterAnswer order func xid rest arrivals := by
  cases rest with
  | nil => exact absurd rfl more
  | cons second rest => rfl

theorem run_cons_of_lookupStep {start next : Lookup Other callbackListLength}
    {received : Received} {events : List (Sent (GlueCallback Other))}
    (stepped : lookupStep order func sent start received = (next, events))
    (rest : List Received) :
    (lookupMachine Other callbackListLength order func sent).run start (received :: rest) =
      (((lookupMachine Other callbackListLength order func sent).run next rest).1,
        events ++ ((lookupMachine Other callbackListLength order func sent).run next rest).2) :=
  Machine.run_cons_of_step stepped rest

theorem run_returned (received : List Received) :
    (lookupMachine Other callbackListLength order func sent).run (.returned transport) received =
      (.returned transport, []) :=
  Machine.run_of_still (fun _ => rfl) received

theorem run_ended (received : List Received) :
    (lookupMachine Other callbackListLength order func sent).run .ended received = (.ended, []) :=
  Machine.run_of_still (fun _ => rfl) received

theorem answerTo_other {xid : UInt32} {arrival : Arrival}
    (foreign : ∀ reply, arrival = .reply reply → reply.message.xid ≠ xid)
    (later : List Arrival) : answerTo xid (arrival :: later) = answerTo xid later := by
  cases arrival with
  | reply reply => exact if_neg (foreign reply rfl)
  | timedOut => rfl
  | eagain => rfl
  | error => rfl

/-- The requests from a turn of the loop on, if those from the next wait on are
as they should be. -/
theorem Turned.requests {file tail : List UInt8}
    {turn : Lookup Other callbackListLength × List (Sent (GlueCallback Other))}
    (turned : Turned order func transport file tail turn)
    (short : ∀ name ∈ lookedUp tail, NameFits name) (arrivals : List Arrival)
    (later : ∀ (next : Transport (GlueCallback Other) callbackListLength) (ld : LookupDir),
      next.Awaits .dirCb → (∀ name ∈ lookedUp ld.tail, NameFits name) →
      ((lookupMachine Other callbackListLength order func sent).run (.waiting next ld)
          (arrivals.map Arrival.received)).2 =
        (afterAnswer order func next.curXid (lookedUp ld.tail) arrivals).take
          (identifiersLeft next.curXid)) :
    turn.2 ++ ((lookupMachine Other callbackListLength order func sent).run turn.1
        (arrivals.map Arrival.received)).2 =
      (lookups order func (transport.curXid + 1) file (lookedUp tail) arrivals).take
        (identifiersLeft transport.curXid) := by
  cases turned with
  | unsent name rest first refused =>
      have fits := short name (by rw [first]; exact List.mem_cons_self)
      have full : transport.curXid + 1 = 0 := not_not.mp fun left => refused ⟨left, fits⟩
      rw [run_ended, identifiersLeft_full full, List.take_zero]
      rfl
  | last name next sendable only awaits =>
      rw [run_returned, identifiersLeft_succ sendable.1, only, lookups, List.take_succ_cons,
        List.take_nil]
      rfl
  | directory name ld next sendable newer first awaits others =>
      have rest := later next ld awaits fun other member =>
        short other (by rw [first]; exact List.mem_cons_of_mem _ member)
      rw [rest, newer, identifiersLeft_succ sendable.1, first,
        lookups_directory order func (lookedUp_ne_nil _), List.take_succ_cons]
      rfl

/-- From a wait on, the requests are those that the arrivals call for.  The
induction is on the arrivals, and what is carried through it is that the newest
transaction is the only one that calls `dir_cb`. -/
theorem run_waiting (arrivals : List Arrival)
    {transport : Transport (GlueCallback Other) callbackListLength} {ld : LookupDir}
    (awaits : transport.Awaits .dirCb) (short : ∀ name ∈ lookedUp ld.tail, NameFits name) :
    ((lookupMachine Other callbackListLength order func sent).run (.waiting transport ld)
        (arrivals.map Arrival.received)).2 =
      (afterAnswer order func transport.curXid (lookedUp ld.tail) arrivals).take
        (identifiersLeft transport.curXid) := by
  induction arrivals generalizing transport ld with
  | nil => exact List.take_nil.symm
  | cons arrival later inductionHypothesis =>
      rw [List.map_cons]
      by_cases own : ∃ reply, arrival = .reply reply ∧ reply.message.xid = transport.curXid
      · rcases own with ⟨reply, rfl, own⟩
        have stepped := lookupStep_reply order func sent awaits ld own
        have answer : afterAnswer order func transport.curXid (lookedUp ld.tail)
            (.reply reply :: later) = match reply.file? with
              | none => []
              | some next => lookups order func (transport.curXid + 1) next (lookedUp ld.tail)
                  later := by
          rw [afterAnswer, answerTo, if_pos own]
        rw [answer]
        cases named : reply.file? with
        | none =>
            rw [named] at stepped
            rw [run_cons_of_lookupStep order func sent stepped, run_returned, List.take_nil]
            rfl
        | some file =>
            rw [named] at stepped
            rcases awaits.receive_reply own with ⟨_, counted, idle, _⟩
            have turned := lookupTurn_turned order func sent counted idle
              (LookupReply.file?_length named) { ld with cwd := bswap order file, ok := 1 } rfl
            rw [run_cons_of_lookupStep order func sent stepped]
            exact turned.requests order func sent short later fun next ld =>
              inductionHypothesis
      · push Not at own
        rcases lookupStep_other order func sent awaits ld own with
          ⟨next, stepped, still, same, _⟩
        rw [run_cons_of_lookupStep order func sent stepped, afterAnswer, answerTo_other own, ← same]
        exact inductionHypothesis still short

end Follow

/-- Whatever arrives, the requests of `recursive_lookup` look up the components
of the path in their order, as many as there are identifiers left. -/
theorem recursiveLookup_requests (order : ByteOrder) (func : GlueCallback Other) (sent : Int)
    (transport : Transport (GlueCallback Other) callbackListLength) (file name : List UInt8)
    (arrivals : List Arrival) (counted : transport.Counted) (idle : transport.Idle .dirCb)
    (whole : file.length = fhsize) (some_ : components name ≠ [])
    (final : name.getLast? ≠ some slash) (short : ∀ piece ∈ components name, NameFits piece) :
    (recursiveLookup order func sent transport (bswap order file) name
        (arrivals.map Arrival.received)).2 =
      (lookups order func (transport.curXid + 1) file (components name) arrivals).take
        (identifiersLeft transport.curXid) := by
  have turned := lookupTurn_turned order func sent counted idle whole
    { tail := name, cwd := bswap order file, ok := 0 } rfl
  have names := lookedUp_eq_components some_ final
  rw [← names] at short ⊢
  exact turned.requests order func sent short arrivals fun next ld awaits more =>
    run_waiting order func sent arrivals awaits more

/-- A client that has drawn no identifier yet. -/
def freshTransport : Transport (GlueCallback Empty) 2 where
  client := rpcStart (GlueCallback Empty) 2 Nat.two_pos
  curXid := 100

/-- The reply that names a directory by a handle of one repeated byte. -/
def directoryReply (xid : UInt32) (positive : 0 < xid) : LookupReply :=
  let attributes : Fattr := Fattr.load .big (List.replicate fattrSize 0)
  let answer : Diropres := .ok (List.replicate fhsize 9) attributes rfl
  { message :=
      { xid := xid
        body := .accepted { flavour := authNull, body := [] } (.success answer.encoding) }
    answer := some answer
    carried := rfl
    unambiguous := Or.inl rfl
    fits := by
      change 128 ≤ pbufSize
      decide
    positive := positive }

theorem recursiveLookup_requests_two :
    (recursiveLookup .little .openCb 0 freshTransport
        (bswap .little (List.replicate fhsize 7)) [47, 97, 47, 47, 98]
        ([.timedOut, .reply (directoryReply 101 (by decide))].map Arrival.received)).2 =
      [{ bytes := lookupRequest .little 101 (List.replicate fhsize 7) [97], func := .dirCb },
        { bytes := lookupRequest .little 102 (List.replicate fhsize 9) [98], func := .openCb }] :=
  recursiveLookup_requests .little .openCb 0 freshTransport (List.replicate fhsize 7)
    [47, 97, 47, 47, 98] [.timedOut, .reply (directoryReply 101 (by decide))]
    (by unfold Transport.Counted; decide) (fun _ _ => rfl) rfl (by decide) (by decide) (by decide)

end Nfs
end Ipbench
