import Ipbench.Nfs.Datagrams
import Ipbench.Nfs.Directory

namespace Ipbench
namespace Nfs

open Foundation

/-!
# Which functions return

`rpc_recv` leaves a reply to the function of the call that it answers.  The
functions of `nfs.c` take what they need from fixed places of the buffer, which
is zero behind the datagram, and return.  Only `nfs_readdir_cb` looks for the end
of a list, and the list of a datagram need not end.

The functions of the callers are taken to return and to leave the client alone.
-/

variable {callbackListLength : Nat}

/-- The functions that `nfs.c` registers. -/
inductive NfsCallback where
  | getattr
  | lookup
  | read
  | write
  | create
  | readdir
deriving DecidableEq, Repr

/-- A function comes to the call of the caller's function. -/
def NfsCallback.decodes (order : ByteOrder) (fuel : Nat) (contents : Nat → NfsFilename)
    (pbuf : Pbuf) : NfsCallback → Bool
  | getattr => (nfsGetattrCb order pbuf).isOk
  | lookup => (nfsLookupCb order pbuf).isOk
  | read => (nfsReadCb order pbuf).isOk
  | write => (nfsWriteCb order pbuf).isOk
  | create => (nfsCreateCb order pbuf).isOk
  | readdir =>
      match nfsReaddirCb order fuel contents pbuf with
      | .ok (some _) => true
      | _ => false

def nfsFunctions (order : ByteOrder) (fuel : Nat) (contents : Nat → NfsFilename) :
    CallbackFunctions NfsCallback callbackListLength :=
  fun c pbuf client =>
    match c with
    | .func f => if f.decodes order fuel contents pbuf then some client else none
    | _ => some client

theorem nfsReaddirCb_ends (order : ByteOrder) (fuel : Nat) (contents : Nat → NfsFilename)
    (data : List UInt8) :
    NfsCallback.readdir.decodes order fuel contents (receivedPbuf data) = true ↔
      ∃ found, firstPass order fuel data = .ok (some found) := by
  rcases nfsReaddirCb_fillsWhatItCounts order fuel data with ⟨names, _, _, same⟩
  unfold NfsCallback.decodes
  rw [same contents]
  cases firstPass order fuel data with
  | error fault => exact iff_of_false Bool.false_ne_true fun ⟨_, impossible⟩ => nomatch impossible
  | ok passed =>
      cases passed with
      | none => exact iff_of_false Bool.false_ne_true fun ⟨_, impossible⟩ => nomatch impossible
      | some found => exact iff_of_true rfl ⟨found, rfl⟩

/-- Only the list of a directory can keep a function from its end. -/
theorem NfsCallback.decodes_received (order : ByteOrder) (fuel : Nat)
    (contents : Nat → NfsFilename) (data : List UInt8) (f : NfsCallback) :
    f.decodes order fuel contents (receivedPbuf data) = true ↔
      (f = .readdir → ∃ found, firstPass order fuel data = .ok (some found)) := by
  cases f with
  | getattr =>
      refine iff_of_true ?_ nofun
      rw [decodes, nfsGetattrCb, attrstatCb_received]
      rfl
  | write =>
      refine iff_of_true ?_ nofun
      rw [decodes, nfsWriteCb, attrstatCb_received]
      rfl
  | lookup =>
      refine iff_of_true ?_ nofun
      rw [decodes, nfsLookupCb_received]
      rfl
  | create =>
      refine iff_of_true ?_ nofun
      rw [decodes, nfsCreateCb, nfsLookupCb_received]
      rfl
  | read =>
      refine iff_of_true ?_ nofun
      rw [decodes, nfsReadCb_received]
      rfl
  | readdir =>
      exact (nfsReaddirCb_ends order fuel contents data).trans
        ⟨fun ends _ => ends, fun ends => ends rfl⟩

/-- With the functions of `nfs.c`, every datagram leads back to the caller of `rpc_recv`, but for a
reply to `nfs_readdir` whose list does not end. -/
theorem functionReturns_nfs (order : ByteOrder) (fuel : Nat) (contents : Nat → NfsFilename)
    (client : Client NfsCallback callbackListLength) (data : List UInt8) :
    FunctionReturns (nfsFunctions order fuel contents) client data ↔
      ∀ callbacks,
        client.callbacks.callbackDel (extractXid (receivedPbuf data).buf) =
            some (some (.func .readdir), callbacks) →
          ∃ found, firstPass order fuel data = .ok (some found) := by
  constructor
  · intro returns callbacks taken
    have called := returns _ callbacks taken
    by_contra endless
    apply called
    refine if_neg ?_
    rw [nfsReaddirCb_ends]
    exact endless
  · intro ends c callbacks taken
    cases c with
    | null => exact Option.some_ne_none _
    | call frame => exact Option.some_ne_none _
    | func f =>
        have decodes := (f.decodes_received order fuel contents data).mpr
          fun same => ends callbacks (same ▸ taken)
        change (if _ then _ else _) ≠ none
        rw [if_pos decodes]
        exact Option.some_ne_none _

end Nfs
end Ipbench
