import Ipbench.Foundation.Machine
import Ipbench.Nfs.CallbackList
import Ipbench.Nfs.Xdr

namespace Ipbench
namespace Nfs

open Foundation

/-!
# Remote procedure calls over datagrams

The client sends requests and keeps a callback for each of them; a datagram
that carries the transaction identifier of a pending callback invokes it.
`rpc_call` is the synchronous use: it registers a callback that points into its
own stack frame, and resends its request until that callback has been invoked.
Activations of `rpc_call` are numbered, and while one of them waits nothing else
of the client runs.

What a `recv` finds is an input of the machine.  The network may therefore lose
and delay datagrams, deliver them twice or in another order, and deliver
datagrams that nobody sent.  A failing assertion and the exit on an empty
datagram end the process.
-/

/-- The callbacks: that of an activation of `rpc_call`, a function given to
`rpc_send`, or no function, which is also what zeroed memory holds. -/
inductive RpcCallback (Func : Type) where
  | call (frame : Nat)
  | func (f : Func)
  | null
deriving DecidableEq, Repr

/-- What `poll` and `recv` find.  An empty datagram reads as a closed
connection. -/
inductive Received where
  | timedOut
  | eagain
  | error
  | datagram (data : List UInt8)
deriving DecidableEq, Repr

/-- The observable actions of the client.  `discarded` is a datagram whose
callback has no function. -/
inductive RpcEvent (Func : Type) where
  | registered (xid : UInt32) (c : RpcCallback Func)
  | invoked (xid : UInt32) (c : RpcCallback Func) (data : List UInt8)
  | discarded (xid : UInt32)
  | called (frame : Nat)
  | returned (frame : Nat) (rcv : Pbuf)
deriving DecidableEq

/-- An activation of `rpc_call` that has not been notified.  `tx` says that its
callback is still to be registered. -/
structure Call where
  frame : Nat
  snd : Pbuf
  tx : Bool

/-- The callback list, the number of activations of `rpc_call` so far, and the
one that is waiting. -/
structure Client (Func : Type) (callbackListLength : Nat) where
  callbacks : CallbackList (RpcCallback Func) callbackListLength
  frames : Nat
  calling : Option Call

variable {Func : Type} {callbackListLength : Nat}

/-- Zero a buffer and receive a datagram into it. -/
def receivedPbuf (data : List UInt8) : Pbuf where
  pos := 0
  buf := data.take pbufSize ++ List.replicate (pbufSize - (data.take pbufSize).length) 0
  whole := by
    rw [List.length_append, List.length_replicate, List.length_take]
    omega

/-- `rpc_send`, which registers the callback even if nothing is sent.  The
result of `send` is `sent`. -/
def rpcSend (client : Client Func callbackListLength) (pbuf : Pbuf)
    (c : Option (RpcCallback Func)) (sent : Int) :
    Option (Int × Client Func callbackListLength × List (RpcEvent Func)) :=
  if pbuf.pos < 0 ∨ pbufSize < pbuf.pos then none
  else
    let r := if pbuf.pos = 0 then -1 else sent
    match c with
    | none => some (r, client, [])
    | some c =>
        let xid := extractXid pbuf.buf
        (client.callbacks.callbackAdd xid c).map fun callbacks =>
          (r, { client with callbacks := callbacks }, [.registered xid c])

/-- What `rpc_recv` will return, with the callback that it has found. -/
structure RecvResult (Func : Type) (callbackListLength : Nat) where
  status : Int
  client : Client Func callbackListLength
  found : Option (UInt32 × RpcCallback Func)

/-- `rpc_recv` up to the invocation of the callback, which is taken from the list. -/
def rpcTake (client : Client Func callbackListLength) (received : Received) :
    Option (RecvResult Func callbackListLength) :=
  match received with
  | .timedOut => some { status := -1, client := client, found := none }
  | .eagain => some { status := 0, client := client, found := none }
  | .error => some { status := -1, client := client, found := none }
  | .datagram data =>
      if data = [] then none
      else
        let xid := extractXid (receivedPbuf data).buf
        (client.callbacks.callbackDel xid).map fun (c, callbacks) =>
          { status := if c.isSome then 0 else -1
            client := { client with callbacks := callbacks }
            found := c.map fun c => (xid, c) }

/-- A datagram takes the callback that is pending under its transaction. -/
theorem rpcTake_of_callbackDel {client : Client Func callbackListLength} {data : List UInt8}
    (nonempty : data ≠ []) {xid : UInt32} (carried : extractXid (receivedPbuf data).buf = xid)
    {found : Option (RpcCallback Func)}
    {next : CallbackList (RpcCallback Func) callbackListLength}
    (deleted : client.callbacks.callbackDel xid = some (found, next)) :
    rpcTake client (.datagram data) =
      some
        { status := if found.isSome then 0 else -1
          client := { client with callbacks := next }
          found := found.map fun c => (xid, c) } := by
  unfold rpcTake
  dsimp only
  rw [if_neg nonempty, carried, deleted]
  rfl

/-- A transaction that `callback_del` refuses ends the process. -/
theorem rpcTake_of_refused {client : Client Func callbackListLength} {data : List UInt8}
    (refused : client.callbacks.callbackDel (extractXid (receivedPbuf data).buf) = none) :
    rpcTake client (.datagram data) = none := by
  unfold rpcTake
  dsimp only
  rw [refused]
  split
  · rfl
  · rfl

def Received.data : Received → List UInt8
  | datagram data => data
  | _ => []

/-- The function of a callback, given the buffer: what it makes of the client, which
it may use to send.  A function that fails an assertion does not return. -/
def CallbackFunctions (Func : Type) (callbackListLength : Nat) : Type :=
  RpcCallback Func → Pbuf → Client Func callbackListLength →
    Option (Client Func callbackListLength)

def callFunction (functions : CallbackFunctions Func callbackListLength)
    (c : RpcCallback Func) (pbuf : Pbuf) (client : Client Func callbackListLength) :
    Option (Client Func callbackListLength) :=
  match c with
  | .null => some client
  | c => functions c pbuf client

/-- `rpc_recv`, with what it returns and the client that the callback leaves. -/
def rpcRecv (functions : CallbackFunctions Func callbackListLength)
    (client : Client Func callbackListLength) (received : Received) :
    Option (Int × Client Func callbackListLength) :=
  match rpcTake client received with
  | none => none
  | some result =>
      match result.found with
      | none => some (result.status, result.client)
      | some (_, c) =>
          (callFunction functions c (receivedPbuf received.data) result.client).map
            fun next => (result.status, next)

/-- Once a callback has been taken, the call returns when its function does. -/
theorem rpcRecv_returns {functions : CallbackFunctions Func callbackListLength}
    {client : Client Func callbackListLength} {received : Received}
    {result : RecvResult Func callbackListLength} (took : rpcTake client received = some result) :
    (∃ next, rpcRecv functions client received = some (result.status, next)) ↔
      ∀ xid c, result.found = some (xid, c) →
        callFunction functions c (receivedPbuf received.data) result.client ≠ none := by
  unfold rpcRecv
  rw [took]
  dsimp only
  cases result.found with
  | none => simp
  | some found =>
      rcases found with ⟨xid, c⟩
      dsimp only
      cases called : callFunction functions c (receivedPbuf received.data) result.client with
      | none =>
          refine iff_of_false (by simp) fun returns => ?_
          exact returns xid c rfl called
      | some next =>
          refine iff_of_true ⟨next, rfl⟩ ?_
          rintro _ _ ⟨rfl⟩
          rw [called]
          exact Option.some_ne_none _

/-- The function of the callback has no part in the status. -/
theorem rpcRecv_status {functions : CallbackFunctions Func callbackListLength}
    {client next : Client Func callbackListLength} {received : Received} {status : Int}
    {result : RecvResult Func callbackListLength} (took : rpcTake client received = some result)
    (returned : rpcRecv functions client received = some (status, next)) :
    status = result.status := by
  unfold rpcRecv at returned
  rw [took] at returned
  dsimp only at returned
  split at returned
  · cases returned
    rfl
  · rcases Option.map_eq_some_iff.mp returned with ⟨_, _, same⟩
    cases same
    rfl

/-- The invocation of a callback that has a function. -/
def invoke (data : List UInt8) : UInt32 × RpcCallback Func → RpcEvent Func
  | (xid, .null) => .discarded xid
  | (xid, c) => .invoked xid c data

def recvEvents (received : Received) (result : RecvResult Func callbackListLength) :
    List (RpcEvent Func) :=
  (result.found.map (invoke received.data)).toList

/-- The callback that was found is that of the activation. -/
def RecvResult.notifies (result : RecvResult Func callbackListLength) (frame : Nat) : Bool :=
  match result.found with
  | some (_, .call other) => other == frame
  | _ => false

/-- One turn of the loop of `rpc_call`: send the request, and wait for a
datagram.  A request that is not sent as a whole fails an assertion. -/
def rpcCallTurn (client : Client Func callbackListLength) (call : Call) (sent : Int)
    (received : Received) : Option (Client Func callbackListLength) × List (RpcEvent Func) :=
  match rpcSend client call.snd (if call.tx then some (.call call.frame) else none) sent with
  | none => (none, [])
  | some (r, client, events) =>
      if r ≠ call.snd.pos then (none, events)
      else
        match rpcTake client received with
        | none => (none, events)
        | some result =>
            if result.notifies call.frame then
              (some { result.client with calling := none },
                events ++ (recvEvents received result ++
                  [.returned call.frame (receivedPbuf received.data)]))
            else
              (some { result.client with calling := some { call with tx := false } },
                events ++ recvEvents received result)

/-- What the program does next, and what it finds.  A callback given to
`rpc_send` may have no function; without a callback the call retransmits. -/
inductive RpcInput (Func : Type) where
  | send (pbuf : Pbuf) (c : Option (Option Func)) (sent : Int)
  | recv (received : Received)
  | call (snd : Pbuf)
  | turn (sent : Int) (received : Received)

def RpcCallback.ofFunc : Option Func → RpcCallback Func
  | some f => func f
  | none => null

/-- The client as a machine; `none` is a process that has ended.  While an
activation of `rpc_call` waits, only its turns happen. -/
def rpcMachine (Func : Type) (callbackListLength : Nat) :
    Machine (Option (Client Func callbackListLength)) (RpcInput Func) (RpcEvent Func) where
  step := fun state input =>
    match state with
    | none => (none, [])
    | some client =>
        match client.calling, input with
        | none, .send pbuf c sent =>
            match rpcSend client pbuf (c.map RpcCallback.ofFunc) sent with
            | none => (none, [])
            | some (_, next, events) => (some next, events)
        | none, .recv received =>
            match rpcTake client received with
            | none => (none, [])
            | some result => (some result.client, recvEvents received result)
        | none, .call snd =>
            (some
              { client with
                frames := client.frames + 1
                calling := some { frame := client.frames, snd := snd, tx := true } },
              [.called client.frames])
        | some call, .turn sent received => rpcCallTurn client call sent received
        | _, _ => (some client, [])

/-- The client after `callback_init`. -/
def rpcStart (Func : Type) (callbackListLength : Nat) (positive : 0 < callbackListLength) :
    Client Func callbackListLength where
  callbacks := CallbackList.callbackInit callbackListLength positive .null
  frames := 0
  calling := none

def rpcRun (Func : Type) (callbackListLength : Nat) (positive : 0 < callbackListLength)
    (inputs : List (RpcInput Func)) :
    Option (Client Func callbackListLength) × List (RpcEvent Func) :=
  (rpcMachine Func callbackListLength).run (some (rpcStart Func callbackListLength positive))
    inputs

end Nfs
end Ipbench
