import Ipbench.Nfs.Lookup

namespace Ipbench
namespace Nfs

open Foundation

/-!
# The requests of the file client

Each request is a header, a handle, and arguments that are words or opaque
values.  A handle and the words behind it are one structure in memory, which is
copied with its bytes swapped: the words travel most significant byte first, and
so the bytes of the handle change places too.  They did so once before, when the
handle came in.

Nothing compares the size of a request with that of the buffer.  A request that
fits travels as its encoding, and one that does not is written beyond the end.
-/

variable {Func : Type} {callbackListLength : Nat}

def nfsprocGetattr : UInt32 := 1

def nfsprocRead : UInt32 := 6

def nfsprocWrite : UInt32 := 8

def nfsprocCreate : UInt32 := 9

def nfsprocReaddir : UInt32 := 16

/-! ## Structures in memory -/

/-- `struct cookie`, a handle as the client keeps it. -/
structure Cookie where
  data : List UInt8
  whole : data.length = fhsize

/-- A handle and the words behind it in one structure. -/
def withHandle (order : ByteOrder) (file : Cookie) (words : List UInt32) : List UInt8 :=
  file.data ++ words.flatMap (store32 order)

/-- `readargs_t`. -/
structure Readargs where
  file : Cookie
  offset : UInt32
  count : UInt32
  totalcount : UInt32

def Readargs.bytes (order : ByteOrder) (args : Readargs) : List UInt8 :=
  withHandle order args.file [args.offset, args.count, args.totalcount]

/-- `writeargs_t`. -/
structure Writeargs where
  file : Cookie
  beginoffset : UInt32
  offset : UInt32
  totalcount : UInt32

def Writeargs.bytes (order : ByteOrder) (args : Writeargs) : List UInt8 :=
  withHandle order args.file [args.beginoffset, args.offset, args.totalcount]

/-- `readdirargs_t`. -/
structure Readdirargs where
  dir : Cookie
  cookie : UInt32
  count : UInt32

def Readdirargs.bytes (order : ByteOrder) (args : Readdirargs) : List UInt8 :=
  withHandle order args.dir [args.cookie, args.count]

/-- `sattr_t`. -/
structure Sattr where
  mode : UInt32
  uid : UInt32
  gid : UInt32
  size : UInt32
  atime : Timeval
  mtime : Timeval
deriving DecidableEq, Repr

def Sattr.words (sat : Sattr) : List UInt32 :=
  [sat.mode, sat.uid, sat.gid, sat.size, sat.atime.seconds, sat.atime.useconds,
    sat.mtime.seconds, sat.mtime.useconds]

/-! ## Sending -/

/-- What the requests share: a header, the arguments, and `rpc_send`. -/
def sendRequest (order : ByteOrder) (transport : Transport Func callbackListLength)
    (procnum : UInt32) (arguments : Pbuf → Except Fault Pbuf) (func : Func) (sent : Int) :
    Except Fault (Int × Transport Func callbackListLength × Sent Func) := do
  let txid := transport.curXid + 1
  let pbuf ← initbuf order txid nfsNumber nfsVersion procnum
  let pbuf ← arguments pbuf
  match rpcSend transport.client pbuf (some (.func func)) sent with
  | none => .error .assertion
  | some (r, client, _) =>
      pure (r, { client := client, curXid := txid },
        { bytes := pbuf.buf.take pbuf.pos.toNat, func := func })

section Functions

variable (order : ByteOrder) (transport : Transport Func callbackListLength)

def nfsGetattr (fh : Cookie) (func : Func) (sent : Int) :
    Except Fault (Int × Transport Func callbackListLength × Sent Func) :=
  sendRequest order transport nfsprocGetattr
    (fun pbuf => pbuf.addtobuf order fh.data true) func sent

def nfsRead (fh : Cookie) (pos count : UInt32) (func : Func) (sent : Int) :
    Except Fault (Int × Transport Func callbackListLength × Sent Func) :=
  let args : Readargs := { file := fh, offset := pos, count := count, totalcount := 0 }
  sendRequest order transport nfsprocRead
    (fun pbuf => pbuf.addtobuf order (args.bytes order) true) func sent

/-- `nfs_write`, with as many bytes of data as its count says. -/
def nfsWrite (fh : Cookie) (offset : UInt32) (data : List UInt8) (func : Func) (sent : Int) :
    Except Fault (Int × Transport Func callbackListLength × Sent Func) :=
  let args : Writeargs := { file := fh, beginoffset := 0, offset := offset, totalcount := 0 }
  sendRequest order transport nfsprocWrite
    (fun pbuf => do
      let pbuf ← pbuf.addtobuf order (args.bytes order) true
      pbuf.adddata order data false) func sent

def nfsCreate (fh : Cookie) (name : List UInt8) (sat : Sattr) (func : Func) (sent : Int) :
    Except Fault (Int × Transport Func callbackListLength × Sent Func) :=
  sendRequest order transport nfsprocCreate
    (fun pbuf => do
      let pbuf ← pbuf.addtobuf order fh.data true
      let pbuf ← pbuf.addstring order name
      pbuf.addtobuf order (sat.words.flatMap (store32 order)) true) func sent

def nfsReaddir (pfh : Cookie) (cookie size : UInt32) (func : Func) (sent : Int) :
    Except Fault (Int × Transport Func callbackListLength × Sent Func) :=
  let args : Readdirargs := { dir := pfh, cookie := cookie, count := size }
  sendRequest order transport nfsprocReaddir
    (fun pbuf => pbuf.addtobuf order (args.bytes order) true) func sent

end Functions

/-- A call of one of the functions that send a request. -/
inductive NfsCall where
  | getattr (fh : Cookie)
  | lookup (cwd : Cookie) (name : List UInt8)
  | read (fh : Cookie) (pos count : UInt32)
  | write (fh : Cookie) (offset : UInt32) (data : List UInt8)
  | create (fh : Cookie) (name : List UInt8) (sat : Sattr)
  | readdir (pfh : Cookie) (cookie size : UInt32)

namespace NfsCall

def send (order : ByteOrder) (transport : Transport Func callbackListLength) (func : Func)
    (sent : Int) :
    NfsCall → Except Fault (Int × Transport Func callbackListLength × Sent Func)
  | getattr fh => nfsGetattr order transport fh func sent
  | lookup cwd name => nfsLookup order transport cwd.data name func sent
  | read fh pos count => nfsRead order transport fh pos count func sent
  | write fh offset data => nfsWrite order transport fh offset data func sent
  | create fh name sat => nfsCreate order transport fh name sat func sent
  | readdir pfh cookie size => nfsReaddir order transport pfh cookie size func sent

def procedure : NfsCall → UInt32
  | getattr _ => nfsprocGetattr
  | lookup _ _ => nfsprocLookup
  | read _ _ _ => nfsprocRead
  | write _ _ _ => nfsprocWrite
  | create _ _ _ => nfsprocCreate
  | readdir _ _ _ => nfsprocReaddir

def arguments (order : ByteOrder) : NfsCall → List UInt8
  | getattr fh => bswap order fh.data
  | lookup cwd name => bswap order cwd.data ++ opaqueBytes order name
  | read fh pos count => bswap order fh.data ++ [pos, count, 0].flatMap (store32 .big)
  | write fh offset data =>
      bswap order fh.data ++ [0, offset, 0].flatMap (store32 .big) ++ opaqueBytes order data
  | create fh name sat =>
      bswap order fh.data ++ opaqueBytes order name ++ sat.words.flatMap (store32 .big)
  | readdir pfh cookie size =>
      bswap order pfh.data ++ [cookie, size].flatMap (store32 .big)

def request (order : ByteOrder) (txid : UInt32) (call : NfsCall) : List UInt8 :=
  callHeader order txid nfsNumber nfsVersion call.procedure ++ call.arguments order

def Fits (order : ByteOrder) (call : NfsCall) : Prop :=
  68 + (call.arguments order).length ≤ pbufSize

instance (order : ByteOrder) (call : NfsCall) : Decidable (call.Fits order) :=
  inferInstanceAs (Decidable (_ ≤ _))

end NfsCall

/-! ## Writing the arguments -/

namespace Pbuf

/-- A swapped copy of whole words that does not fit is a fault. -/
theorem Written.addtobuf_swapped_outside {pbuf : Pbuf} {bytes : List UInt8}
    (written : Written pbuf bytes) (order : ByteOrder) (data : List UInt8)
    (aligned : bytes.length % 4 = 0) (words : data.length % 4 = 0)
    (long : pbufSize < bytes.length + data.length) :
    pbuf.addtobuf order data true = .error .outside := by
  have cursor := written.cursor
  have beyond : pbuf.pos < 0 ∨ (pbufSize : Int) < pbuf.pos + data.length := by omega
  unfold Pbuf.addtobuf
  rw [if_neg (by omega), dif_pos beyond]

/-- An opaque value that does not fit is a fault.  The buffer is a number of whole
words, so it is not the padding that fails. -/
theorem Written.adddata_outside {pbuf : Pbuf} {bytes data : List UInt8}
    (written : Written pbuf bytes) (order : ByteOrder) (aligned : bytes.length % 4 = 0)
    (long : pbufSize < bytes.length + (opaqueBytes order data).length) :
    pbuf.adddata order data false = .error .outside := by
  rw [opaqueBytes_length] at long
  have four : ((order.store (UInt64.ofNat data.length)).take 4).length = 4 := by
    rw [List.length_take, ByteOrder.store_length]
    rfl
  unfold Pbuf.adddata
  by_cases room : bytes.length + 4 ≤ pbufSize
  · rcases written.addtobuf order ((order.store (UInt64.ofNat data.length)).take 4) true
      (fun _ => ⟨aligned, by rw [four]⟩) (by rw [four]; exact room) with
      ⟨counted, wroteSize, written⟩
    have outside := written.addtobuf_outside order data (by
      rw [List.length_append, if_pos rfl, bswap_length, four]
      unfold paddedLength pbufSize at long
      unfold pbufSize
      omega)
    simp only [bind, Except.bind, wroteSize, outside]
  · have outside := written.addtobuf_swapped_outside order
      ((order.store (UInt64.ofNat data.length)).take 4) aligned (by rw [four])
      (by rw [four]; omega)
    simp only [bind, Except.bind, outside]

/-- Behind whole words, this step appends these bytes, which are whole words too,
or leaves the buffer. -/
structure Appends (step : Pbuf → Except Fault Pbuf) (added : List UInt8) : Prop where
  words : added.length % 4 = 0
  fits : ∀ {pbuf : Pbuf} {bytes : List UInt8}, Written pbuf bytes → bytes.length % 4 = 0 →
    bytes.length + added.length ≤ pbufSize →
      ∃ next, step pbuf = .ok next ∧ Written next (bytes ++ added)
  outside : ∀ {pbuf : Pbuf} {bytes : List UInt8}, Written pbuf bytes → bytes.length % 4 = 0 →
    pbufSize < bytes.length + added.length → step pbuf = .error .outside

theorem appends_addtobuf (order : ByteOrder) {data : List UInt8} (words : data.length % 4 = 0) :
    Appends (fun pbuf => pbuf.addtobuf order data true) (bswap order data) where
  words := by rw [bswap_length, words]
  fits := by
    intro pbuf bytes written aligned room
    rw [bswap_length] at room
    exact written.addtobuf order data true (fun _ => ⟨aligned, words⟩) room
  outside := by
    intro pbuf bytes written aligned long
    rw [bswap_length] at long
    exact written.addtobuf_swapped_outside order data aligned words long

theorem appends_adddata (order : ByteOrder) (data : List UInt8) :
    Appends (fun pbuf => pbuf.adddata order data false) (opaqueBytes order data) where
  words := by
    have whole := paddedLength_mod data.length
    rw [opaqueBytes_length]
    omega
  fits := fun written aligned room => written.adddata order data aligned room
  outside := fun written aligned long => written.adddata_outside order aligned long

theorem Appends.andThen {first second : Pbuf → Except Fault Pbuf} {front back : List UInt8}
    (head : Appends first front) (tail : Appends second back) :
    Appends (fun pbuf => first pbuf >>= second) (front ++ back) where
  words := by
    have frontWords := head.words
    have backWords := tail.words
    rw [List.length_append]
    omega
  fits := by
    intro pbuf bytes written aligned room
    have frontWords := head.words
    rw [List.length_append] at room
    rcases head.fits written aligned (by omega) with ⟨middle, began, written⟩
    rcases tail.fits written (by rw [List.length_append]; omega)
      (by rw [List.length_append]; omega) with ⟨last, ended, written⟩
    rw [List.append_assoc] at written
    exact ⟨last, bind_eq_ok.mpr ⟨middle, began, ended⟩, written⟩
  outside := by
    intro pbuf bytes written aligned long
    have frontWords := head.words
    rw [List.length_append] at long
    by_cases room : bytes.length + front.length ≤ pbufSize
    · rcases head.fits written aligned room with ⟨middle, began, written⟩
      have outside := tail.outside written (by rw [List.length_append]; omega)
        (by rw [List.length_append]; omega)
      simp only [bind, Except.bind, began, outside]
    · have outside := head.outside written aligned (by omega)
      simp only [bind, Except.bind, outside]

end Pbuf

/-! ## What is sent -/

section Send

variable (order : ByteOrder) (transport : Transport Func callbackListLength) (func : Func)
  (sent : Int)

theorem filled_written (txid procnum : UInt32) {step : Pbuf → Except Fault Pbuf}
    {added : List UInt8} (appends : Pbuf.Appends step added)
    (fits : 68 + added.length ≤ pbufSize) :
    ∃ header filled, initbuf order txid nfsNumber nfsVersion procnum = .ok header ∧
      step header = .ok filled ∧
      filled.Written (callHeader order txid nfsNumber nfsVersion procnum ++ added) := by
  have length := callHeader_length order txid nfsNumber nfsVersion procnum
  rcases initbuf_written order txid nfsNumber nfsVersion procnum with ⟨header, began, written⟩
  rcases appends.fits written (by rw [length]) (by rw [length]; exact fits) with
    ⟨filled, stepped, written⟩
  exact ⟨header, filled, began, stepped, written⟩

/-- A buffer that holds a header and arguments is sent as it is, and the callback is
registered under its transaction. -/
theorem rpcSend_written (client : Client Func callbackListLength) {pbuf : Pbuf}
    {txid procnum : UInt32} {added : List UInt8}
    (written : pbuf.Written (callHeader order txid nfsNumber nfsVersion procnum ++ added))
    (c : RpcCallback Func) :
    rpcSend client pbuf (some c) sent =
        (client.callbacks.callbackAdd txid c).map (fun callbacks =>
          (sent, { client with callbacks := callbacks }, [.registered txid c])) ∧
      pbuf.buf.take pbuf.pos.toNat =
        callHeader order txid nfsNumber nfsVersion procnum ++ added := by
  have xid : extractXid pbuf.buf = txid := by
    have holds := written.holds.left
    rw [callHeader, List.flatMap_cons, List.append_assoc] at holds
    exact holds.left.wordAt
  have within := written.fits
  have cursor := written.cursor
  rw [List.length_append, callHeader_length] at cursor within
  constructor
  · unfold rpcSend
    rw [if_neg (by omega), if_neg (by omega)]
    dsimp only
    rw [xid]
  · rw [written.cursor, Int.toNat_natCast, written.content, List.take_left]

/-- A header and arguments that fit are sent as they travel, and the callback is
registered under the next transaction.  Arguments that do not fit are a fault. -/
theorem sendRequest_eq (procnum : UInt32) {step : Pbuf → Except Fault Pbuf}
    {added : List UInt8} (appends : Pbuf.Appends step added) :
    sendRequest order transport procnum step func sent =
      if 68 + added.length ≤ pbufSize then
        match transport.client.callbacks.callbackAdd (transport.curXid + 1) (.func func) with
        | none => .error .assertion
        | some callbacks => .ok (sent,
            { client := { transport.client with callbacks := callbacks },
              curXid := transport.curXid + 1 },
            { bytes := callHeader order (transport.curXid + 1) nfsNumber nfsVersion procnum ++
                added
              func := func })
      else .error .outside := by
  unfold sendRequest
  by_cases fits : 68 + added.length ≤ pbufSize
  · rcases filled_written order (transport.curXid + 1) procnum appends fits with
      ⟨header, filled, began, stepped, written⟩
    rcases rpcSend_written order sent transport.client written (.func func) with
      ⟨registered, bytes⟩
    rw [if_pos fits]
    simp only [bind, Except.bind, began, stepped, registered, bytes]
    cases transport.client.callbacks.callbackAdd (transport.curXid + 1) (.func func) with
    | none => rfl
    | some callbacks => rfl
  · have length := callHeader_length order (transport.curXid + 1) nfsNumber nfsVersion procnum
    rcases initbuf_written order (transport.curXid + 1) nfsNumber nfsVersion procnum with
      ⟨header, began, written⟩
    have outside := appends.outside written (by rw [length]) (by rw [length]; omega)
    rw [if_neg fits]
    simp only [bind, Except.bind, began, outside]

/-- The handle and the words of a structure change their bytes. -/
theorem bswap_withHandle (file : Cookie) (words : List UInt32) :
    bswap order (withHandle order file words) =
      bswap order file.data ++ words.flatMap (store32 .big) := by
  rw [withHandle, bswap_append order (by rw [file.whole]; rfl), bswap_words]

theorem Cookie.words (file : Cookie) : file.data.length % 4 = 0 := by
  rw [file.whole]
  rfl

theorem flatMap_store32_length (words : List UInt32) :
    (words.flatMap (store32 order)).length = 4 * words.length := by
  rw [List.length_flatMap]
  simp [Nat.mul_comm]

theorem appends_withHandle (file : Cookie) (words : List UInt32) :
    Pbuf.Appends (fun pbuf => pbuf.addtobuf order (withHandle order file words) true)
      (bswap order file.data ++ words.flatMap (store32 .big)) := by
  rw [← bswap_withHandle]
  apply Pbuf.appends_addtobuf
  have handle := file.words
  rw [withHandle, List.length_append, flatMap_store32_length]
  omega

theorem nfsLookup_eq_sendRequest (cwd name : List UInt8) :
    nfsLookup order transport cwd name func sent =
      sendRequest order transport nfsprocLookup
        (fun pbuf => pbuf.addtobuf order cwd true >>= fun pbuf => pbuf.addstring order name)
        func sent := by
  unfold nfsLookup sendRequest
  refine congrArg (initbuf order (transport.curXid + 1) nfsNumber nfsVersion nfsprocLookup >>= ·)
    (funext fun pbuf => ?_)
  exact (bind_assoc _ _ _).symm

end Send

/-- Every request that fits into a buffer is its header and its arguments, in the
order of the wire, and its function is registered under the next transaction.  A
request that does not fit is written beyond the buffer. -/
theorem NfsCall.send_request (order : ByteOrder)
    (transport : Transport Func callbackListLength) (func : Func) (sent : Int) (call : NfsCall) :
    call.send order transport func sent =
      if call.Fits order then
        match transport.client.callbacks.callbackAdd (transport.curXid + 1) (.func func) with
        | none => .error .assertion
        | some callbacks => .ok (sent,
            { client := { transport.client with callbacks := callbacks },
              curXid := transport.curXid + 1 },
            { bytes := call.request order (transport.curXid + 1), func := func })
      else .error .outside := by
  cases call with
  | getattr fh =>
      exact sendRequest_eq order transport func sent nfsprocGetattr
        (Pbuf.appends_addtobuf order fh.words)
  | lookup cwd name =>
      rw [NfsCall.send, nfsLookup_eq_sendRequest]
      exact sendRequest_eq order transport func sent nfsprocLookup
        ((Pbuf.appends_addtobuf order cwd.words).andThen (Pbuf.appends_adddata order name))
  | read fh pos count =>
      exact sendRequest_eq order transport func sent nfsprocRead
        (appends_withHandle order fh [pos, count, 0])
  | write fh offset data =>
      exact sendRequest_eq order transport func sent nfsprocWrite
        ((appends_withHandle order fh [0, offset, 0]).andThen (Pbuf.appends_adddata order data))
  | create fh name sat =>
      have attributes := Pbuf.appends_addtobuf order
        (show (sat.words.flatMap (store32 order)).length % 4 = 0 by
          rw [flatMap_store32_length]
          omega)
      rw [bswap_words] at attributes
      have appends := (Pbuf.appends_addtobuf order fh.words).andThen
        ((Pbuf.appends_adddata order name).andThen attributes)
      rw [← List.append_assoc] at appends
      exact sendRequest_eq order transport func sent nfsprocCreate appends
  | readdir pfh cookie size =>
      exact sendRequest_eq order transport func sent nfsprocReaddir
        (appends_withHandle order pfh [cookie, size])

end Nfs
end Ipbench
